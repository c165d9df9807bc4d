import RatchetMessaging.Key.Agreement
import RatchetMessaging.OrderedMap

/-!
Contract: one-time pre-keys, agreement keys that serve at most one handshake each.

Owns: the unused keys in order of their numbers, the first batch with consecutive
numbers, later batches with random numbers, and the removal of a used key.

Does not own: the decision when more keys are needed.
-/

namespace RatchetMessaging

/-- The number of the first one-time pre-key. -/
def firstOneTimePreKeyId : UInt32 := 2

/-- The public half of a one-time pre-key, as published. -/
structure OneTimePreKeyPublic where
  id : UInt32
  publicKey : X25519PublicKey
deriving DecidableEq

namespace OneTimePreKeyPublic

/-- The listing shows both parts. -/
def listing (preKey : OneTimePreKeyPublic) : String :=
  Text.listing "OneTimePreKeyPublic"
    [("id", toString preKey.id), ("public_key", preKey.publicKey.listing)] false

end OneTimePreKeyPublic

/-- The unused one-time pre-keys by number. -/
abbrev OneTimePreKeys := NumberMap X25519KeyPair

/-- What a batch of new keys has come to: the keys afterwards, the numbers added so far,
and the failure that ended the batch early, if one did. Keys made before the failure
stay. -/
structure PreKeyBatch where
  preKeys : OneTimePreKeys
  added : List UInt32
  failure : Option Error

namespace OneTimePreKeys

variable {σ : Type}

/-- The public halves in order of their numbers. -/
def publicKeys (preKeys : OneTimePreKeys) : List OneTimePreKeyPublic :=
  preKeys.entries.map (fun entry => ⟨entry.1, entry.2.publicKey⟩)

/-- Whether a number can be given to a new key. -/
def isFree (preKeys : OneTimePreKeys) (reserved id : UInt32) : Bool :=
  id != reserved && !preKeys.contains id

/-- Make `count` keys with consecutive numbers from `id` on, leaving out numbers in use.
Every number tried uses up one of the `numbers` that remain. -/
def generateFrom (provider : Provider σ) (reserved : UInt32) :
    (numbers : Nat) → (count : Nat) → (id : UInt32) → OneTimePreKeys →
      Crypto σ OneTimePreKeys
  | _, 0, _, preKeys => pure preKeys
  | 0, _ + 1, _, _ => throw (.keyGeneration "one-time pre-key ids exhausted")
  | numbers + 1, count + 1, id, preKeys =>
    if isFree preKeys reserved id then do
      let keyPair ← X25519KeyPair.generate provider
      generateFrom provider reserved numbers count (id + 1) (preKeys.insert id keyPair)
    else
      generateFrom provider reserved numbers (count + 1) (id + 1) preKeys

/-- The keys of a new identity, numbered from two on. -/
def generateInitial (provider : Provider σ) (reserved : UInt32) (count : Nat) :
    Crypto σ OneTimePreKeys :=
  generateFrom provider reserved (0xFFFFFFFF - firstOneTimePreKeyId.toNat) count
    firstOneTimePreKeyId .empty

/-- Random numbers tried for one key. -/
def maxIdDraws : Nat := 64

/-- Draw numbers until one is free, `draws` times at most. -/
def drawFreeId (provider : Provider σ) (preKeys : OneTimePreKeys) (reserved : UInt32) :
    (draws : Nat) → Crypto σ UInt32
  | 0 => throw (.keyGeneration "could not find an unused one-time pre-key id")
  | draws + 1 => do
    let id ← provider.randomWord
    if firstOneTimePreKeyId ≤ id && isFree preKeys reserved id then
      return id
    else
      drawFreeId provider preKeys reserved draws

/-- One new key under a random number. -/
def generateOne (provider : Provider σ) (preKeys : OneTimePreKeys) (reserved : UInt32) :
    Crypto σ (UInt32 × X25519KeyPair) := do
  let id ← drawFreeId provider preKeys reserved maxIdDraws
  let keyPair ← X25519KeyPair.generate provider
  return (id, keyPair)

/-- Add `count` keys under random numbers. The batch ends at the first failure and keeps
what it has made by then, so this computation itself never fails. -/
def addRandom (provider : Provider σ) (reserved : UInt32) :
    (count : Nat) → PreKeyBatch → Crypto σ PreKeyBatch
  | 0, batch => pure batch
  | count + 1, batch => fun state =>
    match generateOne provider batch.preKeys reserved state with
    | .error failure after => .ok { batch with failure := some failure } after
    | .ok (id, keyPair) after =>
      addRandom provider reserved count
        { batch with
          preKeys := batch.preKeys.insert id keyPair
          added := batch.added ++ [id] } after

end OneTimePreKeys

/-- The listing of one key shows number and public half. -/
def oneTimePreKeyListing (id : UInt32) (keyPair : X25519KeyPair) : String :=
  Text.listing "OneTimePreKeyRecord"
    [("id", toString id), ("key_pair", keyPair.listing)] false

end RatchetMessaging
