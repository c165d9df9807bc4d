import RatchetMessaging.Identity.Basic

/-!
Contract: identities derived from a master key.

Owns: the label of each derived key, and the derivation, which draws nothing at random: the
same master key and membership always give the same keys.

Does not own: the secrecy of the master key.
-/

namespace RatchetMessaging.Identity

variable {σ : Type}

/-- The fewest bytes of a master key. -/
def minMasterKeyLength : Nat := 32

/-- What a derived key is for. -/
inductive DerivedKey where
  | signing
  | agreement
  | signedPreKey
  | oneTimePreKey (id : UInt32)
deriving DecidableEq, Repr

/-- The label that separates a derived key from all others. -/
def DerivedKey.label : DerivedKey → Bytes
  | signing => Bytes.ofText "vigil-identity-ed25519"
  | agreement => Bytes.ofText "vigil-identity-x25519"
  | signedPreKey => Bytes.ofText "vigil-signed-pre-key"
  | oneTimePreKey id => Bytes.ofText s!"vigil-one-time-pre-key/{id}"

/-- The seed of a derived key. -/
def deriveSeed (provider : Provider σ) (masterKey membership : Bytes) (key : DerivedKey) :
    Crypto σ (FixedBytes 32) :=
  provider.hkdf (some membership) masterKey key.label 32

/-- Derive the one-time pre-keys numbered from `firstOneTimePreKeyId + offset` on. -/
def deriveOneTimePreKeys (provider : Provider σ) (masterKey membership : Bytes) :
    (count : Nat) → (offset : Nat) → OneTimePreKeys → Crypto σ OneTimePreKeys
  | 0, _, preKeys => pure preKeys
  | count + 1, offset, preKeys => do
    let number := firstOneTimePreKeyId.toNat + offset
    if UInt32.size ≤ number then
      throw (.invalidInput "too many one-time pre-keys")
    let id := UInt32.ofNat number
    let seed ← deriveSeed provider masterKey membership (.oneTimePreKey id)
    let keyPair ← X25519KeyPair.ofSecret provider seed
    deriveOneTimePreKeys provider masterKey membership count (offset + 1)
      (preKeys.insert id keyPair)

/-- The identity of a member under a master key, with `count` one-time pre-keys. -/
def derive (provider : Provider σ) (masterKey membership : Bytes) (count : Nat) :
    Crypto σ Identity := do
  if masterKey.length < minMasterKeyLength then
    throw (.invalidInput "master key must be at least 32 bytes")
  if membership.isEmpty then
    throw (.invalidInput "membership id must not be empty")
  let signing ←
    Ed25519KeyPair.ofSeed provider (← deriveSeed provider masterKey membership .signing)
  let agreement ←
    X25519KeyPair.ofSecret provider (← deriveSeed provider masterKey membership .agreement)
  let preKeyPair ←
    X25519KeyPair.ofSecret provider (← deriveSeed provider masterKey membership .signedPreKey)
  let signedPreKey ← SignedPreKey.sign provider firstSignedPreKeyId preKeyPair signing
  let oneTimePreKeys ←
    deriveOneTimePreKeys provider masterKey membership count 0 .empty
  return {
    signing := signing
    agreement := agreement
    signedPreKey := signedPreKey
    oneTimePreKeys := oneTimePreKeys }

end RatchetMessaging.Identity
