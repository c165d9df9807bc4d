import RatchetMessaging.Key.OneTimePreKey
import RatchetMessaging.Key.SignedPreKey

/-!
Contract: the long-term keys of a party.

Owns: the identity with its pre-keys and its pending ephemeral key, the generation of a
new identity, and the disposal after which every operation is refused.

Does not own: derivation from a master key, the upkeep of the pre-keys, or the handshake.
-/

namespace RatchetMessaging

/-- The keys of a party. -/
structure Identity where
  signing : Ed25519KeyPair
  agreement : X25519KeyPair
  signedPreKey : SignedPreKey
  oneTimePreKeys : OneTimePreKeys
  /-- The key of a handshake that is being prepared. -/
  ephemeral : Option X25519KeyPair := none
  disposed : Bool := false
deriving DecidableEq

namespace Identity

variable {σ : Type}

/-- The number of the first signed pre-key. -/
def firstSignedPreKeyId : UInt32 := 1

/-- A new identity with `count` one-time pre-keys. -/
def generate (provider : Provider σ) (count : Nat) : Crypto σ Identity := do
  let signing ← Ed25519KeyPair.generate provider
  let agreement ← X25519KeyPair.generate provider
  let signedPreKey ← SignedPreKey.generate provider firstSignedPreKeyId signing
  let oneTimePreKeys ← OneTimePreKeys.generateInitial provider firstSignedPreKeyId count
  return {
    signing := signing
    agreement := agreement
    signedPreKey := signedPreKey
    oneTimePreKeys := oneTimePreKeys }

/-- Refuse a disposed identity. -/
def ensureLive (identity : Identity) : Except Error Unit :=
  if identity.disposed then .error (.objectDisposed "IdentityKeys") else .ok ()

/-- Prepare the ephemeral key of the next handshake; one prepared before is wiped. -/
def prepareEphemeral (provider : Provider σ) (identity : Identity) :
    Crypto σ (X25519PublicKey × Identity) := do
  Crypto.ofExcept identity.ensureLive
  let keyPair ← X25519KeyPair.generate provider
  return (keyPair.publicKey, { identity with ephemeral := some keyPair })

/-- Check a remote signed pre-key. The lengths are checked before anything is verified. -/
def verifyRemoteSignedPreKey (provider : Provider σ) (owner preKey signature : Bytes) :
    Crypto σ Bool := do
  let owner ← Crypto.ofExcept (Ed25519PublicKey.ofBytes owner)
  let preKey ← Crypto.ofExcept (X25519PublicKey.ofBytes preKey)
  let signature ← Crypto.ofExcept (Ed25519Signature.ofBytes signature)
  verifySignature provider owner preKey.toBytes signature

/-- How many one-time pre-keys are left. -/
def oneTimePreKeyCount (identity : Identity) : Nat := identity.oneTimePreKeys.size

/-- Whether a one-time pre-key is left. -/
def hasOneTimePreKey (identity : Identity) (id : UInt32) : Bool :=
  identity.oneTimePreKeys.contains id

/-- The current signed pre-key pair, for a caller that knows its number. -/
def signedPreKeyPair (identity : Identity) (id : UInt32) : Except Error X25519KeyPair := do
  identity.ensureLive
  if id ≠ identity.signedPreKey.id then
    throw (.handshake s!"unknown signed pre-key {id}")
  return identity.signedPreKey.keyPair

/-- Remove a one-time pre-key, so that it never serves again. -/
def consumeOneTimePreKey (identity : Identity) (id : UInt32) : Identity :=
  { identity with oneTimePreKeys := identity.oneTimePreKeys.erase id }

/-- Wipe every private key. -/
def dispose (identity : Identity) : Identity :=
  { identity with oneTimePreKeys := .empty, ephemeral := none, disposed := true }

/-- The listing shows the verification key, the number of the signed pre-key, and how many
one-time pre-keys are left. -/
def listing (identity : Identity) : String :=
  Text.listing "IdentityKeys"
    [("identity_ed25519", identity.signing.publicKey.listing),
      ("signed_pre_key_id", toString identity.signedPreKey.id),
      ("one_time_pre_keys", toString identity.oneTimePreKeyCount),
      ("disposed", toString identity.disposed)] true

end Identity

end RatchetMessaging
