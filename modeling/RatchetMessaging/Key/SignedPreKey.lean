import RatchetMessaging.Key.Agreement
import RatchetMessaging.Key.Disposable
import RatchetMessaging.Key.Signing

/-!
Contract: signed pre-keys, medium-term agreement keys vouched for by the signing key of
their owner.

Owns: generation and signing, the check of a stored pre-key, and verification. The
signature covers the bytes of the public half.

Does not own: rotation.
-/

namespace RatchetMessaging

/-- A numbered agreement pair with a signature over its public half. -/
structure SignedPreKey where
  id : UInt32
  keyPair : X25519KeyPair
  signature : Ed25519Signature
deriving DecidableEq

namespace SignedPreKey

variable {σ : Type}

/-- The public half. -/
def publicKey (preKey : SignedPreKey) : X25519PublicKey := preKey.keyPair.publicKey

/-- Sign an existing pair. -/
def sign (provider : Provider σ) (id : UInt32) (keyPair : X25519KeyPair)
    (signer : Ed25519KeyPair) : Crypto σ SignedPreKey := do
  let signature ← signer.sign provider keyPair.publicKey.toBytes
  return ⟨id, keyPair, signature⟩

/-- Generate and sign a pre-key. -/
def generate (provider : Provider σ) (id : UInt32) (signer : Ed25519KeyPair) :
    Crypto σ SignedPreKey := do
  let keyPair ← X25519KeyPair.generate provider
  sign provider id keyPair signer

/-- Generate a pre-key for a signer that may have been given up: the pair is drawn before the
signer is asked. -/
def generateFor (provider : Provider σ) (id : UInt32) (signer : Disposable Ed25519KeyPair) :
    Crypto σ SignedPreKey := do
  let keyPair ← X25519KeyPair.generate provider
  sign provider id keyPair (← Crypto.ofExcept signer.live)

/-- Check the signature under the owner's verification key. -/
def verify (provider : Provider σ) (preKey : SignedPreKey) (owner : Ed25519PublicKey) :
    Crypto σ Bool :=
  verifySignature provider owner preKey.publicKey.toBytes preKey.signature

/-- Put a stored pre-key together; a signature that does not verify is refused. -/
def ofStored (provider : Provider σ) (id : UInt32) (keyPair : X25519KeyPair)
    (signature : Ed25519Signature) (owner : Ed25519PublicKey) : Crypto σ SignedPreKey := do
  let preKey : SignedPreKey := ⟨id, keyPair, signature⟩
  let verified ← preKey.verify provider owner
  if !verified then
    throw (.decode "signed pre-key signature does not verify")
  return preKey

/-- The listing shows number and public half. -/
def listing (preKey : SignedPreKey) : String :=
  Text.listing "SignedPreKey"
    [("id", toString preKey.id), ("key_pair", preKey.keyPair.listing),
      ("signature", Ed25519Signature.listing)] false

end SignedPreKey

end RatchetMessaging
