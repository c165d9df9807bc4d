import RatchetMessaging.Identity.Basic
import RatchetMessaging.Record.Identity

/-!
Contract: the public keys that a party publishes.

Owns: the bundle, its record and bytes, and the check of its signed pre-key.

Does not own: the agreement that a bundle makes possible.
-/

namespace RatchetMessaging

variable {σ : Type}

/-- A key of a handshake message that may be absent, in which case its field is empty. -/
def readOptionalKey (bytes : Bytes) : Except Error (Option X25519PublicKey) :=
  if bytes.isEmpty then .ok none else (X25519PublicKey.ofBytes bytes).map some

/-- The field of a key that may be absent. -/
def writeOptionalKey (key : Option X25519PublicKey) : Bytes :=
  (key.map X25519PublicKey.toBytes).getD []

/-- The public keys of a party. -/
structure Bundle where
  signingKey : Ed25519PublicKey
  agreementKey : X25519PublicKey
  signedPreKeyId : UInt32
  signedPreKey : X25519PublicKey
  signature : Ed25519Signature
  oneTimePreKeys : List OneTimePreKeyPublic
  ephemeralKey : Option X25519PublicKey
deriving DecidableEq

namespace Bundle

/-- Whether the signed pre-key is vouched for by the signing key. -/
def verify (provider : Provider σ) (bundle : Bundle) : Crypto σ Bool :=
  verifySignature provider bundle.signingKey bundle.signedPreKey.toBytes bundle.signature

/-- The one-time pre-key that an initiator uses. -/
def firstOneTimePreKey (bundle : Bundle) : Option OneTimePreKeyPublic :=
  bundle.oneTimePreKeys.head?

/-- The record of a bundle. -/
def toRecord (bundle : Bundle) : Record.BundleRecord where
  identityEd25519 := bundle.signingKey.toBytes
  identityX25519 := bundle.agreementKey.toBytes
  signedPreKeyId := bundle.signedPreKeyId
  signedPreKeyPublic := bundle.signedPreKey.toBytes
  signedPreKeySignature := bundle.signature.toBytes
  oneTimePreKeys := bundle.oneTimePreKeys.map (fun preKey =>
    { id := preKey.id, publicKey := preKey.publicKey.toBytes })
  ephemeralX25519 := writeOptionalKey bundle.ephemeralKey

/-- Read the public half of a one-time pre-key. -/
def readOneTimePreKey (record : Record.OneTimePreKeyPublicRecord) :
    Except Error OneTimePreKeyPublic := do
  return ⟨record.id, ← X25519PublicKey.ofBytes record.publicKey⟩

/-- The bundle of a record. The one-time pre-keys are checked first. -/
def ofRecord (record : Record.BundleRecord) : Except Error Bundle := do
  let oneTimePreKeys ← record.oneTimePreKeys.mapM readOneTimePreKey
  return {
    signingKey := ← Ed25519PublicKey.ofBytes record.identityEd25519
    agreementKey := ← X25519PublicKey.ofBytes record.identityX25519
    signedPreKeyId := record.signedPreKeyId
    signedPreKey := ← X25519PublicKey.ofBytes record.signedPreKeyPublic
    signature := ← Ed25519Signature.ofBytes record.signedPreKeySignature
    oneTimePreKeys := oneTimePreKeys
    ephemeralKey := ← readOptionalKey record.ephemeralX25519 }

/-- The bytes of a bundle. -/
def toBytes (bundle : Bundle) : Bytes := Record.BundleRecord.codec.write bundle.toRecord

/-- Read a received bundle. -/
def ofBytes (bytes : Bytes) : Except Error Bundle := do
  ofRecord (← Record.BundleRecord.codec.decode bytes)

/-- The listing shows every part. -/
def listing (bundle : Bundle) : String :=
  Text.listing "PublicKeyBundle"
    [("identity_ed25519", bundle.signingKey.listing),
      ("identity_x25519", bundle.agreementKey.listing),
      ("signed_pre_key_id", toString bundle.signedPreKeyId),
      ("signed_pre_key_public", bundle.signedPreKey.listing),
      ("signed_pre_key_signature", Ed25519Signature.listing),
      ("one_time_pre_keys",
        Text.sequence (bundle.oneTimePreKeys.map OneTimePreKeyPublic.listing)),
      ("ephemeral_x25519",
        Text.optional (bundle.ephemeralKey.map X25519PublicKey.listing))] false

end Bundle

namespace Identity

/-- The bundle of a live identity. -/
def bundle (identity : Identity) : Except Error Bundle := do
  identity.ensureLive
  return {
    signingKey := identity.signing.publicKey
    agreementKey := identity.agreement.publicKey
    signedPreKeyId := identity.signedPreKey.id
    signedPreKey := identity.signedPreKey.publicKey
    signature := identity.signedPreKey.signature
    oneTimePreKeys := identity.oneTimePreKeys.publicKeys
    ephemeralKey := identity.ephemeral.map X25519KeyPair.publicKey }

end Identity

end RatchetMessaging
