import RatchetMessaging.Handshake.Bundle

/-!
Contract: the first message of a handshake.

Owns: the hello, its record and its bytes.

Does not own: the agreement that it completes.
-/

namespace RatchetMessaging

/-- What the initiator sends so that the responder can agree on the secret. -/
structure Hello where
  signingKey : Ed25519PublicKey
  agreementKey : X25519PublicKey
  ephemeralKey : X25519PublicKey
  signedPreKeyId : UInt32
  oneTimePreKeyId : Option UInt32
  /-- The initiator's first ratchet key. It lets the responder send first. -/
  ratchetKey : Option X25519PublicKey
deriving DecidableEq

namespace Hello

/-- The record of a hello. -/
def toRecord (hello : Hello) : Record.HelloRecord where
  identityEd25519 := hello.signingKey.toBytes
  identityX25519 := hello.agreementKey.toBytes
  ephemeralX25519 := hello.ephemeralKey.toBytes
  signedPreKeyId := hello.signedPreKeyId
  oneTimePreKeyId := hello.oneTimePreKeyId
  ratchetPublic := writeOptionalKey hello.ratchetKey

/-- The hello of a record. -/
def ofRecord (record : Record.HelloRecord) : Except Error Hello := do
  return {
    signingKey := ← Ed25519PublicKey.ofBytes record.identityEd25519
    agreementKey := ← X25519PublicKey.ofBytes record.identityX25519
    ephemeralKey := ← X25519PublicKey.ofBytes record.ephemeralX25519
    signedPreKeyId := record.signedPreKeyId
    oneTimePreKeyId := record.oneTimePreKeyId
    ratchetKey := ← readOptionalKey record.ratchetPublic }

/-- The bytes of a hello. -/
def toBytes (hello : Hello) : Bytes := Record.HelloRecord.codec.write hello.toRecord

/-- Read a received hello. -/
def ofBytes (bytes : Bytes) : Except Error Hello := do
  ofRecord (← Record.HelloRecord.codec.decode bytes)

/-- The listing shows every part. -/
def listing (hello : Hello) : String :=
  Text.listing "HandshakeInit"
    [("identity_ed25519", hello.signingKey.listing),
      ("identity_x25519", hello.agreementKey.listing),
      ("ephemeral_x25519", hello.ephemeralKey.listing),
      ("signed_pre_key_id", toString hello.signedPreKeyId),
      ("one_time_pre_key_id", Text.optional (hello.oneTimePreKeyId.map toString)),
      ("ratchet_public", Text.optional (hello.ratchetKey.map X25519PublicKey.listing))] false

end Hello

end RatchetMessaging
