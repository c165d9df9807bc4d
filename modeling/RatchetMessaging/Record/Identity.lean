import RatchetMessaging.Record.Ratchet

/-!
Contract: the records of an identity and of the handshake.

Owns: the fields of the stored identity, of the published bundle and of the hello, their
numbers on the wire, and their listings. A listing of secret material shows no key.

Does not own: which field values make usable keys.
-/

namespace RatchetMessaging.Record

open Wire

/-- A stored one-time pre-key. -/
structure OneTimePreKeyRecord where
  id : UInt32 := 0
  publicKey : Bytes := []
  secretKey : Bytes := []
deriving DecidableEq, Repr

namespace OneTimePreKeyRecord

/-- How the record is written and read. -/
def codec : RecordCodec OneTimePreKeyRecord where
  name := "OneTimePreKeyState"
  blank := {}
  fields :=
    [.plain 1 "id" .word ⟨id, fun value record => { record with id := value }⟩,
      .plain 2 "public" .bytes ⟨publicKey, fun value record => { record with publicKey := value }⟩,
      .plain 3 "secret" .bytes ⟨secretKey, fun value record => { record with secretKey := value }⟩]

/-- The listing shows the number and no key. -/
def listing (record : OneTimePreKeyRecord) : String :=
  Text.listing "OneTimePreKeyState" [("id", toString record.id)] true

end OneTimePreKeyRecord

/-- The stored long-term keys of a party. -/
structure IdentityRecord where
  ed25519Public : Bytes := []
  ed25519Secret : Bytes := []
  identityX25519Public : Bytes := []
  identityX25519Secret : Bytes := []
  signedPreKeyId : UInt32 := 0
  signedPreKeyPublic : Bytes := []
  signedPreKeySecret : Bytes := []
  signedPreKeySignature : Bytes := []
  oneTimePreKeys : List OneTimePreKeyRecord := []
deriving DecidableEq, Repr

namespace IdentityRecord

/-- How the record is written and read. -/
def codec : RecordCodec IdentityRecord where
  name := "IdentityKeysState"
  blank := {}
  fields :=
    [.plain 1 "ed25519_public" .bytes
        ⟨ed25519Public, fun value record => { record with ed25519Public := value }⟩,
      .plain 2 "ed25519_secret" .bytes
        ⟨ed25519Secret, fun value record => { record with ed25519Secret := value }⟩,
      .plain 3 "identity_x25519_public" .bytes
        ⟨identityX25519Public, fun value record => { record with identityX25519Public := value }⟩,
      .plain 4 "identity_x25519_secret" .bytes
        ⟨identityX25519Secret, fun value record => { record with identityX25519Secret := value }⟩,
      .plain 5 "signed_pre_key_id" .word
        ⟨signedPreKeyId, fun value record => { record with signedPreKeyId := value }⟩,
      .plain 6 "signed_pre_key_public" .bytes
        ⟨signedPreKeyPublic, fun value record => { record with signedPreKeyPublic := value }⟩,
      .plain 7 "signed_pre_key_secret" .bytes
        ⟨signedPreKeySecret, fun value record => { record with signedPreKeySecret := value }⟩,
      .plain 8 "signed_pre_key_signature" .bytes
        ⟨signedPreKeySignature, fun value record => { record with signedPreKeySignature := value }⟩,
      .repeatedNested 9 "one_time_pre_keys" OneTimePreKeyRecord.codec
        ⟨oneTimePreKeys, fun value record => { record with oneTimePreKeys := value }⟩]

/-- The listing shows numbers and no key. -/
def listing (record : IdentityRecord) : String :=
  Text.listing "IdentityKeysState"
    [("signed_pre_key_id", toString record.signedPreKeyId),
      ("one_time_pre_keys", Text.sequence (record.oneTimePreKeys.map OneTimePreKeyRecord.listing))]
    true

end IdentityRecord

/-- The public half of a one-time pre-key. -/
structure OneTimePreKeyPublicRecord where
  id : UInt32 := 0
  publicKey : Bytes := []
deriving DecidableEq, Repr

namespace OneTimePreKeyPublicRecord

/-- How the record is written and read. -/
def codec : RecordCodec OneTimePreKeyPublicRecord where
  name := "OneTimePreKeyPublicProto"
  blank := {}
  fields :=
    [.plain 1 "id" .word ⟨id, fun value record => { record with id := value }⟩,
      .plain 2 "public" .bytes ⟨publicKey, fun value record => { record with publicKey := value }⟩]

/-- The listing shows every part. -/
def listing (record : OneTimePreKeyPublicRecord) : String :=
  Text.listing "OneTimePreKeyPublicProto"
    [("id", toString record.id), ("public", bytesListing record.publicKey)] false

end OneTimePreKeyPublicRecord

/-- The public keys that a party publishes. -/
structure BundleRecord where
  identityEd25519 : Bytes := []
  identityX25519 : Bytes := []
  signedPreKeyId : UInt32 := 0
  signedPreKeyPublic : Bytes := []
  signedPreKeySignature : Bytes := []
  oneTimePreKeys : List OneTimePreKeyPublicRecord := []
  ephemeralX25519 : Bytes := []
deriving DecidableEq, Repr

namespace BundleRecord

/-- How the record is written and read. -/
def codec : RecordCodec BundleRecord where
  name := "PublicKeyBundleProto"
  blank := {}
  fields :=
    [.plain 1 "identity_ed25519" .bytes
        ⟨identityEd25519, fun value record => { record with identityEd25519 := value }⟩,
      .plain 2 "identity_x25519" .bytes
        ⟨identityX25519, fun value record => { record with identityX25519 := value }⟩,
      .plain 3 "signed_pre_key_id" .word
        ⟨signedPreKeyId, fun value record => { record with signedPreKeyId := value }⟩,
      .plain 4 "signed_pre_key_public" .bytes
        ⟨signedPreKeyPublic, fun value record => { record with signedPreKeyPublic := value }⟩,
      .plain 5 "signed_pre_key_signature" .bytes
        ⟨signedPreKeySignature, fun value record => { record with signedPreKeySignature := value }⟩,
      .repeatedNested 6 "one_time_pre_keys" OneTimePreKeyPublicRecord.codec
        ⟨oneTimePreKeys, fun value record => { record with oneTimePreKeys := value }⟩,
      .plain 7 "ephemeral_x25519" .bytes
        ⟨ephemeralX25519, fun value record => { record with ephemeralX25519 := value }⟩]

/-- The listing shows every part. -/
def listing (record : BundleRecord) : String :=
  Text.listing "PublicKeyBundleProto"
    [("identity_ed25519", bytesListing record.identityEd25519),
      ("identity_x25519", bytesListing record.identityX25519),
      ("signed_pre_key_id", toString record.signedPreKeyId),
      ("signed_pre_key_public", bytesListing record.signedPreKeyPublic),
      ("signed_pre_key_signature", bytesListing record.signedPreKeySignature),
      ("one_time_pre_keys",
        Text.sequence (record.oneTimePreKeys.map OneTimePreKeyPublicRecord.listing)),
      ("ephemeral_x25519", bytesListing record.ephemeralX25519)] false

end BundleRecord

/-- What an initiator sends so that the responder can agree on the secret. -/
structure HelloRecord where
  identityEd25519 : Bytes := []
  identityX25519 : Bytes := []
  ephemeralX25519 : Bytes := []
  signedPreKeyId : UInt32 := 0
  oneTimePreKeyId : Option UInt32 := none
  ratchetPublic : Bytes := []
deriving DecidableEq, Repr

namespace HelloRecord

/-- How the record is written and read. -/
def codec : RecordCodec HelloRecord where
  name := "HandshakeInitProto"
  blank := {}
  fields :=
    [.plain 1 "identity_ed25519" .bytes
        ⟨identityEd25519, fun value record => { record with identityEd25519 := value }⟩,
      .plain 2 "identity_x25519" .bytes
        ⟨identityX25519, fun value record => { record with identityX25519 := value }⟩,
      .plain 3 "ephemeral_x25519" .bytes
        ⟨ephemeralX25519, fun value record => { record with ephemeralX25519 := value }⟩,
      .plain 4 "signed_pre_key_id" .word
        ⟨signedPreKeyId, fun value record => { record with signedPreKeyId := value }⟩,
      .optional 5 "one_time_pre_key_id" .word
        ⟨oneTimePreKeyId, fun value record => { record with oneTimePreKeyId := value }⟩,
      .plain 6 "ratchet_public" .bytes
        ⟨ratchetPublic, fun value record => { record with ratchetPublic := value }⟩]

/-- The listing shows every part. -/
def listing (record : HelloRecord) : String :=
  Text.listing "HandshakeInitProto"
    [("identity_ed25519", bytesListing record.identityEd25519),
      ("identity_x25519", bytesListing record.identityX25519),
      ("ephemeral_x25519", bytesListing record.ephemeralX25519),
      ("signed_pre_key_id", toString record.signedPreKeyId),
      ("one_time_pre_key_id", Text.optional (record.oneTimePreKeyId.map toString)),
      ("ratchet_public", bytesListing record.ratchetPublic)] false

end HelloRecord

end RatchetMessaging.Record
