import RatchetMessaging.Record.Identity

/-!
Contract: the records that a store keeps.

Owns: the outermost record with its schema version, and the refusal of other versions.

Does not own: where records are kept.
-/

namespace RatchetMessaging.Record

open Wire

/-- One record of the store: the identity, or one connection. -/
structure SessionRecord where
  version : UInt32 := 0
  identityKeys : Option IdentityRecord := none
  ratchetState : Option ConnectionRecord := none
deriving DecidableEq, Repr

namespace SessionRecord

/-- How the record is written and read. -/
def codec : RecordCodec SessionRecord where
  name := "PersistedSession"
  blank := {}
  fields :=
    [.plain 1 "version" .word ⟨version, fun value record => { record with version := value }⟩,
      .nested 2 "identity_keys" IdentityRecord.codec
        ⟨identityKeys, fun value record => { record with identityKeys := value }⟩,
      .nested 3 "ratchet_state" ConnectionRecord.codec
        ⟨ratchetState, fun value record => { record with ratchetState := value }⟩]

/-- The listing shows what the listings of the parts show. -/
def listing (record : SessionRecord) : String :=
  Text.listing "PersistedSession"
    [("version", toString record.version),
      ("identity_keys", Text.optional (record.identityKeys.map IdentityRecord.listing)),
      ("ratchet_state", Text.optional (record.ratchetState.map ConnectionRecord.listing))] true

/-- The only schema version that can be read back. -/
def currentVersion : UInt32 := 1

/-- A record of the identity alone. -/
def ofIdentity (identity : IdentityRecord) : SessionRecord :=
  { version := currentVersion, identityKeys := some identity }

/-- A record of one connection alone. -/
def ofConnection (connection : ConnectionRecord) : SessionRecord :=
  { version := currentVersion, ratchetState := some connection }

/-- Refuse a record of another schema version. -/
def checkVersion (record : SessionRecord) : Except Error SessionRecord :=
  if record.version = currentVersion then .ok record
  else .error (.decode s!"Unsupported schema version: {record.version}")

/-- The bytes of a record. -/
def encode (record : SessionRecord) : Bytes := codec.write record

/-- Read a record back. -/
def decode (bytes : Bytes) : Except Error SessionRecord := do
  checkVersion (← codec.decode bytes)

end SessionRecord

end RatchetMessaging.Record
