import RatchetMessaging.Record.Session

/-!
Contract: all records of the protocol by name.

Owns: the list of the record types with their codecs and listings.

Does not own: any record type.
-/

namespace RatchetMessaging.Record

open Wire

/-- A type of records. -/
structure RecordType where
  {ρ : Type}
  codec : RecordCodec ρ
  listing : ρ → String

/-- All types of records. -/
def catalog : List RecordType :=
  [⟨ChainRecord.codec, ChainRecord.listing⟩,
    ⟨SkippedKeyRecord.codec, SkippedKeyRecord.listing⟩,
    ⟨PreviousRemoteKeyRecord.codec, PreviousRemoteKeyRecord.listing⟩,
    ⟨ReplayGenerationRecord.codec, ReplayGenerationRecord.listing⟩,
    ⟨ReplayRecord.codec, ReplayRecord.listing⟩,
    ⟨ConnectionRecord.codec, ConnectionRecord.listing⟩,
    ⟨OneTimePreKeyRecord.codec, OneTimePreKeyRecord.listing⟩,
    ⟨IdentityRecord.codec, IdentityRecord.listing⟩,
    ⟨OneTimePreKeyPublicRecord.codec, OneTimePreKeyPublicRecord.listing⟩,
    ⟨BundleRecord.codec, BundleRecord.listing⟩,
    ⟨HelloRecord.codec, HelloRecord.listing⟩,
    ⟨SessionRecord.codec, SessionRecord.listing⟩]

/-- The type of records of a name. -/
def ofName? (name : String) : Option RecordType :=
  catalog.find? (fun entry => entry.codec.name = name)

end RatchetMessaging.Record
