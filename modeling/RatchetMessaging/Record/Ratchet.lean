import RatchetMessaging.Wire.Codec
import RatchetMessaging.Text.Listing

/-!
Contract: the records of one connection.

Owns: the fields of the connection record and of the records nested in it, their numbers
on the wire, and their listings. A listing of secret material shows no key.

Does not own: which field values make a usable connection.
-/

namespace RatchetMessaging.Record

open Wire

/-- A byte string as the sequence of its values. -/
def bytesListing (bytes : Bytes) : String :=
  Text.sequence (bytes.map (fun byte => toString byte.toNat))

/-- A stored chain: its key and the position of its next message. -/
structure ChainRecord where
  key : Bytes := []
  index : UInt32 := 0
deriving DecidableEq, Repr

namespace ChainRecord

/-- How the record is written and read. -/
def codec : RecordCodec ChainRecord where
  name := "ChainStateProto"
  blank := {}
  fields :=
    [.plain 1 "key" .bytes ⟨key, fun value record => { record with key := value }⟩,
      .plain 2 "index" .word ⟨index, fun value record => { record with index := value }⟩]

/-- The listing shows the position and no key. -/
def listing (record : ChainRecord) : String :=
  Text.listing "ChainStateProto" [("index", toString record.index)] true

end ChainRecord

/-- A stored key of a message that was skipped. -/
structure SkippedKeyRecord where
  generation : UInt32 := 0
  index : UInt32 := 0
  key : Bytes := []
deriving DecidableEq, Repr

namespace SkippedKeyRecord

/-- How the record is written and read. -/
def codec : RecordCodec SkippedKeyRecord where
  name := "SkippedKeyProto"
  blank := {}
  fields :=
    [.plain 1 "generation" .word
        ⟨generation, fun value record => { record with generation := value }⟩,
      .plain 2 "index" .word ⟨index, fun value record => { record with index := value }⟩,
      .plain 3 "key" .bytes ⟨key, fun value record => { record with key := value }⟩]

/-- The listing shows the position and no key. -/
def listing (record : SkippedKeyRecord) : String :=
  Text.listing "SkippedKeyProto"
    [("generation", toString record.generation), ("index", toString record.index)] true

end SkippedKeyRecord

/-- A superseded ratchet key of the peer, with its generation. -/
structure PreviousRemoteKeyRecord where
  publicKey : Bytes := []
  generation : UInt32 := 0
deriving DecidableEq, Repr

namespace PreviousRemoteKeyRecord

/-- How the record is written and read. -/
def codec : RecordCodec PreviousRemoteKeyRecord where
  name := "PreviousRemoteKeyProto"
  blank := {}
  fields :=
    [.plain 1 "public" .bytes ⟨publicKey, fun value record => { record with publicKey := value }⟩,
      .plain 2 "generation" .word
        ⟨generation, fun value record => { record with generation := value }⟩]

/-- The listing shows every part. -/
def listing (record : PreviousRemoteKeyRecord) : String :=
  Text.listing "PreviousRemoteKeyProto"
    [("public", bytesListing record.publicKey), ("generation", toString record.generation)] false

end PreviousRemoteKeyRecord

/-- The accepted positions of one generation. -/
structure ReplayGenerationRecord where
  generation : UInt32 := 0
  highest : UInt32 := 0
  seen : List UInt32 := []
deriving DecidableEq, Repr

namespace ReplayGenerationRecord

/-- How the record is written and read. -/
def codec : RecordCodec ReplayGenerationRecord where
  name := "ReplayGenerationProto"
  blank := {}
  fields :=
    [.plain 1 "generation" .word
        ⟨generation, fun value record => { record with generation := value }⟩,
      .plain 2 "highest" .word ⟨highest, fun value record => { record with highest := value }⟩,
      .packed 3 "seen" .word ⟨seen, fun value record => { record with seen := value }⟩]

/-- The listing shows every part. -/
def listing (record : ReplayGenerationRecord) : String :=
  Text.listing "ReplayGenerationProto"
    [("generation", toString record.generation), ("highest", toString record.highest),
      ("seen", Text.sequence (record.seen.map toString))] false

end ReplayGenerationRecord

/-- The accepted positions of all tracked generations. -/
structure ReplayRecord where
  generationFloor : UInt32 := 0
  generations : List ReplayGenerationRecord := []
deriving DecidableEq, Repr

namespace ReplayRecord

/-- How the record is written and read. -/
def codec : RecordCodec ReplayRecord where
  name := "ReplayWindowProto"
  blank := {}
  fields :=
    [.plain 1 "generation_floor" .word
        ⟨generationFloor, fun value record => { record with generationFloor := value }⟩,
      .repeatedNested 2 "generations" ReplayGenerationRecord.codec
        ⟨generations, fun value record => { record with generations := value }⟩]

/-- The listing shows every part. -/
def listing (record : ReplayRecord) : String :=
  Text.listing "ReplayWindowProto"
    [("generation_floor", toString record.generationFloor),
      ("generations", Text.sequence (record.generations.map ReplayGenerationRecord.listing))]
    false

end ReplayRecord

/-- The stored state of one connection. -/
structure ConnectionRecord where
  version : UInt32 := 0
  connectionId : UInt32 := 0
  isInitiator : Bool := false
  rootKey : Bytes := []
  sendingChain : Option ChainRecord := none
  receivingChain : Option ChainRecord := none
  dhSecret : Bytes := []
  dhPublic : Bytes := []
  remoteDhPublic : Bytes := []
  receivingGeneration : UInt32 := 0
  previousRemoteKeys : List PreviousRemoteKeyRecord := []
  previousSendingChainLength : UInt32 := 0
  sendingRatchetPending : Bool := false
  skippedKeys : List SkippedKeyRecord := []
  replay : Option ReplayRecord := none
  associatedData : Bytes := []
  fingerprint : String := ""
  ratchetSteps : UInt64 := 0
  retiredRemoteKeys : List Bytes := []
deriving DecidableEq, Repr

namespace ConnectionRecord

/-- How the record is written and read. -/
def codec : RecordCodec ConnectionRecord where
  name := "ConnectionStateProto"
  blank := {}
  fields :=
    [.plain 1 "version" .word ⟨version, fun value record => { record with version := value }⟩,
      .plain 2 "connection_id" .word
        ⟨connectionId, fun value record => { record with connectionId := value }⟩,
      .plain 3 "is_initiator" .truth
        ⟨isInitiator, fun value record => { record with isInitiator := value }⟩,
      .plain 4 "root_key" .bytes ⟨rootKey, fun value record => { record with rootKey := value }⟩,
      .nested 5 "sending_chain" ChainRecord.codec
        ⟨sendingChain, fun value record => { record with sendingChain := value }⟩,
      .nested 6 "receiving_chain" ChainRecord.codec
        ⟨receivingChain, fun value record => { record with receivingChain := value }⟩,
      .plain 7 "dh_secret" .bytes ⟨dhSecret, fun value record => { record with dhSecret := value }⟩,
      .plain 8 "dh_public" .bytes ⟨dhPublic, fun value record => { record with dhPublic := value }⟩,
      .plain 9 "remote_dh_public" .bytes
        ⟨remoteDhPublic, fun value record => { record with remoteDhPublic := value }⟩,
      .plain 10 "receiving_generation" .word
        ⟨receivingGeneration, fun value record => { record with receivingGeneration := value }⟩,
      .repeatedNested 11 "previous_remote_keys" PreviousRemoteKeyRecord.codec
        ⟨previousRemoteKeys, fun value record => { record with previousRemoteKeys := value }⟩,
      .plain 12 "previous_sending_chain_length" .word
        ⟨previousSendingChainLength,
          fun value record => { record with previousSendingChainLength := value }⟩,
      .plain 13 "sending_ratchet_pending" .truth
        ⟨sendingRatchetPending, fun value record => { record with sendingRatchetPending := value }⟩,
      .repeatedNested 14 "skipped_keys" SkippedKeyRecord.codec
        ⟨skippedKeys, fun value record => { record with skippedKeys := value }⟩,
      .nested 15 "replay" ReplayRecord.codec
        ⟨replay, fun value record => { record with replay := value }⟩,
      .plain 16 "associated_data" .bytes
        ⟨associatedData, fun value record => { record with associatedData := value }⟩,
      .plain 17 "fingerprint" .text
        ⟨fingerprint, fun value record => { record with fingerprint := value }⟩,
      .plain 18 "ratchet_steps" .longWord
        ⟨ratchetSteps, fun value record => { record with ratchetSteps := value }⟩,
      .repeated 19 "retired_remote_keys" .bytes
        ⟨retiredRemoteKeys, fun value record => { record with retiredRemoteKeys := value }⟩]

/-- The listing shows positions and the fingerprint, no key. -/
def listing (record : ConnectionRecord) : String :=
  Text.listing "ConnectionStateProto"
    [("version", toString record.version), ("connection_id", toString record.connectionId),
      ("is_initiator", toString record.isInitiator),
      ("receiving_generation", toString record.receivingGeneration),
      ("sending_chain", Text.optional (record.sendingChain.map ChainRecord.listing)),
      ("receiving_chain", Text.optional (record.receivingChain.map ChainRecord.listing)),
      ("fingerprint", Text.quote record.fingerprint)] true

end ConnectionRecord

end RatchetMessaging.Record
