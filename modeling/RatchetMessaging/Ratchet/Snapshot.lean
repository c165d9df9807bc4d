import RatchetMessaging.Ratchet.Turn
import RatchetMessaging.Record.Session

/-!
Contract: the state of a double ratchet as a record.

Owns: the record of a state, and the state of a record under the reader's limits.

Does not own: the bytes of a record.
-/

namespace RatchetMessaging

variable {σ : Type}

namespace Chain

/-- The record of a chain. -/
def toRecord (chain : Chain) : Record.ChainRecord where
  key := chain.key.toBytes
  index := chain.index

/-- The chain of a record. -/
def ofRecord (kind : ChainKind) (record : Record.ChainRecord) : Except Error Chain :=
  match FixedBytes.ofBytes? 32 record.key with
  | some key => .ok ⟨kind, key, record.index⟩
  | none => .error (.decode s!"chain key has {record.key.length} bytes")

/-- The chain of a record that may be absent. -/
def ofRecord? (kind : ChainKind) : Option Record.ChainRecord → Except Error (Option Chain)
  | none => .ok none
  | some record => (ofRecord kind record).map some

end Chain

namespace RatchetState

/-- The record of a state. -/
def toRecord (state : RatchetState) (connectionId : UInt32) : Record.ConnectionRecord where
  version := Record.SessionRecord.currentVersion
  connectionId := connectionId
  isInitiator := state.isInitiator
  rootKey := state.rootKey.toBytes
  sendingChain := state.sendingChain.map Chain.toRecord
  receivingChain := state.receivingChain.map Chain.toRecord
  dhSecret := state.keyPair.secret.toBytes
  dhPublic := state.keyPair.publicKey.toBytes
  remoteDhPublic := (state.remoteKey.map X25519PublicKey.toBytes).getD []
  receivingGeneration := state.receivingGeneration
  previousRemoteKeys := state.supersededKeys.map (fun superseded =>
    { publicKey := superseded.key.toBytes, generation := superseded.generation })
  previousSendingChainLength := state.previousSendingChainLength
  sendingRatchetPending := state.sendingRatchetPending
  skippedKeys := state.skipped.toRecords
  replay := some state.replay.toRecord
  associatedData := state.associatedData
  fingerprint := state.fingerprint
  ratchetSteps := state.ratchetSteps
  retiredRemoteKeys := state.retiredKeys.map X25519PublicKey.toBytes

/-- The peer's ratchet key of a record; an empty field means that it is unknown. -/
def readRemoteKey (bytes : Bytes) : Except Error (Option X25519PublicKey) :=
  if bytes.isEmpty then .ok none
  else (X25519PublicKey.ofField "remote ratchet key" bytes).map some

/-- The superseded keys of their records. -/
def readSuperseded (records : List Record.PreviousRemoteKeyRecord) :
    Except Error (List SupersededKey) :=
  records.mapM (fun record => do
    let key ← X25519PublicKey.ofField "superseded ratchet key" record.publicKey
    return ⟨key, record.generation⟩)

/-- The retired keys of a record; of too many the newest count. -/
def readRetired (fields : List Bytes) : Except Error (List X25519PublicKey) := do
  let keys ← fields.mapM (X25519PublicKey.ofField "retired ratchet key")
  return keys.drop (keys.length - maxRetiredKeys)

/-- The replay memory of a record that may be absent. -/
def readReplay (limits : RatchetLimits) : Option Record.ReplayRecord → ReplayWindow
  | some record => .ofRecord record limits.replayWindow limits.maxTrackedGenerations
  | none => .new limits.replayWindow limits.maxTrackedGenerations

/-- The state of a record, under the reader's limits. -/
def ofRecord (provider : Provider σ) (limits : RatchetLimits)
    (record : Record.ConnectionRecord) : Crypto σ RatchetState := do
  if record.version ≠ Record.SessionRecord.currentVersion then
    throw (.decode s!"Unsupported schema version: {record.version}")
  match FixedBytes.ofBytes? 32 record.rootKey with
  | none => throw (.decode s!"root key has {record.rootKey.length} bytes")
  | some rootKey =>
    let remoteKey ← Crypto.ofExcept (readRemoteKey record.remoteDhPublic)
    let supersededKeys ← Crypto.ofExcept (readSuperseded record.previousRemoteKeys)
    let retiredKeys ← Crypto.ofExcept (readRetired record.retiredRemoteKeys)
    let sendingChain ← Crypto.ofExcept (Chain.ofRecord? .sending record.sendingChain)
    let receivingChain ← Crypto.ofExcept (Chain.ofRecord? .receiving record.receivingChain)
    let keyPair ← X25519KeyPair.ofStored provider record.dhSecret record.dhPublic
    let skipped ← Crypto.ofExcept
      (SkippedKeys.ofRecords record.skippedKeys limits.maxSkippedMessageKeys)
    return {
      isInitiator := record.isInitiator
      rootKey := rootKey
      sendingChain := sendingChain
      receivingChain := receivingChain
      keyPair := keyPair
      remoteKey := remoteKey
      receivingGeneration := record.receivingGeneration
      supersededKeys := supersededKeys
      retiredKeys := retiredKeys
      previousSendingChainLength := record.previousSendingChainLength
      sendingRatchetPending := record.sendingRatchetPending
      skipped := skipped
      replay := readReplay limits record.replay
      associatedData := record.associatedData
      fingerprint := record.fingerprint
      ratchetSteps := record.ratchetSteps }

end RatchetState

end RatchetMessaging
