import RatchetMessaging.Connection.Basic
import RatchetMessaging.Proofs.Key
import RatchetMessaging.Proofs.Ratchet.SkippedKeys

/-!
Contract: what of a state survives its record.

Owns:
- the fields of a record that are read back as they were written;
- `ReadFrom`, the state of a record, field by field;
- the state that is read back: the peer's keys, the receiving generation and the position of
  the receiving chain are those of the written state, under whatever limits it is read, and the
  cache holds only what it held.

Does not own: the bytes of a record.
-/

namespace RatchetMessaging

variable {σ : Type} {provider : Provider σ} {before after : σ}

theorem X25519PublicKey.ofField_toBytes (what : String) (key : X25519PublicKey) :
    ofField what key.toBytes = .ok key :=
  ofField_eq_ok.2 rfl

theorem Chain.ofRecord?_toRecord (kind : ChainKind) (chain : Option Chain) :
    Chain.ofRecord? kind (chain.map Chain.toRecord) =
      .ok (chain.map (fun chain => { chain with kind := kind })) := by
  cases chain with
  | none => rfl
  | some chain => simp [Chain.ofRecord?, Chain.ofRecord, Chain.toRecord, Except.map]

/-- A chain that is read has the key and the position of its record. -/
theorem Chain.ofRecord?_eq_ok {kind : ChainKind} {record : Option Record.ChainRecord}
    {chain : Option Chain} (read : Chain.ofRecord? kind record = .ok chain) :
    chain.map Chain.toRecord = record := by
  cases record with
  | none =>
    cases read
    rfl
  | some stored =>
    simp only [ofRecord?, ofRecord] at read
    split at read
    · rename_i key isKey
      cases read
      simp only [Option.map_some, toRecord, FixedBytes.ofBytes?_eq_some_iff.1 isKey]
    · cases read

namespace RatchetState

variable {limits : RatchetLimits} {state restored : RatchetState}

theorem readRemoteKey_toBytes (key : Option X25519PublicKey) :
    readRemoteKey ((key.map X25519PublicKey.toBytes).getD []) = .ok key := by
  cases key with
  | none => rfl
  | some key =>
    have notEmpty : key.toBytes.isEmpty = false := by
      rw [List.isEmpty_eq_false_iff, ← List.length_pos_iff]
      exact (key.bytes.length_eq.symm ▸ by decide : 0 < key.bytes.toBytes.length)
    simp [readRemoteKey, notEmpty, X25519PublicKey.ofField_toBytes, Except.map]

theorem readSuperseded_toRecords (superseded : List SupersededKey) :
    readSuperseded (superseded.map (fun superseded =>
      { publicKey := superseded.key.toBytes, generation := superseded.generation })) =
        .ok superseded := by
  induction superseded with
  | nil => rfl
  | cons first rest inductionHypothesis =>
    unfold readSuperseded at inductionHypothesis ⊢
    simp only [List.map_cons, List.mapM_cons, X25519PublicKey.ofField_toBytes,
      inductionHypothesis]
    rfl

/-- A state that is read from a record: every part is read of its field, under the limits where
they bound it. -/
structure ReadFrom (provider : Provider σ) (limits : RatchetLimits)
    (record : Record.ConnectionRecord) (before after : σ) (restored : RatchetState) : Prop where
  isInitiator : restored.isInitiator = record.isInitiator
  rootKey : FixedBytes.ofBytes? 32 record.rootKey = some restored.rootKey
  remoteKey : readRemoteKey record.remoteDhPublic = .ok restored.remoteKey
  supersededKeys : readSuperseded record.previousRemoteKeys = .ok restored.supersededKeys
  retiredKeys : readRetired record.retiredRemoteKeys = .ok restored.retiredKeys
  sendingChain : Chain.ofRecord? .sending record.sendingChain = .ok restored.sendingChain
  receivingChain : Chain.ofRecord? .receiving record.receivingChain = .ok restored.receivingChain
  keyPair : X25519KeyPair.ofStored provider record.dhSecret record.dhPublic before =
    .ok restored.keyPair after
  skipped : SkippedKeys.ofRecords record.skippedKeys limits.maxSkippedMessageKeys =
    .ok restored.skipped
  replay : restored.replay = readReplay limits record.replay
  receivingGeneration : restored.receivingGeneration = record.receivingGeneration
  previousSendingChainLength :
    restored.previousSendingChainLength = record.previousSendingChainLength
  sendingRatchetPending : restored.sendingRatchetPending = record.sendingRatchetPending
  associatedData : restored.associatedData = record.associatedData
  fingerprint : restored.fingerprint = record.fingerprint
  ratchetSteps : restored.ratchetSteps = record.ratchetSteps

theorem readFrom_of_ofRecord {record : Record.ConnectionRecord}
    (read : ofRecord provider limits record before = .ok restored after) :
    ReadFrom provider limits record before after restored := by
  by_cases sameVersion : record.version = Record.SessionRecord.currentVersion
  · cases isRoot : FixedBytes.ofBytes? 32 record.rootKey with
    | none => simp [ofRecord, sameVersion, isRoot] at read
    | some rootKey =>
      simp only [ofRecord, sameVersion, isRoot, ne_eq, not_true_eq_false, if_false,
        Crypto.bind_eq_ok, Crypto.ofExcept_eq_ok, Crypto.pure_eq_ok] at read
      obtain ⟨_, _, ⟨isRemote, rfl⟩, _, _, ⟨areSuperseded, rfl⟩, _, _, ⟨areRetired, rfl⟩, _, _,
        ⟨isSending, rfl⟩, _, _, ⟨isReceiving, rfl⟩, _, _, isPair, _, _, ⟨cache, rfl⟩, rfl, rfl⟩ :=
        read
      exact {
        isInitiator := rfl
        rootKey := isRoot
        remoteKey := isRemote
        supersededKeys := areSuperseded
        retiredKeys := areRetired
        sendingChain := isSending
        receivingChain := isReceiving
        keyPair := isPair
        skipped := cache
        replay := rfl
        receivingGeneration := rfl
        previousSendingChainLength := rfl
        sendingRatchetPending := rfl
        associatedData := rfl
        fingerprint := rfl
        ratchetSteps := rfl }
  · simp only [ofRecord, sameVersion, ne_eq, not_false_eq_true, if_true, Crypto.bind_eq_ok,
      Crypto.throw_ne_ok, false_and, exists_false] at read

/-- What is read of a record that is accepted. -/
theorem ofRecord_eq_ok {record : Record.ConnectionRecord}
    (read : ofRecord provider limits record before = .ok restored after) :
    restored.rootKey.toBytes = record.rootKey ∧
      restored.keyPair.secret.toBytes = record.dhSecret ∧
      restored.keyPair.publicKey.toBytes = record.dhPublic ∧
      readSuperseded record.previousRemoteKeys = .ok restored.supersededKeys ∧
      readRetired record.retiredRemoteKeys = .ok restored.retiredKeys ∧
      restored.sendingChain.map Chain.toRecord = record.sendingChain ∧
      restored.receivingGeneration = record.receivingGeneration ∧
      restored.previousSendingChainLength = record.previousSendingChainLength ∧
      restored.associatedData = record.associatedData ∧
      restored.ratchetSteps = record.ratchetSteps := by
  have parts := readFrom_of_ofRecord read
  obtain ⟨sameSecret, samePublic, _⟩ := X25519KeyPair.ofStored_eq_ok.1 parts.keyPair
  exact ⟨FixedBytes.ofBytes?_eq_some_iff.1 parts.rootKey, sameSecret, samePublic,
    parts.supersededKeys, parts.retiredKeys, Chain.ofRecord?_eq_ok parts.sendingChain,
    parts.receivingGeneration, parts.previousSendingChainLength, parts.associatedData,
    parts.ratchetSteps⟩

/-- A state that is read back has the keys and positions of the written one, and its cache
holds nothing else. -/
theorem ofRecord_toRecord_eq_ok {connectionId : UInt32}
    (read : ofRecord provider limits (state.toRecord connectionId) before = .ok restored after) :
    restored.remoteKey = state.remoteKey ∧
      restored.receivingGeneration = state.receivingGeneration ∧
      restored.supersededKeys = state.supersededKeys ∧
      restored.receivingChain =
        state.receivingChain.map (fun chain => { chain with kind := .receiving }) ∧
      ∀ slot key, restored.skipped.get? slot = some key → state.skipped.get? slot = some key := by
  have parts := readFrom_of_ofRecord read
  have remoteKey := parts.remoteKey
  have supersededKeys := parts.supersededKeys
  have receivingChain := parts.receivingChain
  simp only [toRecord, readRemoteKey_toBytes, readSuperseded_toRecords, Chain.ofRecord?_toRecord,
    Except.ok.injEq] at remoteKey supersededKeys receivingChain
  exact ⟨remoteKey.symm, parts.receivingGeneration, supersededKeys.symm, receivingChain.symm,
    fun _ _ look => SkippedKeys.get?_of_get?_ofRecords parts.skipped look⟩

end RatchetState

end RatchetMessaging
