import RatchetMessaging.Proofs.Connection.Exchange
import RatchetMessaging.Proofs.Ratchet.Snapshot

/-!
Contract: the part of a session that only turns of the ratchet change.

Owns:
- `TurnFields`, this part as it is recorded;
- messages on chains that exist, and a turn that is only asked for, leave it;
- the record that is stored for a turn is that of the state after it;
- a record is read back with the same part, but for retired keys beyond those that are kept, and no
  message makes them more.

Does not own: storage.
-/

namespace RatchetMessaging

variable {σ : Type} {provider : Provider σ} {before after : σ} {connectionId : UInt32}

/-- What the turns of the ratchet have made of a session, as it is recorded. -/
structure TurnFields where
  rootKey : Bytes
  dhSecret : Bytes
  dhPublic : Bytes
  receivingGeneration : UInt32
  previousRemoteKeys : List Record.PreviousRemoteKeyRecord
  retiredRemoteKeys : List Bytes
  previousSendingChainLength : UInt32
  ratchetSteps : UInt64
deriving DecidableEq

/-- The part of a record that only turns of the ratchet change. -/
def Record.ConnectionRecord.turnFields (record : ConnectionRecord) : TurnFields where
  rootKey := record.rootKey
  dhSecret := record.dhSecret
  dhPublic := record.dhPublic
  receivingGeneration := record.receivingGeneration
  previousRemoteKeys := record.previousRemoteKeys
  retiredRemoteKeys := record.retiredRemoteKeys
  previousSendingChainLength := record.previousSendingChainLength
  ratchetSteps := record.ratchetSteps

namespace TurnFields

/-- The same part without the oldest retired keys, if they are more than are kept. -/
def trimmed (fields : TurnFields) : TurnFields :=
  { fields with
    retiredRemoteKeys := fields.retiredRemoteKeys.drop
      (fields.retiredRemoteKeys.length - RatchetState.maxRetiredKeys) }

theorem length_trimmed_le (fields : TurnFields) :
    fields.trimmed.retiredRemoteKeys.length ≤ RatchetState.maxRetiredKeys := by
  simp only [trimmed, List.length_drop]
  omega

theorem trimmed_of_le {fields : TurnFields}
    (kept : fields.retiredRemoteKeys.length ≤ RatchetState.maxRetiredKeys) :
    fields.trimmed = fields := by
  rw [trimmed, Nat.sub_eq_zero_of_le kept, List.drop_zero]

end TurnFields

/-- A list that is read element by element is written back as it was, if each element is. -/
theorem map_eq_of_mapM_eq_ok {α β : Type} {read : α → Except Error β} {write : β → α}
    (inverse : ∀ field value, read field = .ok value → write value = field) {fields : List α}
    {values : List β} (reads : fields.mapM read = .ok values) : values.map write = fields := by
  induction fields generalizing values with
  | nil =>
    cases reads
    rfl
  | cons first rest inductionHypothesis =>
    rw [List.mapM_cons] at reads
    cases firstRead : read first with
    | error failure =>
      rw [firstRead] at reads
      cases reads
    | ok value =>
      rw [firstRead] at reads
      cases restRead : rest.mapM read with
      | error failure =>
        rw [restRead] at reads
        cases reads
      | ok others =>
        rw [restRead] at reads
        cases reads
        rw [List.map_cons, inverse first value firstRead, inductionHypothesis restRead]

namespace RatchetState

variable {limits : RatchetLimits} {state restored : RatchetState}

/-! ### Reading a record back -/

/-- The part of a state that only turns of the ratchet change. -/
def turnFields (state : RatchetState) : TurnFields := (state.toRecord 0).turnFields

theorem readSuperseded_eq_ok {records : List Record.PreviousRemoteKeyRecord}
    {superseded : List SupersededKey} (reads : readSuperseded records = .ok superseded) :
    superseded.map (fun superseded =>
      ({ publicKey := superseded.key.toBytes
         generation := superseded.generation } : Record.PreviousRemoteKeyRecord)) = records := by
  refine map_eq_of_mapM_eq_ok (fun record value read => ?_) reads
  cases isKey : X25519PublicKey.ofField "superseded ratchet key" record.publicKey with
  | error failure =>
    rw [isKey] at read
    cases read
  | ok key =>
    rw [isKey] at read
    cases read
    rw [X25519PublicKey.ofField_eq_ok.1 isKey]

/-- A record is read back without the oldest retired keys, if it lists too many. -/
theorem readRetired_eq_ok {fields : List Bytes} {retiredKeys : List X25519PublicKey}
    (reads : readRetired fields = .ok retiredKeys) :
    retiredKeys.map X25519PublicKey.toBytes = fields.drop (fields.length - maxRetiredKeys) := by
  unfold readRetired at reads
  cases areKeys : fields.mapM (X25519PublicKey.ofField "retired ratchet key") with
  | error failure =>
    rw [areKeys] at reads
    cases reads
  | ok keys =>
    have same := map_eq_of_mapM_eq_ok (fun _ _ => X25519PublicKey.ofField_eq_ok.1) areKeys
    rw [areKeys] at reads
    have dropped : keys.drop (keys.length - maxRetiredKeys) = retiredKeys := Except.ok.inj reads
    rw [← dropped, List.map_drop, same, ← same, List.length_map]

/-- A state is read back with the part that the record has, but for retired keys beyond those that
are kept. -/
theorem turnFields_of_ofRecord {record : Record.ConnectionRecord}
    (reads : ofRecord provider limits record before = .ok restored after) :
    restored.turnFields = record.turnFields.trimmed := by
  obtain ⟨sameRoot, sameSecret, samePublic, areSuperseded, areRetired, _, sameGeneration,
    sameLength, _, sameSteps⟩ := ofRecord_eq_ok reads
  simp only [turnFields, toRecord, Record.ConnectionRecord.turnFields, TurnFields.trimmed,
    sameRoot, sameSecret, samePublic, readSuperseded_eq_ok areSuperseded,
    readRetired_eq_ok areRetired, sameGeneration, sameLength, sameSteps]

/-! ### Retired keys -/

theorem length_pushRetired_le {retiredKeys : List X25519PublicKey}
    (kept : retiredKeys.length ≤ maxRetiredKeys) (key : X25519PublicKey) :
    (pushRetired retiredKeys key).length ≤ maxRetiredKeys := by
  unfold pushRetired
  simp only
  split
  · rw [List.length_drop, List.length_append, List.length_singleton]
    omega
  · omega

theorem length_retireKeys_le (gone : List SupersededKey) {retiredKeys : List X25519PublicKey}
    (kept : retiredKeys.length ≤ maxRetiredKeys) :
    (retireKeys gone retiredKeys).length ≤ maxRetiredKeys := by
  induction gone generalizing retiredKeys with
  | nil => exact kept
  | cons first rest inductionHypothesis =>
    exact inductionHypothesis (length_pushRetired_le kept first.key)

end RatchetState

/-! ### Changes -/

namespace Staged

variable {staged : Staged}

/-- What is stored for a turn is the state after it. -/
theorem eq_of_turnRecord {record : Record.ConnectionRecord}
    (turned : staged.turnRecord connectionId = some record) (state : RatchetState) :
    record = (staged.resulting state).toRecord connectionId := by
  obtain ⟨change, accepted⟩ := staged
  cases change with
  | replace replacement => cases accepted <;> (cases turned; rfl)
  | send chain => cases turned
  | receive reception => cases turned

theorem turnFields_of_unturned (unturned : staged.turnRecord connectionId = none)
    (state : RatchetState) : (staged.resulting state).turnFields = state.turnFields := by
  obtain ⟨change, accepted⟩ := staged
  cases change with
  | replace replacement => cases unturned
  | send chain => cases accepted <;> rfl
  | receive reception => cases accepted <;> rfl

end Staged

namespace Connection

variable {connection : Connection} {state : RatchetState} {message : RatchetMessage}
  {plaintext associatedData : Bytes} {staged : Staged}

/-- Sending retires no key of the peer. -/
theorem retiredKeys_of_stageEncrypt (established : connection.phase = .established state)
    (encrypted : connection.stageEncrypt provider plaintext associatedData before =
      .ok (message, staged) after) :
    (staged.resulting state).retiredKeys = state.retiredKeys := by
  obtain ⟨_, source, _, _, _, _, _, isState, sends, _, _, _, _, _, changed⟩ :=
    stageEncrypt_eq_ok encrypted
  rw [established] at isState
  cases isState
  rw [changed]
  cases sends with
  | same notDue => rfl
  | turned due turns =>
    obtain ⟨_, _, _, _, _, _, _, _, _, _, _, rfl⟩ := RatchetState.sendingTurn_eq_ok turns
    rfl

/-- Receiving keeps the limit of retired keys. -/
theorem length_retiredKeys_of_stageDecrypt (established : connection.phase = .established state)
    (decrypted : connection.stageDecrypt provider message associatedData before =
      .ok (plaintext, staged) after)
    (kept : state.retiredKeys.length ≤ RatchetState.maxRetiredKeys) :
    (staged.resulting state).retiredKeys.length ≤ RatchetState.maxRetiredKeys := by
  obtain ⟨_, _, _, _, _, isState, _, route, _, _, changed⟩ := stageDecrypt_eq_ok decrypted
  rw [established] at isState
  cases isState
  rw [changed]
  cases route with
  | late _ _ => exact kept
  | present _ receives =>
    obtain ⟨_, _, rfl⟩ := RatchetState.receive_frame receives
    exact kept
  | turn _ turns receives =>
    obtain ⟨_, _, rfl⟩ := RatchetState.receive_frame receives
    obtain ⟨_, _, _, _, _, _, skipped, _, _, _, rfl⟩ := RatchetState.receivingTurn_eq_ok turns
    obtain ⟨_, _, rfl⟩ := RatchetState.skipReceivingUntil_frame skipped
    obtain ⟨gone, _, _, superseded⟩ := RatchetState.supersede_eq connection.limits _
    rw [superseded]
    exact RatchetState.length_retireKeys_le gone kept

end Connection

end RatchetMessaging
