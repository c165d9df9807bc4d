import RatchetMessaging.Proofs.Connection.Restoration
import RatchetMessaging.Proofs.Provider.Steady

/-!
Contract: a connection that can be read back from its export can be so after every message.

Owns:
- `Stocked`, the bounds of the retired keys and of the cache that reading back needs, which every
  reception keeps; unlike the tables of a session they hold of whatever was read from a record;
- `Portable`, for a connection that is read back from its export as it is: a new one, one that was
  read from any record, and one that has sent or read a message.

Does not own: where records are kept.
-/

namespace RatchetMessaging

variable {σ τ : Type} {provider : Provider σ} {working : Provider τ} {before after : σ}
  {limits : RatchetLimits}

/-! ### Bounds -/

namespace RatchetState

variable {state result : RatchetState}

/-- The retired keys and the cached ones keep within their bounds. -/
structure Stocked (limits : RatchetLimits) (state : RatchetState) : Prop where
  retired : state.retiredKeys.length ≤ maxRetiredKeys
  coherent : state.skipped.Coherent
  capacity : state.skipped.capacity = limits.maxSkippedMessageKeys

namespace Stocked

theorem taking (stocked : state.Stocked limits) (slot : Slot) :
    Stocked limits { state with skipped := state.skipped.erase slot } where
  retired := stocked.retired
  coherent := stocked.coherent.erase slot
  capacity := (SkippedKeys.capacity_erase _ _).trans stocked.capacity

theorem passing (stocked : state.Stocked limits) (chain : Option Chain) (generation : UInt32)
    (messageKeys : List MessageKey) :
    Stocked limits { state with
      receivingChain := chain
      skipped := state.skipped.insertAll generation messageKeys } where
  retired := stocked.retired
  coherent := stocked.coherent.insertAll _ _
  capacity := (SkippedKeys.capacity_insertAll _ _ _).trans stocked.capacity

theorem skipping (stocked : state.Stocked limits) {limit : UInt32}
    (skipped : skipReceivingUntil provider limits limit state before = .ok result after) :
    result.Stocked limits := by
  rcases skipReceivingUntil_eq_ok skipped with ⟨rfl, _⟩ | ⟨_, _, _, _, _, _, _, rfl⟩
  · exact stocked
  · exact stocked.passing _ _ _

theorem receiving (stocked : state.Stocked limits) {index : UInt32} {key : FixedBytes 32}
    (received : receive provider limits index state before = .ok (key, result) after) :
    result.Stocked limits := by
  rcases receive_eq_ok received with
    ⟨_, _, _, _, rfl⟩ | ⟨_, _, _, _, _, _, _, _, _, _, _, _, rfl⟩
  · exact stocked.taking _
  · exact stocked.passing _ _ _

theorem turning (stocked : state.Stocked limits) {header : MessageHeader}
    (turned : state.receivingTurn provider limits header before = .ok result after) :
    result.Stocked limits := by
  obtain ⟨passed, _, _, _, _, _, skipped, _, _, _, rfl⟩ := receivingTurn_eq_ok turned
  have passedStocked := stocked.skipping skipped
  obtain ⟨gone, kept, _, superseded⟩ := supersede_eq limits passed
  rw [superseded]
  exact {
    retired := length_retireKeys_le gone passedStocked.retired
    coherent := coherent_forgetChains passedStocked.coherent gone
    capacity := (capacity_forgetChains gone _).trans passedStocked.capacity }

end Stocked

theorem Importable.stocked (importable : state.Importable provider limits) :
    state.Stocked limits :=
  ⟨importable.retired, importable.coherent, importable.capacity⟩

end RatchetState

/-! ### One message -/

namespace Connection

theorem Route.stocked {state received : RatchetState} {header : MessageHeader}
    {key : FixedBytes 32} {generation : UInt32}
    (route : Route provider limits state header before after key generation received)
    (stocked : state.Stocked limits) : received.Stocked limits := by
  cases route with
  | late placed cached => exact stocked.taking _
  | present placed receives =>
    have learnt : RatchetState.Stocked limits { state with remoteKey := some header.ratchetKey } :=
      { stocked with }
    exact learnt.receiving receives
  | turn placed turns receives => exact (stocked.turning turns).receiving receives

/-- A request leaves a state that can be read back, if it changes no limits. -/
theorem Performs.importable (repeats : working.Repeats provider) {connection : Connection}
    {state result : RatchetState} {request : Request} {accepted : Option Acceptance}
    (performs : Performs provider connection state request accepted limits result)
    (keeps : request.keepsLimits = true)
    (importable : state.Importable working connection.limits) :
    limits = connection.limits ∧ result.Importable working connection.limits := by
  have sided := performs.sided repeats keeps importable.toSided
  cases performs with
  | sent sends isChain advanced =>
    refine ⟨rfl, ?_⟩
    cases sends with
    | same notDue => exact { sided, importable with }
    | turned due turns =>
      obtain ⟨_, _, _, _, _, _, _, _, _, _, _, rfl⟩ := RatchetState.sendingTurn_eq_ok turns
      exact { sided, importable with }
  | forced => exact ⟨rfl, { sided, importable with }⟩
  | read route =>
    have stocked := route.stocked importable.stocked
    obtain ⟨_, _, _, _, sameReplay, _⟩ := route.frame
    exact ⟨rfl, { sided, stocked with
      width := by
        rw [RatchetState.recording, ReplayWindow.window_accept, sameReplay]
        exact importable.width
      count := by
        rw [RatchetState.recording, ReplayWindow.maxGenerations_accept, sameReplay]
        exact importable.count }⟩
  | restored reads => cases keeps

/-! ### Connections -/

variable {connectionId : UInt32} {connection : Connection}

/-- The connection is established under the number and the limits, and is read back from its export
as it is. -/
def Portable (provider : Provider σ) (limits : RatchetLimits) (connectionId : UInt32)
    (connection : Connection) : Prop :=
  ∃ state, connection = ⟨connectionId, limits, .established state⟩ ∧
    state.Importable provider limits

namespace Portable

theorem exports (portable : connection.Portable provider limits connectionId) :
    ∃ record, connection.exportRecord = .ok record ∧ record.connectionId = connectionId ∧
      Crypto.Returns (ofRecord provider limits record) connection := by
  obtain ⟨state, rfl, importable⟩ := portable
  exact ⟨_, rfl, rfl, returns_ofRecord_export importable⟩

/-- A new connection is portable, if the pre-key pair that the responder answers with belongs
together. The provider that reads it back may be another one, here and in the following. -/
theorem of_establish (repeats : working.Repeats provider) {seed : SessionSeed}
    (own : ∀ pair, seed.localRatchetKey = some pair → pair.Matches working)
    (established : (Connection.new connectionId limits).establish provider seed before =
      .ok connection after) :
    connection.Portable working limits connectionId := by
  obtain ⟨state, seeded, rfl⟩ := establish_eq_ok established
  exact ⟨state, rfl, (kept_of_repeats repeats own seeded).importable⟩

/-- What is read from a record is portable, whatever the record. -/
theorem of_ofRecord (repeats : working.Repeats provider) {record : Record.ConnectionRecord}
    (reads : ofRecord provider limits record before = .ok connection after) :
    connection.Portable working limits record.connectionId := by
  simp only [ofRecord, Crypto.bind_eq_ok, Crypto.pure_eq_ok] at reads
  obtain ⟨state, _, isState, rfl, _⟩ := reads
  exact ⟨state, rfl, RatchetState.importable_of_repeats repeats isState⟩

theorem perform (repeats : working.Repeats provider)
    (portable : connection.Portable working limits connectionId) {request : Request}
    {accepted : Option Acceptance} {next : Connection} (keeps : request.keepsLimits = true)
    (performed : connection.perform provider request before = .ok (accepted, next) after) :
    next.Portable working limits connectionId := by
  obtain ⟨state, rfl, importable⟩ := portable
  obtain ⟨_, _, result, isState, rfl, performs⟩ := performs_of_perform performed
  cases isState
  obtain ⟨rfl, importableResult⟩ := performs.importable repeats keeps importable
  exact ⟨result, rfl, importableResult⟩

theorem stageEncrypt (repeats : working.Repeats provider)
    (portable : connection.Portable working limits connectionId) {plaintext : Bytes}
    {associatedData : Bytes} {message : RatchetMessage} {staged : Staged}
    (encrypted : connection.stageEncrypt provider plaintext associatedData before =
      .ok (message, staged) after) :
    (connection.commit staged).Portable working limits connectionId := by
  have performed : connection.perform provider (.encrypt plaintext associatedData) before =
      .ok (none, connection.commit staged) after := by
    simp only [Connection.perform, encryptNext, Crypto.bind_eq_ok, Crypto.pure_eq_ok]
    exact ⟨_, _, ⟨_, _, encrypted, rfl, rfl⟩, rfl, rfl⟩
  exact portable.perform repeats rfl performed

theorem stageDecrypt (repeats : working.Repeats provider)
    (portable : connection.Portable working limits connectionId) {message : RatchetMessage}
    {associatedData plaintext : Bytes} {staged : Staged}
    (decrypted : connection.stageDecrypt provider message associatedData before =
      .ok (plaintext, staged) after) :
    (connection.commit staged).Portable working limits connectionId := by
  have performed : ∃ accepted,
      connection.perform provider (.decrypt message associatedData) before =
        .ok (accepted, connection.commit staged) after := by
    simp only [Connection.perform, Crypto.bind_eq_ok, Crypto.pure_eq_ok]
    exact ⟨_, _, _, decrypted, rfl, rfl⟩
  obtain ⟨_, performed⟩ := performed
  exact portable.perform repeats rfl performed

theorem forceRatchet (portable : connection.Portable provider limits connectionId)
    {next : Connection} (forced : connection.forceRatchet = .ok next) :
    next.Portable provider limits connectionId := by
  obtain ⟨state, rfl, importable⟩ := portable
  exact ⟨_, forceRatchet_eq_ok rfl forced, { importable with }⟩

end Portable

end Connection

end RatchetMessaging
