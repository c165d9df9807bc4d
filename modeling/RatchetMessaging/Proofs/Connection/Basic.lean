import RatchetMessaging.Connection.Basic

/-!
Contract: what can be asked of an established connection.

Owns: the record of an established connection, and the turn that is asked for.

Does not own: messages.
-/

namespace RatchetMessaging.Connection

variable {connection : Connection} {state : RatchetState} {record : Record.ConnectionRecord}

theorem forceRatchet_eq_ok {next : Connection}
    (isState : connection.phase = .established state)
    (forced : connection.forceRatchet = .ok next) :
    next = { connection with
      phase := .established { state with sendingRatchetPending := true } } := by
  have unfolded : connection.forceRatchet =
      if state.remoteKey.isNone then
        .error (.prepareLocal "remote ratchet key not yet known")
      else .ok { connection with
        phase := .established { state with sendingRatchetPending := true } } := by
    unfold forceRatchet Connection.state
    rw [isState]
    rfl
  rw [unfolded] at forced
  split at forced
  · cases forced
  · cases forced
    rfl

theorem exportRecord_of_established
    (isState : connection.phase = .established state) :
    connection.exportRecord = .ok (state.toRecord connection.connectionId) := by
  unfold exportRecord Connection.state
  rw [isState]
  rfl

theorem established_of_forceRatchet {next : Connection}
    (forced : connection.forceRatchet = .ok next) :
    ∃ state, connection.phase = .established state := by
  unfold forceRatchet Connection.state at forced
  split at forced
  · rename_i state isState
    exact ⟨state, isState⟩
  · cases forced
  · cases forced

theorem exportRecord_eq_ok :
    connection.exportRecord = .ok record ↔
      ∃ state, connection.phase = .established state ∧
        record = state.toRecord connection.connectionId := by
  constructor
  · intro exported
    unfold exportRecord Connection.state at exported
    split at exported
    · rename_i state isState
      cases exported
      exact ⟨state, isState, rfl⟩
    · cases exported
    · cases exported
  · rintro ⟨state, isState, rfl⟩
    exact exportRecord_of_established isState

end RatchetMessaging.Connection
