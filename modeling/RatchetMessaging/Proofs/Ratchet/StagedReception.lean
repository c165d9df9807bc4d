import RatchetMessaging.Proofs.Provider.Queries

/-!
Contract: reception in place and staged reception are the same reception.

Owns: what the two do from every state, with every provider: they succeed and fail together, they
give the same key and the same state in the end, and they ask the same of the provider.

Does not own: how they come to the key.
-/

namespace RatchetMessaging.RatchetState

open Crypto

variable {σ : Type} {provider : Provider σ} {limits : RatchetLimits} {index : UInt32}
  {state : RatchetState} {before after : σ} {key : FixedBytes 32}

/-- Reception in place succeeds exactly when staged reception does, and its state is the one that
the staged changes lead to. -/
theorem receive_eq_ok_iff {result : RatchetState} :
    state.receive provider limits index before = .ok (key, result) after ↔
      ∃ reception, state.stageReceive provider limits index before = .ok (key, reception) after ∧
        reception.apply state = result := by
  rw [receive_eq]
  simp only [bind_eq_ok, pure_eq_ok, Prod.exists, Prod.mk.injEq]
  constructor
  · rintro ⟨_, reception, _, staged, ⟨rfl, applied⟩, rfl⟩
    exact ⟨reception, staged, applied⟩
  · rintro ⟨reception, staged, applied⟩
    exact ⟨key, reception, after, staged, ⟨rfl, applied⟩, rfl⟩

/-- The two fail together, with the same failure. -/
theorem receive_eq_error_iff {failure : Error} :
    state.receive provider limits index before = .error failure after ↔
      state.stageReceive provider limits index before = .error failure after := by
  rw [receive_eq, bind_eq_error]
  constructor
  · rintro (failed | ⟨_, _, _, returned⟩)
    · exact failed
    · cases returned
  · exact .inl

/-- Applying the staged changes moves the chain and the cache, and nothing else. -/
theorem apply_frame_of_stageReceive {reception : Reception}
    (staged : state.stageReceive provider limits index before = .ok (key, reception) after) :
    ∃ chain cache, reception.apply state =
      { state with receivingChain := some chain, skipped := cache } :=
  receive_frame (receive_eq_ok_iff.2 ⟨reception, staged, rfl⟩)

theorem asks_stageReceive (provider : Provider σ) (limits : RatchetLimits) (index : UInt32)
    (state : RatchetState) :
    Asks (state.stageReceive provider.logging limits index)
      (state.stageReceive provider limits index) := by
  unfold stageReceive
  split
  · exact asks_throw _
  · split
    · simp only
      split
      · exact asks_throw _
      · exact asks_pure _
    · refine (asks_ofExcept _).bind fun _ => ?_
      refine (Chain.asks_advanceBy provider _ _).bind fun passed => ?_
      exact (Chain.asks_advance provider passed.2).bind fun _ => asks_pure _

/-- Reception in place asks what staged reception asks: applying the changes takes no call. -/
theorem withQueries_receive {earlier queries : List Query}
    (asked : state.stageReceive provider.logging limits index (before, earlier) =
      withQueries queries (state.stageReceive provider limits index before)) :
    state.receive provider.logging limits index (before, earlier) =
      withQueries queries (state.receive provider limits index before) := by
  rw [receive_eq, receive_eq]
  cases outcome : state.stageReceive provider limits index before with
  | ok received between =>
    rw [outcome] at asked
    rw [bind_of_ok asked, bind_of_ok outcome]
    rfl
  | error failure between =>
    rw [outcome] at asked
    rw [bind_of_error asked, bind_of_error outcome]
    rfl

/-- Staged reception is reception in place, from every state and with every provider, also one
that fails at any call. One succeeds exactly when the other does, with the same key, the same
state of the provider, and the state that the staged changes lead to; this differs from the
original in the receiving chain and the cache at most. One fails exactly when the other does, with
the same failure. And both make the same queries in the same order, whether they fail or not. -/
theorem receive_agrees_stageReceive (provider : Provider σ) (limits : RatchetLimits)
    (index : UInt32) (state : RatchetState) (before : σ) :
    (∀ key result after,
      state.receive provider limits index before = .ok (key, result) after ↔
        ∃ reception,
          state.stageReceive provider limits index before = .ok (key, reception) after ∧
          reception.apply state = result) ∧
      (∀ key reception after,
        state.stageReceive provider limits index before = .ok (key, reception) after →
          ∃ chain cache, reception.apply state =
            { state with receivingChain := some chain, skipped := cache }) ∧
      (∀ failure after,
        state.receive provider limits index before = .error failure after ↔
          state.stageReceive provider limits index before = .error failure after) ∧
      ∃ queries, ∀ earlier,
        state.receive provider.logging limits index (before, earlier) =
            withQueries (earlier ++ queries) (state.receive provider limits index before) ∧
          state.stageReceive provider.logging limits index (before, earlier) =
            withQueries (earlier ++ queries) (state.stageReceive provider limits index before) := by
  obtain ⟨queries, asked⟩ := asks_stageReceive provider limits index state before
  refine ⟨fun _ _ _ => receive_eq_ok_iff, fun _ _ _ => apply_frame_of_stageReceive,
    fun _ _ => receive_eq_error_iff, queries, fun earlier => ⟨?_, asked earlier⟩⟩
  exact withQueries_receive (asked earlier)

end RatchetMessaging.RatchetState
