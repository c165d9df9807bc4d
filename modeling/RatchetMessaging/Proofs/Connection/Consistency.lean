import RatchetMessaging.Proofs.Connection.Acceptance
import RatchetMessaging.Proofs.Ratchet.ReplayBounds
import RatchetMessaging.Proofs.Connection.Tables

/-!
Contract: along every run of a session its tables, its cache and its memory of accepted positions
stay consistent with each other and within the limits.

Owns:
- runs under the limits of the start: messages and requested turns, whether they succeed or fail;
- what each route of a received message does to the tables;
- `Consistent`, and that it holds at every point of such a run.

Does not own: runs that change the limits on the way.
-/

namespace RatchetMessaging

/-- The request leaves the connection under its limits. -/
def Request.keepsLimits : Request → Bool
  | .restore _ => false
  | _ => true

namespace Connection

/-- A run of messages and requested turns, each with a provider of its own, and the positions that
it accepts, the oldest first. -/
inductive Unbroken (first : Connection) : List Acceptance → Connection → Prop
  | start : Unbroken first [] first
  | step {σ : Type} {accepted : List Acceptance} {middle : Connection}
      (run : Unbroken first accepted middle) (provider : Provider σ) (request : Request)
      (keeps : request.keepsLimits = true) (before : σ) :
      Unbroken first (accepted ++ (middle.attempt provider request before).accepted)
        (middle.attempt provider request before).connection

theorem Unbroken.run {first last : Connection} {accepted : List Acceptance}
    (unbroken : Unbroken first accepted last) : Run (fun _ => True) first accepted last := by
  induction unbroken with
  | start => exact .start trivial
  | step _ provider request _ before inductionHypothesis =>
    exact .step inductionHypothesis provider request before trivial

end Connection

/-! ### The invariant -/

namespace RatchetState

/-- The state agrees with itself, with the limits and with the positions accepted so far. -/
structure Consistent (limits : RatchetLimits) (accepted : List Slot) (state : RatchetState) :
    Prop extends Tables limits state where
  /-- No accepted position is cached. -/
  spent : ∀ slot ∈ accepted, state.skipped.contains slot = false
  /-- No cached position is remembered as accepted. -/
  unseen : ∀ slot, state.skipped.contains slot = true → ¬ state.replay.Seen slot
  tracked : ∀ generation ∈ state.replay.generations.keys, generation ≤ state.receivingGeneration
  floor : state.replay.generationFloor ≤ state.receivingGeneration
  trackedFit : state.replay.generations.size ≤ max 1 limits.maxTrackedGenerations
  seenFit : ∀ generation entry, state.replay.generations.find? generation = some entry →
    entry.seen.size ≤ max 1 limits.replayWindow.toNat

theorem tables_initial (limits : RatchetLimits) (seed : SessionSeed) (rootKey : FixedBytes 32)
    (keyPair : X25519KeyPair) (sendingChain receivingChain : Option Chain) :
    (initial limits seed rootKey keyPair sendingChain receivingChain).Tables limits where
  distinctKeys := by
    unfold placedKeys initial
    cases seed.remoteRatchetKey <;> simp
  generations := List.pairwise_singleton _ _
  cached slot held := by cases held
  coherent := SkippedKeys.coherent_new _
  queue := List.Pairwise.nil
  capacity := rfl
  supersededFit := Nat.zero_le _
  retiredFit := Nat.zero_le _

/-- The first state of either role has tables that belong together, and remembers nothing. -/
theorem tables_of_ofSeed {σ : Type} {provider : Provider σ} {before after : σ}
    {limits : RatchetLimits} {seed : SessionSeed} {state : RatchetState}
    (seeded : ofSeed provider limits seed before = .ok state after) :
    state.Tables limits ∧
      state.replay = .new limits.replayWindow limits.maxTrackedGenerations := by
  obtain ⟨_, _, _, _, ⟨_, _, _, _, rfl⟩ | ⟨_, _, _, _, rfl⟩⟩ := ofSeed_eq_ok seeded
  · exact ⟨tables_initial _ _ _ _ _ _, rfl⟩
  · exact ⟨tables_initial _ _ _ _ _ _, rfl⟩

end RatchetState

/-! ### One step -/

namespace Connection

section Step

variable {σ : Type} {provider : Provider σ} {before after : σ}
variable {limits : RatchetLimits} {state received : RatchetState} {header : MessageHeader}
  {key : FixedBytes 32} {generation : UInt32}

theorem Route.tables (route : Route provider limits state header before after key generation
    received) (tables : state.Tables limits) : received.Tables limits := by
  cases route with
  | late placed cached => exact tables.taking _
  | present placed receives =>
    refine RatchetState.Tables.receiving (tables.learning ?_) receives
    rcases placed with current | adopt
    · exact .inl (RatchetState.place_eq_current current).1
    · obtain ⟨noRemote, _, _, untracked⟩ := RatchetState.place_eq_adopt adopt
      exact .inr ⟨noRemote, untracked⟩
  | turn placed turns receives =>
    obtain ⟨untracked, served⟩ := RatchetState.place_eq_ratchet placed
    exact (tables.turning untracked served turns).receiving receives

theorem Route.generation_le (route : Route provider limits state header before after key
    generation received) : state.receivingGeneration ≤ received.receivingGeneration := by
  by_cases placed : state.place header.ratchetKey = .ratchet
  · obtain ⟨notLast, _, next, _⟩ := route.turned placed
    rw [next, UInt32.le_iff_toNat_le, toNat_succ_of_ne_last notLast]
    exact Nat.le_succ _
  · obtain ⟨_, _, _, _, _, kept⟩ := route.frame
    rw [(kept placed).2.2]
    exact UInt32.le_refl _

/-- The memory of a state, with one more position if one is accepted. -/
def remembering (replay : ReplayWindow) : Option Acceptance → ReplayWindow
  | none => replay
  | some acceptance => (replay.accept acceptance.slot.generation acceptance.slot.index).2

theorem bounded_remembering {replay : ReplayWindow} {width : UInt32} {count : Nat}
    (bounded : replay.Bounded width count) (accepted : Option Acceptance) :
    (remembering replay accepted).Bounded width count := by
  cases accepted with
  | none => exact bounded
  | some acceptance => exact bounded.accept _ _

/-- What is remembered was accepted, earlier or now. -/
theorem remembers_remembering {replay : ReplayWindow} {earlier : List Acceptance}
    {newest next : UInt32} {accepted : Option Acceptance}
    (remembers : replay.Remembers (· ∈ earlier.map Acceptance.slot) newest) (newer : newest ≤ next)
    (bounded : ∀ slot ∈ (earlier ++ accepted.toList).map Acceptance.slot,
      slot.generation ≤ next) :
    (remembering replay accepted).Remembers
      (· ∈ (earlier ++ accepted.toList).map Acceptance.slot) next := by
  have weaker : ∀ slot, slot ∈ earlier.map Acceptance.slot →
      slot ∈ (earlier ++ accepted.toList).map Acceptance.slot := by
    intro slot member
    rw [List.map_append]
    exact List.mem_append_left _ member
  cases accepted with
  | none => exact remembers.widen weaker newer
  | some acceptance => exact remembers.accept weaker newer (by simp) bounded

theorem Performs.tables {connection : Connection} {request : Request}
    {accepted : Option Acceptance} {result : RatchetState}
    (performs : Performs provider connection state request accepted limits result)
    (keeps : request.keepsLimits = true) (tables : state.Tables connection.limits) :
    limits = connection.limits ∧ result.Tables connection.limits ∧
      state.receivingGeneration ≤ result.receivingGeneration ∧
      result.replay = remembering state.replay accepted := by
  cases performs with
  | sent sends isChain advanced =>
    cases sends with
    | same notDue => exact ⟨rfl, { tables with }, UInt32.le_refl _, rfl⟩
    | turned due turns =>
      obtain ⟨_, _, _, _, _, _, _, _, _, _, _, rfl⟩ := RatchetState.sendingTurn_eq_ok turns
      exact ⟨rfl, { tables with }, UInt32.le_refl _, rfl⟩
  | forced => exact ⟨rfl, { tables with }, UInt32.le_refl _, rfl⟩
  | read route =>
    obtain ⟨_, _, _, _, sameReplay, _⟩ := route.frame
    refine ⟨rfl, { route.tables tables with }, route.generation_le, ?_⟩
    rw [RatchetState.recording, sameReplay]
    rfl
  | restored reads => cases keeps

/-- One request, also one that fails, keeps the tables and remembers what it accepts. -/
theorem attempt_tables {connection : Connection} (isState : connection.phase = .established state)
    (tables : state.Tables connection.limits) (provider : Provider σ) {request : Request}
    (keeps : request.keepsLimits = true) (before : σ) :
    ∃ result accepted,
      (connection.attempt provider request before).connection =
        { connection with phase := .established result } ∧
      (connection.attempt provider request before).accepted = accepted.toList ∧
      result.Tables connection.limits ∧
      state.receivingGeneration ≤ result.receivingGeneration ∧
      result.replay = remembering state.replay accepted := by
  rcases attempt_cases isState provider request before with
    ⟨same, accepts⟩ | ⟨accepted, limits, result, isNext, accepts, performs⟩
  · refine ⟨state, none, ?_, accepts, tables, UInt32.le_refl _, rfl⟩
    rw [same, ← isState]
  · obtain ⟨rfl, kept⟩ := performs.tables keeps tables
    exact ⟨result, accepted, isNext, accepts, kept⟩

end Step

/-! ### Runs -/

section Runs

variable {first last : Connection} {accepted : List Acceptance} {start : RatchetState}

theorem tables_of_sound {limits : RatchetLimits} {state : RatchetState}
    (tables : state.Tables limits) : state.Sound :=
  ⟨tables.cachesBehind, (List.nodup_append.1 tables.distinctKeys).1⟩

/-- Along a run the tables stay as they should be, and what is remembered was accepted. -/
theorem Unbroken.tables (unbroken : Unbroken first accepted last)
    (isStart : first.phase = .established start) (tables : start.Tables first.limits)
    (fresh : start.replay = .new first.limits.replayWindow first.limits.maxTrackedGenerations) :
    ∃ state, last = { first with phase := .established state } ∧ state.Tables first.limits ∧
      state.replay.Bounded first.limits.replayWindow first.limits.maxTrackedGenerations ∧
      state.replay.Remembers (· ∈ accepted.map Acceptance.slot) state.receivingGeneration := by
  have sound := tables_of_sound tables
  induction unbroken with
  | start =>
    refine ⟨start, by rw [← isStart], tables, ?_, ?_⟩
    · rw [fresh]
      exact ReplayWindow.bounded_new _ _
    · rw [fresh]
      exact ReplayWindow.remembers_new _ _ _ _
  | @step _ earlier _ run provider request keeps before inductionHypothesis =>
    obtain ⟨state, rfl, tablesState, bounded, remembers⟩ := inductionHypothesis
    have isState : Connection.phase { first with phase := .established state } =
      .established state := rfl
    obtain ⟨result, new, isResult, accepts, tablesResult, newer, memory⟩ :=
      attempt_tables isState tablesState provider keeps before
    obtain ⟨_, isLast, _, _, spent, _⟩ := (run.step provider request keeps before).run.history
      isStart sound
    rw [isResult] at isLast
    cases isLast
    rw [accepts] at spent ⊢
    have older : ∀ slot ∈ (earlier ++ new.toList).map Acceptance.slot,
        slot.generation ≤ result.receivingGeneration := by
      intro slot member
      obtain ⟨acceptance, isAccepted, rfl⟩ := List.mem_map.1 member
      exact RatchetState.generation_le_of_behind
        (RatchetState.not_obtainable_iff.1 (spent acceptance isAccepted)).2
    refine ⟨result, isResult, tablesResult, ?_, ?_⟩
    · rw [memory]
      exact bounded_remembering bounded new
    · rw [memory]
      exact remembers_remembering remembers newer older

/-- In every state that a session reaches, by any messages and requested turns, successful or not,
under the limits of its start and with any provider at each step, the state is consistent with
itself, with the limits and with the positions accepted so far. -/
theorem consistent_of_run {σ : Type} {provider : Provider σ} {seed : SessionSeed}
    {fresh : Connection} {before after : σ}
    (established : fresh.establish provider seed before = .ok first after)
    (unbroken : Unbroken first accepted last) :
    ∃ state, last = { fresh with phase := .established state } ∧
      state.Consistent fresh.limits (accepted.map Acceptance.slot) := by
  obtain ⟨start, seeded, rfl⟩ := establish_eq_ok established
  obtain ⟨initially, remembersNothing⟩ := RatchetState.tables_of_ofSeed seeded
  obtain ⟨state, rfl, tables, bounded, remembers⟩ :=
    unbroken.tables rfl initially remembersNothing
  obtain ⟨_, isLast, _, _, spent, _⟩ := unbroken.run.history rfl (tables_of_sound initially)
  cases isLast
  have notCached : ∀ slot ∈ accepted.map Acceptance.slot, state.skipped.contains slot = false := by
    intro slot member
    obtain ⟨acceptance, isAccepted, rfl⟩ := List.mem_map.1 member
    exact (RatchetState.not_obtainable_iff.1 (spent acceptance isAccepted)).1
  refine ⟨state, rfl, {
    tables with
    spent := notCached
    unseen := ?_
    tracked := ?_
    floor := remembers.floor
    trackedFit := ?_
    seenFit := ?_ }⟩
  · intro slot held seen
    rw [notCached slot (remembers.seen slot seen)] at held
    cases held
  · intro generation member
    obtain ⟨entry, found⟩ := OrderedMap.mem_keys_iff.1 member
    have wasAccepted := remembers.seen ⟨generation, entry.highest⟩
      ⟨entry, found, remembers.highestSeen _ entry found⟩
    obtain ⟨acceptance, isAccepted, same⟩ := List.mem_map.1 wasAccepted
    have behind := (RatchetState.not_obtainable_iff.1 (spent acceptance isAccepted)).2
    rw [same] at behind
    exact RatchetState.generation_le_of_behind behind
  · have fits := bounded.tracked
    rw [bounded.count] at fits
    exact fits
  · intro generation entry found
    have fits := (bounded.within generation entry found).size_le
    rw [bounded.width] at fits
    refine Nat.le_trans fits ?_
    simp only [ReplayWindow.new]
    split
    · exact Nat.le_max_left _ _
    · exact Nat.le_max_right _ _

/-- The second message arrives first: its position is accepted, the key of the first is cached, and
the state is consistent. -/
theorem consistent_of_run_sample :
    ∃ (first last : Connection) (accepted : List Acceptance) (state : RatchetState),
      (∃ after, (new 2 (.sample 100)).establish .transparent .samplePeer 0 = .ok first after) ∧
      Unbroken first accepted last ∧ accepted.map Acceptance.slot = [⟨0, 1⟩] ∧
      last.phase = .established state ∧ state.skipped.order = [⟨0, 0⟩] ∧
      state.Consistent (.sample 100) [⟨0, 1⟩] := by
  obtain ⟨first, _, _, message, _, _, established, _, _, accepts, cached⟩ :
      ∃ (first sender : Connection) (moved : RatchetMessage × Connection)
        (message : RatchetMessage) (begun ready : Nat),
        (new 2 (.sample 100)).establish .transparent .samplePeer 0 = .ok first begun ∧
        (new 1 (.sample 100)).establish .transparent .sample 0 = .ok sender ready ∧
        (∃ after last final, sender.encryptNext .transparent [1] [3] ready = .ok moved after ∧
          moved.2.encryptNext .transparent [2] [3] after = .ok (message, last) final) ∧
        (first.attempt .transparent (.decrypt message [3]) 0).accepted.map Acceptance.slot =
          [⟨0, 1⟩] ∧
        (first.attempt .transparent (.decrypt message [3]) 0).connection.state.toOption.map
          (fun state => state.skipped.order) = some [⟨0, 0⟩] :=
    ⟨_, _, _, _, _, _, rfl, rfl, ⟨_, _, _, rfl, rfl⟩, by decide +kernel, by decide +kernel⟩
  have run : Unbroken first _ _ := Unbroken.start.step .transparent (.decrypt message [3]) rfl 0
  obtain ⟨state, isLast, consistent⟩ := consistent_of_run established run
  rw [isLast] at cached
  refine ⟨first, _, _, state, ⟨_, established⟩, run, accepts, congrArg Connection.phase isLast, ?_,
    accepts ▸ consistent⟩
  exact Option.some.inj cached

end Runs

end Connection

end RatchetMessaging
