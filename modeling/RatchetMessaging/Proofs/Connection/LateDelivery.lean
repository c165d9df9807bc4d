import RatchetMessaging.Proofs.Connection.Consistency
import RatchetMessaging.Proofs.Ratchet.Recall
import RatchetMessaging.Proofs.Ratchet.Restoration

/-!
Contract: which of the messages whose keys are cached are still accepted.

Owns:
- `Retains`: the memory of a session is that of its accepted positions, and their generations are
  among the placed ones as long as older ones are placed;
- that every request under the same limits keeps it, exports that are imported again included;
- the exact condition under which a cached position is refused, and that this happens on the oldest
  superseded chain only, when as many chains are superseded as the limits allow.

Does not own: how a key gets into the cache.
-/

namespace RatchetMessaging

variable {σ : Type} {provider : Provider σ} {before after : σ}

namespace RatchetState

variable {limits : RatchetLimits} {state restored : RatchetState} {accepted : List Slot}

/-- From each placed generation on, the generations of the positions are placed. -/
def Locates (state : RatchetState) (accepted : List Slot) : Prop :=
  ∀ slot ∈ accepted, ∀ placed ∈ state.placedKeys, placed.generation ≤ slot.generation →
    ∃ other ∈ state.placedKeys, other.generation = slot.generation

/-- Everything that a session under constant limits keeps of a state and of the positions accepted
so far. -/
structure Retains (limits : RatchetLimits) (accepted : List Slot) (state : RatchetState) :
    Prop extends Tables limits state where
  recalled : state.replay = .recollect limits.replayWindow limits.maxTrackedGenerations accepted
  located : state.Locates accepted
  notAhead : ∀ slot ∈ accepted, slot.generation ≤ state.receivingGeneration

/-- A state that is read back under the limits of the written one has its tables and its memory. -/
theorem Retains.of_read (retains : state.Retains limits accepted) {connectionId : UInt32}
    (read : ofRecord provider limits (state.toRecord connectionId) before = .ok restored after) :
    restored.Retains limits accepted := by
  obtain ⟨_, sameWindow, sameBound⟩ :=
    ReplayWindow.recalls_recollect limits.replayWindow limits.maxTrackedGenerations accepted
  rw [← retains.recalled] at sameWindow sameBound
  have cache : SkippedKeys.ofRecords state.skipped.toRecords limits.maxSkippedMessageKeys =
      .ok state.skipped := by
    rw [← retains.capacity]
    exact retains.coherent.ofRecords_toRecords
  have memory : readReplay limits (some state.replay.toRecord) = state.replay :=
    ReplayWindow.ofRecord_toRecord sameWindow sameBound
  have sameVersion : ¬(state.toRecord connectionId).version ≠ Record.SessionRecord.currentVersion :=
    not_not_intro rfl
  unfold ofRecord at read
  rw [if_neg sameVersion] at read
  simp only [toRecord, FixedBytes.ofBytes?_toBytes, readRemoteKey_toBytes,
    readSuperseded_toRecords, readRetired_toBytes retains.retiredFit, Chain.ofRecord?_toRecord,
    cache, memory, Crypto.bind_eq_ok, Crypto.ofExcept_eq_ok, Crypto.pure_eq_ok,
    Except.ok.injEq] at read
  obtain ⟨_, _, ⟨rfl, rfl⟩, _, _, ⟨rfl, rfl⟩, _, _, ⟨rfl, rfl⟩, _, _, ⟨rfl, rfl⟩, _, _, ⟨rfl, rfl⟩,
    _, _, _, _, _, ⟨rfl, rfl⟩, rfl, _⟩ := read
  refine { retains with cached := fun slot held => ?_ }
  -- The direction of a chain is written anew, its position is not.
  rcases retains.cached slot held with superseded | ⟨same, chain, isChain, below⟩
  · exact .inl superseded
  · exact .inr ⟨same, { chain with kind := .receiving }, by simp [isChain], below⟩

/-! ### Generations -/

/-- The placed generations increase. -/
theorem Tables.placed_increasing (tables : state.Tables limits) :
    (state.placedKeys.map SupersededKey.generation).Pairwise (· < ·) :=
  tables.generations.sublist (placedKeys_generations state)

/-- When the oldest placed keys go and a newer one comes, what is placed from the others on is
placed still. -/
theorem Locates.turned {received : RatchetState} (located : state.Locates accepted)
    (increasing : (state.placedKeys.map SupersededKey.generation).Pairwise (· < ·))
    {gone kept : List SupersededKey} {newest : SupersededKey}
    (parts : state.placedKeys = gone ++ kept) (others : received.placedKeys = kept ++ [newest])
    (notAhead : ∀ slot ∈ accepted, slot.generation ≤ newest.generation) :
    received.Locates accepted := by
  intro slot member placed isPlaced older
  rw [others] at isPlaced ⊢
  rcases List.mem_append.1 isPlaced with isKept | isNewest
  · obtain ⟨other, isOther, same⟩ := located slot member placed
      (parts ▸ List.mem_append_right gone isKept) older
    refine ⟨other, List.mem_append_left _ ?_, same⟩
    rw [parts, List.mem_append] at isOther
    refine isOther.resolve_left (fun isGone => ?_)
    -- What goes is older than all that is kept.
    rw [parts, List.map_append] at increasing
    have below := (List.pairwise_append.1 increasing).2.2 _
      (List.mem_map_of_mem (f := SupersededKey.generation) isGone) _
      (List.mem_map_of_mem (f := SupersededKey.generation) isKept)
    rw [same] at below
    exact UInt32.lt_irrefl _ (UInt32.lt_of_le_of_lt older below)
  · have isLast := List.mem_singleton.1 isNewest
    subst isLast
    exact ⟨placed, isPlaced, UInt32.le_antisymm older (notAhead slot member)⟩

/-- One more position on a placed chain. -/
theorem Locates.concat (located : state.Locates accepted) {slot : Slot}
    (placed : ∃ other ∈ state.placedKeys, other.generation = slot.generation) :
    state.Locates (accepted ++ [slot]) := by
  intro given member
  rcases List.mem_append.1 member with earlier | isNew
  · exact located given earlier
  · rw [List.mem_singleton.1 isNew]
    exact fun _ _ _ => placed

/-- The generations from that of a superseded chain on belong to it, to later superseded chains, or
to the present one. -/
theorem Retains.generationsFrom_subset (retains : state.Retains limits accepted)
    {earlier later : List SupersededKey} {superseded : SupersededKey}
    (parts : state.supersededKeys = earlier ++ superseded :: later) :
    ReplayWindow.generationsFrom accepted superseded.generation ⊆
      ((superseded :: later).map SupersededKey.generation ++
        [state.receivingGeneration]).toFinset := by
  have isPlaced : superseded ∈ state.placedKeys := by
    refine List.mem_append_left _ ?_
    rw [parts]
    exact List.mem_append_right _ List.mem_cons_self
  intro generation member
  obtain ⟨newer, index, given⟩ := ReplayWindow.mem_generationsFrom.1 member
  obtain ⟨other, isOther, same⟩ := retains.located _ given superseded isPlaced newer
  have listed := (placedKeys_generations state).mem
    (List.mem_map_of_mem (f := SupersededKey.generation) isOther)
  have increasing := retains.generations
  rw [parts, List.map_append, List.append_assoc] at listed increasing
  rw [same] at listed
  rw [List.mem_toFinset]
  refine (List.mem_append.1 listed).resolve_left (fun older => ?_)
  have below := (List.pairwise_append.1 increasing).2.2 generation older superseded.generation
    (by simp)
  exact UInt32.lt_irrefl _ (UInt32.lt_of_le_of_lt newer below)

/-- Only the oldest superseded chain can be followed by more generations than are tracked, and only
when as many chains are superseded as the limits allow. -/
theorem Retains.oldest_of_crowded (retains : state.Retains limits accepted) {slot : Slot}
    (held : state.skipped.contains slot = true)
    (crowded : max 1 limits.maxTrackedGenerations <
      (ReplayWindow.generationsFrom accepted slot.generation).card) :
    ∃ oldest later, state.supersededKeys = oldest :: later ∧
      oldest.generation = slot.generation ∧
      state.supersededKeys.length = limits.maxTrackedGenerations := by
  rcases retains.cached slot held with ⟨superseded, member, same⟩ | ⟨same, _⟩
  · obtain ⟨earlier, later, parts⟩ := List.append_of_mem member
    rw [← same] at crowded
    have few := Finset.card_le_card (retains.generationsFrom_subset parts)
    have listed := List.toFinset_card_le
      ((superseded :: later).map SupersededKey.generation ++ [state.receivingGeneration])
    have fits := retains.supersededFit
    rw [parts] at fits ⊢
    simp only [List.length_append, List.length_map, List.length_cons, List.length_nil]
      at listed fits
    have noneEarlier : earlier = [] := List.length_eq_zero_iff.1 (by omega)
    subst noneEarlier
    exact ⟨superseded, later, rfl, same, by simp only [List.nil_append, List.length_cons]; omega⟩
  · -- No generation is newer than the present one.
    have onlyPresent : ReplayWindow.generationsFrom accepted slot.generation ⊆
        {state.receivingGeneration} := by
      intro generation member
      obtain ⟨newer, index, given⟩ := ReplayWindow.mem_generationsFrom.1 member
      rw [same] at newer
      exact Finset.mem_singleton.2 (UInt32.le_antisymm (retains.notAhead _ given) newer)
    have atMostOne := Finset.card_le_card onlyPresent
    rw [Finset.card_singleton] at atMostOne
    omega

end RatchetState

/-! ### Runs -/

namespace Connection

variable {connection first last : Connection} {limits : RatchetLimits}
  {state result : RatchetState} {earlier : List Slot}

/-- A message that does not come late belongs to the newest generation. -/
theorem Route.newest {header : MessageHeader} {key : FixedBytes 32} {generation : UInt32}
    {received : RatchetState}
    (route : Route provider limits state header before after key generation received)
    (untracked : ¬ state.Tracks header.ratchetKey) :
    generation = received.receivingGeneration := by
  cases route with
  | late placed cached =>
    have superseded := (RatchetState.place_eq_previous placed).2
    exact absurd (RatchetState.tracks_of_mem_placedKeys (List.mem_append_left _ superseded))
      untracked
  | present placed receives =>
    obtain ⟨_, _, rfl⟩ := RatchetState.receive_frame receives
    rfl
  | turn placed turns receives => rfl

theorem Route.retains {header : MessageHeader} {key : FixedBytes 32} {generation : UInt32}
    {received : RatchetState}
    (route : Route provider limits state header before after key generation received)
    (retains : state.Retains limits earlier) :
    (received.recording ⟨generation, header.chainIndex⟩).Retains limits
      (earlier ++ [⟨generation, header.chainIndex⟩]) := by
  obtain ⟨placed, _, keys⟩ := route.placedKeys
  obtain ⟨_, _, _, _, sameReplay, _⟩ := route.frame
  have tables := route.tables retains.toTables
  have notAhead : ∀ slot ∈ earlier, slot.generation ≤ received.receivingGeneration :=
    fun slot member => UInt32.le_trans (retains.notAhead slot member) route.generation_le
  have located : received.Locates earlier := by
    rcases keys with ⟨same, _⟩ | ⟨_, untracked, gone, kept, parts, others⟩
    · rw [RatchetState.Locates, same]
      exact retains.located
    · refine retains.located.turned retains.placed_increasing parts others ?_
      rw [route.newest untracked]
      exact notAhead
  refine {
    tables with
    recalled := ?recalled
    located := located.concat ⟨_, placed, rfl⟩
    notAhead := ?notAhead }
  case recalled =>
    rw [ReplayWindow.recollect_concat, ← retains.recalled, ← sameReplay]
    rfl
  case notAhead =>
    intro slot member
    rcases List.mem_append.1 member with isEarlier | isNew
    · exact notAhead slot isEarlier
    · rw [List.mem_singleton.1 isNew]
      exact tables.generation_le placed

/-- Every request that succeeds under the same limits keeps what is retained. -/
theorem Performs.retains {request : Request} {accepted : Option Acceptance}
    (performs : Performs provider connection state request accepted connection.limits result)
    (retains : state.Retains connection.limits earlier) :
    result.Retains connection.limits (earlier ++ accepted.toList.map Acceptance.slot) := by
  generalize isLimits : connection.limits = limits at performs retains
  cases performs with
  | sent sends isChain advanced =>
    rw [Option.toList_none, List.map_nil, List.append_nil]
    cases sends with
    | same notDue => exact { retains with }
    | turned due turns =>
      obtain ⟨_, _, _, _, _, _, _, _, _, _, _, rfl⟩ := RatchetState.sendingTurn_eq_ok turns
      exact { retains with }
  | forced =>
    rw [Option.toList_none, List.map_nil, List.append_nil]
    exact { retains with }
  | read route => exact route.retains retains
  | restored reads =>
    rw [Option.toList_none, List.map_nil, List.append_nil]
    exact retains.of_read reads

theorem retains_of_ofSeed {seed : SessionSeed}
    (seeded : RatchetState.ofSeed provider limits seed before = .ok state after) :
    state.Retains limits [] := by
  obtain ⟨tables, remembersNothing⟩ := RatchetState.tables_of_ofSeed seeded
  exact {
    tables with
    recalled := remembersNothing
    located := fun _ member => nomatch member
    notAhead := fun _ member => nomatch member }

/-- Along a run under constant limits everything is retained, whether requests succeed or fail. -/
theorem Run.retains {accepted : List Acceptance} {start : RatchetState}
    (run : Run (fun connection => connection.limits = limits) first accepted last)
    (isStart : first.phase = .established start) (retains : start.Retains limits []) :
    ∃ state, last.phase = .established state ∧
      state.Retains limits (accepted.map Acceptance.slot) := by
  induction run with
  | start here => exact ⟨start, isStart, retains⟩
  | @step _ accepted middle run provider request before here inductionHypothesis =>
    obtain ⟨state, isState, retainsState⟩ := inductionHypothesis
    have sameLimits := run.holds_last
    rcases attempt_cases isState provider request before with
      ⟨same, accepts⟩ | ⟨new, newLimits, result, isNext, accepts, performs⟩
    · rw [same, accepts, List.append_nil]
      exact ⟨state, isState, retainsState⟩
    · rw [isNext] at here
      simp only at here
      subst here
      rw [isNext, accepts, List.map_append]
      rw [← sameLimits] at performs retainsState ⊢
      exact ⟨result, rfl, performs.retains retainsState⟩

theorem limits_of_establish {seed : SessionSeed} {fresh : Connection}
    (established : fresh.establish provider seed before = .ok first after) :
    first.limits = fresh.limits := by
  obtain ⟨_, _, rfl⟩ := establish_eq_ok established
  rfl

/-- In every state that a session reaches under constant limits, a cached position that lies inside
the window of its generation is refused exactly when positions of more generations, from its own on,
were accepted than the limits track. This takes as many superseded chains as the limits allow and
one message of the present chain, and concerns the oldest superseded chain only. -/
theorem cached_is_refused_iff {seed : SessionSeed} {fresh : Connection}
    {accepted : List Acceptance}
    (established : fresh.establish provider seed before = .ok first after)
    (run : Run (fun connection => connection.limits = fresh.limits) first accepted last) :
    ∃ state, last.phase = .established state ∧
      ∀ slot, state.skipped.contains slot = true →
        (∀ index, ⟨slot.generation, index⟩ ∈ accepted.map Acceptance.slot →
          index.toNat < slot.index.toNat + fresh.limits.replayWindow.toNat) →
        (state.replay.isReplay slot.generation slot.index = true ↔
          max 1 fresh.limits.maxTrackedGenerations <
            (ReplayWindow.generationsFrom (accepted.map Acceptance.slot) slot.generation).card) ∧
        (state.replay.isReplay slot.generation slot.index = true →
          ∃ oldest later, state.supersededKeys = oldest :: later ∧
            oldest.generation = slot.generation ∧
            state.supersededKeys.length = fresh.limits.maxTrackedGenerations) := by
  obtain ⟨start, seeded, rfl⟩ := establish_eq_ok established
  obtain ⟨tables, _⟩ := RatchetState.tables_of_ofSeed seeded
  obtain ⟨state, isState, retains⟩ := run.retains rfl (retains_of_ofSeed seeded)
  obtain ⟨_, same, _, _, spent, _⟩ := run.history rfl (tables_of_sound tables)
  cases isState.symm.trans same
  refine ⟨state, isState, fun slot held inside => ?_⟩
  have notAccepted : slot ∉ accepted.map Acceptance.slot := by
    intro member
    obtain ⟨acceptance, isAccepted, rfl⟩ := List.mem_map.1 member
    exact spent acceptance isAccepted (.inl held)
  have notBelow : ¬ ∃ later, ⟨slot.generation, later⟩ ∈ accepted.map Acceptance.slot ∧
      slot.index < later ∧
      (ReplayWindow.new fresh.limits.replayWindow fresh.limits.maxTrackedGenerations).window ≤
        later - slot.index := by
    rintro ⟨later, given, above, away⟩
    have near := inside later given
    have width : fresh.limits.replayWindow ≤
        (ReplayWindow.new fresh.limits.replayWindow fresh.limits.maxTrackedGenerations).window := by
      simp only [ReplayWindow.new]
      split
      · rename_i none
        rw [none]
        exact UInt32.zero_le
      · exact UInt32.le_refl _
    have far := UInt32.le_iff_toNat_le.1 (UInt32.le_trans width away)
    rw [UInt32.toNat_sub_of_le _ _ (UInt32.le_of_lt above)] at far
    rw [UInt32.lt_iff_toNat_lt] at above
    omega
  have refused : state.replay.isReplay slot.generation slot.index = true ↔
      max 1 fresh.limits.maxTrackedGenerations <
        (ReplayWindow.generationsFrom (accepted.map Acceptance.slot) slot.generation).card := by
    rw [retains.recalled, ReplayWindow.isReplay_recollect_iff]
    simp only [notAccepted, notBelow, or_false]
  exact ⟨refused, fun isRefused => retains.oldest_of_crowded held (refused.1 isRefused)⟩

/-- The second message arrives first, and the cached position of the first is not refused. -/
theorem cached_is_refused_iff_sample :
    ∃ (first last : Connection) (accepted : List Acceptance) (state : RatchetState),
      (∃ after, (new 2 (.sample 100)).establish .transparent .samplePeer 0 = .ok first after) ∧
      Run (fun connection => connection.limits = .sample 100) first accepted last ∧
      last.phase = .established state ∧ state.skipped.contains ⟨0, 0⟩ = true ∧
      state.replay.isReplay 0 0 = false := by
  obtain ⟨first, _, _, message, _, _, established, _, _, accepts, cached, sameLimits⟩ :
      ∃ (first sender : Connection) (moved : RatchetMessage × Connection)
        (message : RatchetMessage) (begun ready : Nat),
        (new 2 (.sample 100)).establish .transparent .samplePeer 0 = .ok first begun ∧
        (new 1 (.sample 100)).establish .transparent .sample 0 = .ok sender ready ∧
        (∃ after last final, sender.encryptNext .transparent [1] [3] ready = .ok moved after ∧
          moved.2.encryptNext .transparent [2] [3] after = .ok (message, last) final) ∧
        (first.attempt .transparent (.decrypt message [3]) 0).accepted.map Acceptance.slot =
          [⟨0, 1⟩] ∧
        (first.attempt .transparent (.decrypt message [3]) 0).connection.state.toOption.map
          (fun state => state.skipped.contains ⟨0, 0⟩) = some true ∧
        (first.attempt .transparent (.decrypt message [3]) 0).connection.limits = .sample 100 :=
    ⟨_, _, _, _, _, _, rfl, rfl, ⟨_, _, _, rfl, rfl⟩, by decide +kernel, by decide +kernel,
      by decide +kernel⟩
  have begins : Run (fun connection => connection.limits = .sample 100) first [] first :=
    .start (limits_of_establish established)
  have run := begins.step .transparent (.decrypt message [3]) 0 sameLimits
  obtain ⟨state, isState, refused⟩ := cached_is_refused_iff established run
  rw [List.nil_append] at run refused
  rw [accepts] at refused
  have held : state.skipped.contains ⟨0, 0⟩ = true := by
    simpa [Connection.state, isState, Except.toOption] using cached
  refine ⟨first, _, _, state, ⟨_, established⟩, run, isState, held, ?_⟩
  rw [← Bool.not_eq_true, (refused ⟨0, 0⟩ held ?_).1]
  · decide
  · simp [RatchetLimits.sample, new]

/-- One superseded chain is tracked, and a message of each chain is accepted: the key of the first
message stays in the cache, and its position is refused. -/
theorem cached_position_is_refused :
    ∃ (first last : Connection) (accepted : List Acceptance) (state : RatchetState),
      (∃ after, (new 2 ⟨8, 8, 8, 1, 100⟩).establish .transparent .samplePeer 0 =
        .ok first after) ∧
      Run (fun connection => connection.limits = ⟨8, 8, 8, 1, 100⟩) first accepted last ∧
      accepted.map Acceptance.slot = [⟨0, 1⟩, ⟨1, 0⟩] ∧
      last.phase = .established state ∧ state.skipped.contains ⟨0, 0⟩ = true ∧
      state.supersededKeys.map SupersededKey.generation = [0] ∧
      state.replay.isReplay 0 0 = true := by
  obtain ⟨first, _, second, newer, _, established, _, _, limits, limitsToo, accepts, facts⟩ :
      ∃ (first sender : Connection) (second newer : RatchetMessage) (begun : Nat),
        (new 2 ⟨8, 8, 8, 1, 100⟩).establish .transparent .samplePeer 0 = .ok first begun ∧
        (∃ ready, (new 1 ⟨8, 8, 8, 1, 100⟩).establish .transparent .sample 0 =
          .ok sender ready) ∧
        (∃ moved middle sent after forced last final,
          sender.encryptNext .transparent [1] [] 1 = .ok moved middle ∧
          moved.2.encryptNext .transparent [2] [] middle = .ok (second, sent) after ∧
          sent.forceRatchet = .ok forced ∧
          forced.encryptNext .transparent [3] [] after = .ok (newer, last) final) ∧
        (first.attempt .transparent (.decrypt second []) 0).connection.limits =
          ⟨8, 8, 8, 1, 100⟩ ∧
        ((first.attempt .transparent (.decrypt second []) 0).connection.attempt .transparent
          (.decrypt newer []) 0).connection.limits = ⟨8, 8, 8, 1, 100⟩ ∧
        ([] ++ (first.attempt .transparent (.decrypt second []) 0).accepted ++
          ((first.attempt .transparent (.decrypt second []) 0).connection.attempt .transparent
            (.decrypt newer []) 0).accepted).map Acceptance.slot = [⟨0, 1⟩, ⟨1, 0⟩] ∧
        ((first.attempt .transparent (.decrypt second []) 0).connection.attempt .transparent
          (.decrypt newer []) 0).connection.state.toOption.map (fun state =>
            (state.skipped.contains ⟨0, 0⟩, state.supersededKeys.map SupersededKey.generation,
              state.replay.isReplay 0 0)) = some (true, [0], true) :=
    ⟨_, _, _, _, _, rfl, ⟨_, rfl⟩, ⟨_, _, _, _, _, _, _, rfl, rfl, rfl, rfl⟩,
      by decide +kernel, by decide +kernel, by decide +kernel, by decide +kernel⟩
  have begins : Run (fun connection => connection.limits = ⟨8, 8, 8, 1, 100⟩) first [] first :=
    .start (limits_of_establish established)
  have run := (begins.step .transparent (.decrypt second []) 0 limits).step .transparent
    (.decrypt newer []) 0 limitsToo
  obtain ⟨_, isStart, sound⟩ := establish_sound established
  obtain ⟨state, isState, _⟩ := run.history isStart sound
  have now : (state.skipped.contains ⟨0, 0⟩, state.supersededKeys.map SupersededKey.generation,
      state.replay.isReplay 0 0) = (true, [0], true) := by
    simpa [Connection.state, isState, Except.toOption] using facts
  simp only [Prod.mk.injEq] at now
  exact ⟨first, _, _, state, ⟨_, established⟩, run, accepts, isState, now⟩

end Connection

end RatchetMessaging
