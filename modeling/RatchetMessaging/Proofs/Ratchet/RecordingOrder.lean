import RatchetMessaging.Proofs.Ratchet.Recall
import RatchetMessaging.Proofs.Ratchet.Restoration

/-!
Contract: the memory of accepted positions does not depend on the order in which they are recorded.

Owns:
- `Orderly`, for memories whose windows reach to their highest position and whose generations are
  not below the floor; recording keeps it, and so does a change of the bounds;
- that two recordings commute, whether or not they are refused, in any orderly memory, also in one
  that holds more than its present bounds allow;
- from this, that the memory after a list of positions is the memory after any rearrangement.

Does not own: which positions are recorded.
-/

namespace RatchetMessaging

namespace GenerationWindow

variable {entry other : GenerationWindow} {window index : UInt32}

/-- A window that is not empty remembers its highest position, and none above it. -/
structure Topped (entry : GenerationWindow) : Prop where
  highest : entry.seen.size ≠ 0 → entry.seen.contains entry.highest = true
  atMost : ∀ index, entry.seen.contains index = true → index ≤ entry.highest

theorem topped_empty : Topped {} where
  highest notEmpty := absurd rfl notEmpty
  atMost _ held := by cases held

theorem size_ne_zero_of_contains (held : entry.seen.contains index = true) :
    entry.seen.size ≠ 0 := by
  obtain ⟨_, found⟩ := OrderedMap.contains_iff.1 held
  exact Nat.ne_of_gt (List.length_pos_of_mem (OrderedMap.find?_eq_some_iff.1 found))

/-- Windows with the same highest position and the same seen positions are the same. -/
theorem ext_seen (sameHighest : entry.highest = other.highest)
    (sameSeen : ∀ index, entry.seen.contains index = true ↔ other.seen.contains index = true) :
    entry = other := by
  have sameMap : entry.seen = other.seen := by
    apply OrderedMap.ext_find?
    intro index value
    have same := sameSeen index
    rw [OrderedMap.contains_iff, OrderedMap.contains_iff] at same
    exact ⟨fun found => (same.1 ⟨value, found⟩).choose_spec,
      fun found => (same.2 ⟨value, found⟩).choose_spec⟩
  cases entry
  cases other
  cases sameHighest
  cases sameMap
  rfl

/-- The highest position after recording is the least one that is at least all positions. -/
theorem highest_record_le_iff (entry : GenerationWindow) (window index bound : UInt32) :
    (entry.record window index).highest ≤ bound ↔
      index ≤ bound ∧ (entry.seen.size ≠ 0 → entry.highest ≤ bound) := by
  change (if entry.seen.size = 0 ∨ entry.highest < index then index else entry.highest) ≤ bound ↔ _
  by_cases empty : entry.seen.size = 0
  · simp [empty]
  · by_cases newest : entry.highest < index
    · rw [if_pos (.inr newest)]
      refine ⟨fun below => ⟨below, fun _ => ?_⟩, And.left⟩
      exact UInt32.le_trans (UInt32.le_of_lt newest) below
    · rw [if_neg (not_or.2 ⟨empty, newest⟩)]
      exact ⟨fun below => ⟨UInt32.le_trans (UInt32.not_lt.1 newest) below, fun _ => below⟩,
        fun both => both.2 empty⟩

theorem index_le_highest_record (entry : GenerationWindow) (window index : UInt32) :
    index ≤ (entry.record window index).highest :=
  ((highest_record_le_iff entry window index _).1 (UInt32.le_refl _)).1

theorem highest_le_highest_record (window index : UInt32) (notEmpty : entry.seen.size ≠ 0) :
    entry.highest ≤ (entry.record window index).highest :=
  ((highest_record_le_iff entry window index _).1 (UInt32.le_refl _)).2 notEmpty

/-- What fell off a window stays below it, since the highest position only rises. -/
theorem isBelow_record (notEmpty : entry.seen.size ≠ 0) (index : UInt32) {probe : UInt32}
    (below : entry.isBelow window probe = true) :
    (entry.record window index).isBelow window probe = true := by
  rw [isBelow_eq_true_iff] at below ⊢
  exact farBelow_mono below (highest_le_highest_record window index notEmpty)

/-- A refused position stays refused. -/
theorem refused_record (notEmpty : entry.seen.size ≠ 0) {probe : UInt32}
    (refused : entry.isBelow window probe = true ∨ entry.seen.contains probe = true)
    (index : UInt32) :
    (entry.record window index).isBelow window probe = true ∨
      (entry.record window index).seen.contains probe = true := by
  cases below : (entry.record window index).isBelow window probe with
  | true => exact .inl rfl
  | false =>
    right
    rw [seen_record_iff]
    refine ⟨.inr (refused.resolve_left fun earlier => ?_), below⟩
    rw [isBelow_record notEmpty index earlier] at below
    cases below

namespace Topped

theorem record (topped : entry.Topped) (window index : UInt32) :
    (entry.record window index).Topped where
  highest _ := highest_seen_record topped.highest
  atMost probe held := by
    rcases ((seen_record_iff probe).1 held).1 with rfl | earlier
    · exact index_le_highest_record entry window probe
    · exact UInt32.le_trans (topped.atMost probe earlier)
        (highest_le_highest_record window index (size_ne_zero_of_contains earlier))

theorem size_record_ne_zero (topped : entry.Topped) (window index : UInt32) :
    (entry.record window index).seen.size ≠ 0 :=
  size_ne_zero_of_contains (highest_seen_record topped.highest)

/-- After two recordings the window is the one after both in the other order. -/
theorem record_comm (topped : entry.Topped) (window first second : UInt32) :
    (entry.record window first).record window second =
      (entry.record window second).record window first := by
  have highestAfter : ∀ first second bound : UInt32,
      ((entry.record window first).record window second).highest ≤ bound ↔
        second ≤ bound ∧ first ≤ bound ∧ (entry.seen.size ≠ 0 → entry.highest ≤ bound) := by
    intro first second bound
    rw [highest_record_le_iff, highest_record_le_iff]
    exact and_congr_right fun _ => ⟨fun later => later (topped.size_record_ne_zero window first),
      fun both _ => both⟩
  have seenAfter : ∀ first second probe : UInt32,
      ((entry.record window first).record window second).seen.contains probe = true ↔
        (probe = second ∨ probe = first ∨ entry.seen.contains probe = true) ∧
          ((entry.record window first).record window second).isBelow window probe = false := by
    intro first second probe
    rw [seen_record_iff, seen_record_iff]
    refine and_congr_left fun inside => or_congr_right (and_iff_left ?_)
    rw [← Bool.not_eq_true] at inside ⊢
    intro below
    exact inside (isBelow_record (topped.size_record_ne_zero window first) second below)
  have sameHighest : ((entry.record window first).record window second).highest =
      ((entry.record window second).record window first).highest := by
    apply UInt32.le_antisymm
    · rw [highestAfter, and_left_comm, ← highestAfter]
      exact UInt32.le_refl _
    · rw [highestAfter, and_left_comm, ← highestAfter]
      exact UInt32.le_refl _
  apply ext_seen sameHighest
  intro probe
  have sameBelow : ((entry.record window first).record window second).isBelow window probe =
      ((entry.record window second).record window first).isBelow window probe := by
    simp only [isBelow, sameHighest]
  rw [seenAfter, seenAfter, sameBelow, or_left_comm]

/-- A window in which a position was just recorded does not change by one that it refuses. -/
theorem record_of_refused (topped : entry.Topped) {earlier : UInt32}
    (refused : (entry.record window earlier).isBelow window index = true ∨
      (entry.record window earlier).seen.contains index = true) :
    (entry.record window earlier).record window index = entry.record window earlier := by
  have notEmpty := topped.size_record_ne_zero window earlier
  have notAbove : index ≤ (entry.record window earlier).highest := by
    rcases refused with below | seen
    · exact UInt32.le_of_lt (isBelow_eq_true_iff.1 below).1
    · exact (topped.record window earlier).atMost index seen
  have sameHighest : ((entry.record window earlier).record window index).highest =
      (entry.record window earlier).highest := by
    apply UInt32.le_antisymm
    · exact (highest_record_le_iff _ _ _ _).2 ⟨notAbove, fun _ => UInt32.le_refl _⟩
    · exact highest_le_highest_record window index notEmpty
  apply ext_seen sameHighest
  intro probe
  have sameBelow : ((entry.record window earlier).record window index).isBelow window probe =
      (entry.record window earlier).isBelow window probe := by
    simp only [isBelow, sameHighest]
  rw [seen_record_iff, sameBelow]
  constructor
  · rintro ⟨rfl | seen, inside⟩
    · exact refused.resolve_left (by simp [inside])
    · exact seen
  · exact fun seen => ⟨.inr seen, ((seen_record_iff probe).1 seen).2⟩

end Topped

end GenerationWindow

namespace ReplayWindow

variable {replay other : ReplayWindow} {slot : Slot} {generation : UInt32}
  {entry : GenerationWindow}

/-! ### Orderly memories -/

/-- Every tracked generation is at or above the floor, and its window remembers some positions, of
which it knows the highest. -/
structure Orderly (replay : ReplayWindow) : Prop where
  someGeneration : 1 ≤ replay.maxGenerations
  aboveFloor : ∀ generation entry, replay.generations.find? generation = some entry →
    replay.generationFloor ≤ generation
  notEmpty : ∀ generation entry, replay.generations.find? generation = some entry →
    entry.seen.size ≠ 0
  topped : ∀ generation entry, replay.generations.find? generation = some entry → entry.Topped

theorem orderly_new (window : UInt32) (maxGenerations : Nat) :
    (new window maxGenerations).Orderly where
  someGeneration := Nat.le_max_left _ _
  aboveFloor _ _ found := by cases found
  notEmpty _ _ found := by cases found
  topped _ _ found := by cases found

/-- The memory after one more position, if it is not refused. -/
def recording (replay : ReplayWindow) (slot : Slot) : ReplayWindow :=
  (replay.accept slot.generation slot.index).2

/-- The window of a generation, which is empty before the first position. -/
def entryAt (replay : ReplayWindow) (generation : UInt32) : GenerationWindow :=
  (replay.generations.find? generation).getD {}

/-- The memory with another window for a generation. -/
def put (replay : ReplayWindow) (generation : UInt32) (entry : GenerationWindow) : ReplayWindow :=
  { replay with generations := replay.generations.insert generation entry }

/-- The memory with a position recorded, before anything is forgotten. -/
def widened (replay : ReplayWindow) (slot : Slot) : ReplayWindow :=
  replay.put slot.generation
    ((replay.entryAt slot.generation).record replay.window slot.index)

@[simp] theorem window_widened (replay : ReplayWindow) (slot : Slot) :
    (replay.widened slot).window = replay.window := rfl

theorem find?_widened (replay : ReplayWindow) (slot : Slot) (generation : UInt32) :
    (replay.widened slot).generations.find? generation =
      if slot.generation = generation then
        some ((replay.entryAt generation).record replay.window slot.index)
      else replay.generations.find? generation := by
  split
  · rename_i same
    rw [← same]
    exact OrderedMap.find?_insert_self _ _ _
  · rename_i different
    exact OrderedMap.find?_insert_other _ different _

theorem entryAt_widened (replay : ReplayWindow) (slot : Slot) (generation : UInt32) :
    (replay.widened slot).entryAt generation =
      if slot.generation = generation then
        (replay.entryAt generation).record replay.window slot.index
      else replay.entryAt generation := by
  rw [entryAt, find?_widened]
  split <;> rfl

/-- A window that is there already changes nothing. -/
theorem put_of_found (found : replay.generations.find? generation = some entry) :
    replay.put generation entry = replay := by
  have sameWindows : replay.generations.insert generation entry = replay.generations := by
    apply OrderedMap.ext_find?
    intro probe held
    by_cases same : generation = probe
    · rw [← same, OrderedMap.find?_insert_self, found]
    · rw [OrderedMap.find?_insert_other _ same]
  rw [put, sameWindows]

theorem entryAt_of_found (found : replay.generations.find? generation = some entry) :
    replay.entryAt generation = entry := by
  rw [entryAt, found, Option.getD_some]

theorem widened_of_found (found : replay.generations.find? slot.generation = some entry) :
    replay.widened slot =
      replay.put slot.generation (entry.record replay.window slot.index) := by
  rw [widened, entryAt_of_found found]

theorem recording_of_refused (refused : replay.isReplay slot.generation slot.index = true) :
    replay.recording slot = replay := by
  unfold recording accept
  rw [if_pos refused]

theorem recording_of_not_refused
    (notRefused : replay.isReplay slot.generation slot.index = false) :
    replay.recording slot = (replay.widened slot).trim := by
  unfold recording accept
  rw [if_neg (by simp [notRefused])]
  rfl

theorem floor_le_of_not_refused
    (notRefused : replay.isReplay slot.generation slot.index = false) :
    replay.generationFloor ≤ slot.generation := by
  apply UInt32.not_lt.1
  intro below
  rw [isReplay, if_pos below] at notRefused
  cases notRefused

/-- A position is refused below the floor, and from there on by the window of its generation. -/
theorem isReplay_eq_true_iff :
    replay.isReplay slot.generation slot.index = true ↔
      slot.generation < replay.generationFloor ∨
        ∃ entry, replay.generations.find? slot.generation = some entry ∧
          (entry.isBelow replay.window slot.index = true ∨
            entry.seen.contains slot.index = true) := by
  unfold isReplay
  by_cases below : slot.generation < replay.generationFloor
  · simp [below]
  · cases found : replay.generations.find? slot.generation <;> simp [below]

namespace Orderly

theorem entryAt (orderly : replay.Orderly) (generation : UInt32) :
    (replay.entryAt generation).Topped := by
  unfold ReplayWindow.entryAt
  cases found : replay.generations.find? generation with
  | none => exact GenerationWindow.topped_empty
  | some entry => exact orderly.topped generation entry found

theorem put (orderly : replay.Orderly) (notBelow : replay.generationFloor ≤ generation)
    (notEmpty : entry.seen.size ≠ 0) (topped : entry.Topped) :
    (replay.put generation entry).Orderly where
  someGeneration := orderly.someGeneration
  aboveFloor := OrderedMap.of_find?_insert notBelow orderly.aboveFloor
  notEmpty := OrderedMap.of_find?_insert notEmpty orderly.notEmpty
  topped := OrderedMap.of_find?_insert topped orderly.topped

theorem trim (orderly : replay.Orderly) : replay.trim.Orderly where
  someGeneration := orderly.someGeneration
  aboveFloor probe entry found :=
    ((find?_trim_iff orderly.someGeneration orderly.aboveFloor probe entry).1 found).2
  notEmpty probe entry found := orderly.notEmpty probe entry (OrderedMap.find?_of_find?_drop found)
  topped probe entry found := orderly.topped probe entry (OrderedMap.find?_of_find?_drop found)

theorem widened (orderly : replay.Orderly) (notBelow : replay.generationFloor ≤ slot.generation) :
    (replay.widened slot).Orderly :=
  orderly.put notBelow ((orderly.entryAt slot.generation).size_record_ne_zero _ _)
    ((orderly.entryAt slot.generation).record _ _)

theorem recording (orderly : replay.Orderly) (slot : Slot) : (replay.recording slot).Orderly := by
  cases refused : replay.isReplay slot.generation slot.index with
  | true =>
    rw [recording_of_refused refused]
    exact orderly
  | false =>
    rw [recording_of_not_refused refused]
    exact (orderly.widened (floor_le_of_not_refused refused)).trim

/-- A memory that is read back from its record is orderly under any bounds: the record holds the
floor and the windows, but not the bounds. -/
theorem ofRecord_toRecord (orderly : replay.Orderly) (window : UInt32) (maxGenerations : Nat) :
    (ofRecord replay.toRecord window maxGenerations).Orderly := by
  have read := @ReplayWindow.ofRecord_toRecord
    { new window maxGenerations with
      generationFloor := replay.generationFloor
      generations := replay.generations } window maxGenerations rfl rfl
  change ofRecord replay.toRecord window maxGenerations = _ at read
  rw [read]
  exact ⟨Nat.le_max_left _ _, orderly.aboveFloor, orderly.notEmpty, orderly.topped⟩

end Orderly

/-! ### Forgetting -/

/-- The tracked generations from a given one on. -/
def trackedFrom (replay : ReplayWindow) (generation : UInt32) : Finset UInt32 :=
  (replay.generations.keys.filter (generation ≤ ·)).toFinset

theorem mem_trackedFrom {probe : UInt32} :
    probe ∈ replay.trackedFrom generation ↔
      generation ≤ probe ∧ ∃ entry, replay.generations.find? probe = some entry := by
  rw [trackedFrom, List.mem_toFinset, List.mem_filter, decide_eq_true_iff, OrderedMap.mem_keys_iff,
    and_comm]

/-- Forgetting raises the floor above a generation when more are tracked from there on than the
bound allows. -/
theorem lt_floor_trim_iff_card (someGeneration : 1 ≤ replay.maxGenerations) (generation : UInt32) :
    generation < replay.trim.generationFloor ↔
      generation < replay.generationFloor ∨
        replay.maxGenerations < (replay.trackedFrom generation).card := by
  rw [lt_floor_trim_iff someGeneration, trackedFrom,
    List.toFinset_card_of_nodup (replay.generations.nodup_keys.filter _)]

theorem floor_le_floor_trim (someGeneration : 1 ≤ replay.maxGenerations) :
    replay.generationFloor ≤ replay.trim.generationFloor := by
  apply UInt32.not_lt.1
  intro lower
  exact UInt32.lt_irrefl _ ((lt_floor_trim_iff someGeneration _).2 (.inl lower))

theorem trackedFrom_put (replay : ReplayWindow) (generation : UInt32) (entry : GenerationWindow)
    (probe : UInt32) :
    (replay.put generation entry).trackedFrom probe =
      if probe ≤ generation then insert generation (replay.trackedFrom probe)
      else replay.trackedFrom probe := by
  have found : ∀ tracked, (∃ held, (replay.put generation entry).generations.find? tracked =
      some held) ↔ tracked = generation ∨ ∃ held, replay.generations.find? tracked = some held := by
    intro tracked
    by_cases same : generation = tracked
    · subst same
      exact iff_of_true ⟨entry, OrderedMap.find?_insert_self _ _ _⟩ (.inl rfl)
    · rw [put, OrderedMap.find?_insert_other _ same, or_iff_right (Ne.symm same)]
  ext tracked
  rw [mem_trackedFrom, found]
  split
  · rename_i above
    rw [Finset.mem_insert, mem_trackedFrom]
    refine ⟨fun ⟨within, origin⟩ => origin.imp_right (fun held => ⟨within, held⟩), ?_⟩
    rintro (rfl | ⟨within, held⟩)
    · exact ⟨above, .inl rfl⟩
    · exact ⟨within, .inr held⟩
  · rename_i notAbove
    rw [mem_trackedFrom]
    refine and_congr_right fun within => or_iff_right ?_
    rintro rfl
    exact notAbove within

theorem card_le_card_trackedFrom_put (replay : ReplayWindow) (generation : UInt32)
    (entry : GenerationWindow) (probe : UInt32) :
    (replay.trackedFrom probe).card ≤ ((replay.put generation entry).trackedFrom probe).card := by
  rw [trackedFrom_put]
  split
  · exact Finset.card_le_card (Finset.subset_insert _ _)
  · exact Nat.le_refl _

/-- Memories with the same bounds, floor and windows are the same. -/
theorem ext_floor (window : replay.window = other.window)
    (count : replay.maxGenerations = other.maxGenerations)
    (floor : ∀ generation, generation < replay.generationFloor ↔ generation < other.generationFloor)
    (windows : ∀ generation entry, replay.generations.find? generation = some entry ↔
      other.generations.find? generation = some entry) : replay = other := by
  have sameFloor : replay.generationFloor = other.generationFloor := by
    apply UInt32.le_antisymm
    · exact UInt32.not_lt.1 fun lower => UInt32.lt_irrefl _ ((floor _).1 lower)
    · exact UInt32.not_lt.1 fun lower => UInt32.lt_irrefl _ ((floor _).2 lower)
  have sameWindows := OrderedMap.ext_find? windows
  cases replay
  cases other
  simp_all

/-- A memory that another window joins after forgetting is, after forgetting again, the one that it
joins before. -/
theorem Orderly.trim_put_trim (orderly : replay.Orderly)
    (notBelow : replay.trim.generationFloor ≤ generation) (notEmpty : entry.seen.size ≠ 0)
    (topped : entry.Topped) :
    (replay.trim.put generation entry).trim = (replay.put generation entry).trim := by
  have someGeneration := orderly.someGeneration
  have orderlyLate := orderly.trim.put notBelow notEmpty topped
  have orderlyEarly := orderly.put
    (UInt32.le_trans (floor_le_floor_trim someGeneration) notBelow) notEmpty topped
  have floors : ∀ probe,
      probe < (replay.trim.put generation entry).trim.generationFloor ↔
        probe < (replay.put generation entry).trim.generationFloor := by
    intro probe
    rw [lt_floor_trim_iff_card orderlyLate.someGeneration,
      lt_floor_trim_iff_card orderlyEarly.someGeneration]
    change probe < replay.trim.generationFloor ∨ replay.maxGenerations < _ ↔
      probe < replay.generationFloor ∨ replay.maxGenerations < _
    by_cases below : probe < replay.trim.generationFloor
    · refine iff_of_true (.inl below) ?_
      refine ((lt_floor_trim_iff_card someGeneration probe).1 below).imp_right (fun many => ?_)
      exact Nat.lt_of_lt_of_le many (card_le_card_trackedFrom_put replay generation entry probe)
    · have notLower : ¬ probe < replay.generationFloor := fun lower =>
        below (UInt32.lt_of_lt_of_le lower (floor_le_floor_trim someGeneration))
      have sameTracked : replay.trim.trackedFrom probe = replay.trackedFrom probe := by
        ext tracked
        rw [mem_trackedFrom, mem_trackedFrom]
        refine and_congr_right fun within => exists_congr fun held => ?_
        rw [find?_trim_iff someGeneration orderly.aboveFloor]
        exact and_iff_left (UInt32.le_trans (UInt32.not_lt.1 below) within)
      rw [or_iff_right below, or_iff_right notLower, trackedFrom_put, trackedFrom_put, sameTracked]
  refine ext_floor rfl rfl floors (fun probe held => ?_)
  rw [find?_trim_iff orderlyLate.someGeneration orderlyLate.aboveFloor,
    find?_trim_iff orderlyEarly.someGeneration orderlyEarly.aboveFloor, ← UInt32.not_lt,
    ← UInt32.not_lt, floors]
  refine and_congr_left fun notForgotten => ?_
  by_cases same : generation = probe
  · subst same
    simp only [ReplayWindow.put, OrderedMap.find?_insert_self]
  · simp only [ReplayWindow.put, OrderedMap.find?_insert_other _ same]
    rw [find?_trim_iff someGeneration orderly.aboveFloor]
    apply and_iff_left
    rw [← floors] at notForgotten
    have rises : replay.trim.generationFloor ≤
        (replay.trim.put generation entry).trim.generationFloor :=
      floor_le_floor_trim orderlyLate.someGeneration
    exact UInt32.le_trans rises (UInt32.not_lt.1 notForgotten)

/-- A window below the floor that forgetting leaves makes no difference. -/
theorem Orderly.trim_put_of_lt (orderly : replay.Orderly)
    (below : generation < replay.trim.generationFloor)
    (notBelow : replay.generationFloor ≤ generation) (notEmpty : entry.seen.size ≠ 0)
    (topped : entry.Topped) :
    (replay.put generation entry).trim = replay.trim := by
  have someGeneration := orderly.someGeneration
  have orderlyPut := orderly.put notBelow notEmpty topped
  have floors : ∀ probe, probe < (replay.put generation entry).trim.generationFloor ↔
      probe < replay.trim.generationFloor := by
    intro probe
    rw [lt_floor_trim_iff_card orderlyPut.someGeneration, lt_floor_trim_iff_card someGeneration]
    change probe < replay.generationFloor ∨ replay.maxGenerations < _ ↔ _
    by_cases older : probe ≤ generation
    · have forgotten := UInt32.lt_of_le_of_lt older below
      rw [lt_floor_trim_iff_card someGeneration] at forgotten
      refine iff_of_true (forgotten.imp_right fun many => ?_) forgotten
      exact Nat.lt_of_lt_of_le many (card_le_card_trackedFrom_put replay generation entry probe)
    · rw [trackedFrom_put, if_neg older]
  refine ext_floor rfl rfl floors (fun probe held => ?_)
  rw [find?_trim_iff orderlyPut.someGeneration orderlyPut.aboveFloor,
    find?_trim_iff someGeneration orderly.aboveFloor, ← UInt32.not_lt, ← UInt32.not_lt, floors]
  refine and_congr_left fun notForgotten => ?_
  have different : generation ≠ probe := by
    rintro rfl
    exact notForgotten below
  simp only [ReplayWindow.put, OrderedMap.find?_insert_other _ different]

/-! ### Two recordings -/

variable {first second : Slot}

/-- A refused position stays refused. -/
theorem isReplay_recording (orderly : replay.Orderly)
    (refused : replay.isReplay first.generation first.index = true) (second : Slot) :
    (replay.recording second).isReplay first.generation first.index = true := by
  cases alsoRefused : replay.isReplay second.generation second.index with
  | true => rwa [recording_of_refused alsoRefused]
  | false =>
    have notBelow := floor_le_of_not_refused alsoRefused
    have orderlyWide := orderly.widened notBelow
    rw [recording_of_not_refused alsoRefused, isReplay_eq_true_iff]
    rw [isReplay_eq_true_iff] at refused
    by_cases forgotten : first.generation < (replay.widened second).trim.generationFloor
    · exact .inl forgotten
    · rcases refused with below | ⟨entry, found, inWindow⟩
      · exact .inl (UInt32.lt_of_lt_of_le below
          (floor_le_floor_trim orderlyWide.someGeneration))
      · right
        simp only [find?_trim_iff orderlyWide.someGeneration orderlyWide.aboveFloor]
        by_cases same : second.generation = first.generation
        · rw [← same] at found
          refine ⟨entry.record replay.window second.index, ⟨?_, UInt32.not_lt.1 forgotten⟩, ?_⟩
          · rw [find?_widened, if_pos same, ← same, entryAt_of_found found]
          · exact GenerationWindow.refused_record (orderly.notEmpty _ entry found) inWindow _
        · refine ⟨entry, ⟨?_, UInt32.not_lt.1 forgotten⟩, inWindow⟩
          rw [find?_widened, if_neg same, found]

/-- Two positions of which neither is refused at first: the memory is widened by both before
anything is forgotten. -/
theorem recording_recording (orderly : replay.Orderly)
    (firstNew : replay.isReplay first.generation first.index = false)
    (secondNew : replay.isReplay second.generation second.index = false) :
    (replay.recording first).recording second = ((replay.widened first).widened second).trim := by
  have firstNotBelow := floor_le_of_not_refused firstNew
  have secondNotBelow := floor_le_of_not_refused secondNew
  have wide := orderly.widened firstNotBelow
  have notEmpty := (wide.entryAt second.generation).size_record_ne_zero replay.window second.index
  have topped := (wide.entryAt second.generation).record replay.window second.index
  rw [recording_of_not_refused firstNew]
  by_cases forgotten : second.generation < (replay.widened first).trim.generationFloor
  · -- The generation of the second position is forgotten after the first.
    rw [recording_of_refused (by rw [isReplay, if_pos forgotten])]
    exact (wide.trim_put_of_lt forgotten secondNotBelow notEmpty topped).symm
  · have stays := UInt32.not_lt.1 forgotten
    have sameEntry : (replay.widened first).trim.entryAt second.generation =
        (replay.widened first).entryAt second.generation := by
      have found := fun entry => find?_trim_iff wide.someGeneration wide.aboveFloor
        second.generation entry
      simp only [and_iff_left stays] at found
      rw [entryAt, entryAt, Option.ext found]
    cases refused : (replay.widened first).trim.isReplay second.generation second.index with
    | false =>
      rw [recording_of_not_refused refused, widened, sameEntry]
      exact wide.trim_put_trim stays notEmpty topped
    | true =>
      -- The position is refused by a window that the first one has just joined.
      obtain ⟨entry, found, inWindow⟩ := (isReplay_eq_true_iff.1 refused).resolve_left forgotten
      have foundBefore :=
        ((find?_trim_iff wide.someGeneration wide.aboveFloor _ entry).1 found).1
      rw [recording_of_refused refused, widened_of_found foundBefore]
      rw [find?_widened] at foundBefore
      split at foundBefore
      · cases foundBefore
        have unchanged := (orderly.entryAt second.generation).record_of_refused inWindow
        rw [window_widened, unchanged, put_of_found]
        rw [find?_widened, if_pos ‹_›]
      · have refusedBefore := isReplay_eq_true_iff.2 (.inr ⟨entry, foundBefore, inWindow⟩)
        rw [secondNew] at refusedBefore
        cases refusedBefore

/-- Memories are widened by two positions in either order. -/
theorem Orderly.widened_comm (orderly : replay.Orderly) (first second : Slot) :
    (replay.widened first).widened second = (replay.widened second).widened first := by
  have sameWindows : ((replay.widened first).widened second).generations =
      ((replay.widened second).widened first).generations := by
    apply OrderedMap.ext_find?
    intro generation entry
    have commute := (orderly.entryAt generation).record_comm replay.window first.index second.index
    simp only [find?_widened, entryAt_widened, window_widened]
    by_cases ofFirst : first.generation = generation <;>
      by_cases ofSecond : second.generation = generation <;>
        simp only [ofFirst, ofSecond, if_true, if_false, commute]
  exact congrArg (fun generations => { replay with generations := generations }) sameWindows

/-- Two recordings commute, whether or not they are refused. -/
theorem Orderly.recording_comm (orderly : replay.Orderly) (first second : Slot) :
    (replay.recording first).recording second = (replay.recording second).recording first := by
  cases firstRefused : replay.isReplay first.generation first.index with
  | true =>
    rw [recording_of_refused firstRefused,
      recording_of_refused (isReplay_recording orderly firstRefused second)]
  | false =>
    cases secondRefused : replay.isReplay second.generation second.index with
    | true =>
      rw [recording_of_refused secondRefused,
        recording_of_refused (isReplay_recording orderly secondRefused first)]
    | false =>
      rw [recording_recording orderly firstRefused secondRefused,
        recording_recording orderly secondRefused firstRefused, orderly.widened_comm]

/-! ### Many recordings -/

/-- The memory after a list of positions, the oldest first. -/
def recordingAll (replay : ReplayWindow) (slots : List Slot) : ReplayWindow :=
  slots.foldl recording replay

theorem recordingAll_concat (replay : ReplayWindow) (slots : List Slot) (slot : Slot) :
    replay.recordingAll (slots ++ [slot]) = (replay.recordingAll slots).recording slot := by
  rw [recordingAll, List.foldl_append]
  rfl

/-- The memory does not depend on the order of the positions. -/
theorem Orderly.recordingAll_perm (orderly : replay.Orderly) {slots others : List Slot}
    (rearranged : slots.Perm others) :
    replay.recordingAll slots = replay.recordingAll others := by
  induction rearranged generalizing replay with
  | nil => rfl
  | cons slot _ inductionHypothesis => exact inductionHypothesis (orderly.recording slot)
  | swap first second rest =>
    simp only [recordingAll, List.foldl_cons]
    rw [orderly.recording_comm]
  | trans _ _ firstHypothesis secondHypothesis =>
    exact (firstHypothesis orderly).trans (secondHypothesis orderly)

end ReplayWindow

end RatchetMessaging
