import Mathlib.Data.Finset.Card
import RatchetMessaging.Proofs.Ratchet.Reception
import RatchetMessaging.Proofs.Ratchet.ReplayWindow

/-!
Contract: what the memory of accepted positions refuses, as a condition on the positions that it
was given.

Owns:
- `recollect`, the memory after a list of positions;
- the floor that forgetting the oldest generations leaves: it lies above a generation exactly
  when more generations from that one on were given than are tracked;
- `Recalls`, which relates every part of the memory to the positions, and that recording one more
  position keeps it, whether or not it is refused;
- the exact condition under which a position is refused.

Does not own: which positions a session accepts.
-/

namespace RatchetMessaging

namespace GenerationWindow

variable {entry : GenerationWindow} {window index : UInt32}

/-- The window remembers, of the positions that satisfy a condition, all that lie inside it, and
the highest one is among them. -/
structure Describes (entry : GenerationWindow) (window : UInt32) (holds : UInt32 → Prop) :
    Prop where
  reached : holds entry.highest
  highest : ∀ index, holds index → index ≤ entry.highest
  seen : ∀ index, entry.seen.contains index = true ↔
    holds index ∧ entry.isBelow window index = false

theorem isBelow_highest (entry : GenerationWindow) (window : UInt32) :
    entry.isBelow window entry.highest = false := by
  rw [← Bool.not_eq_true, isBelow_eq_true_iff]
  exact fun below => UInt32.lt_irrefl _ below.1

/-- What lies the width of a window or more below a position does so below every higher one. -/
theorem farBelow_mono {position higher : UInt32}
    (farBelow : index < position ∧ window ≤ position - index) (atMost : position ≤ higher) :
    index < higher ∧ window ≤ higher - index := by
  obtain ⟨below, away⟩ := farBelow
  have belowHigher := UInt32.lt_of_lt_of_le below atMost
  refine ⟨belowHigher, ?_⟩
  rw [UInt32.le_iff_toNat_le] at away atMost ⊢
  rw [UInt32.toNat_sub_of_le _ _ (UInt32.le_of_lt below)] at away
  rw [UInt32.toNat_sub_of_le _ _ (UInt32.le_of_lt belowHigher)]
  omega

/-- A window with a described position is not empty. -/
theorem Describes.size_ne_zero {holds : UInt32 → Prop} (describes : entry.Describes window holds) :
    entry.seen.size ≠ 0 := by
  have seen := (describes.seen entry.highest).2 ⟨describes.reached, isBelow_highest entry window⟩
  obtain ⟨_, found⟩ := OrderedMap.contains_iff.1 seen
  exact Nat.ne_of_gt (List.length_pos_of_mem (OrderedMap.find?_eq_some_iff.1 found))

/-- After recording, the seen positions are the new one and the earlier ones, as far as they lie
inside the window. -/
theorem seen_record_iff (probe : UInt32) :
    (entry.record window index).seen.contains probe = true ↔
      (probe = index ∨ entry.seen.contains probe = true) ∧
        (entry.record window index).isBelow window probe = false := by
  have inserted : (entry.seen.insert index ()).contains probe = true ↔
      probe = index ∨ entry.seen.contains probe = true := by
    by_cases same : index = probe
    · simp [OrderedMap.contains, OrderedMap.find?_insert, OrderedMap.sameKey, same]
    · rw [OrderedMap.contains, OrderedMap.find?_insert_other _ same]
      exact (or_iff_right (Ne.symm same)).symm
  rw [← inserted]
  have sameBelow : (entry.record window index).isBelow window probe =
      (⟨(entry.record window index).highest, entry.seen.insert index ()⟩ :
        GenerationWindow).isBelow window probe := rfl
  rw [sameBelow, OrderedMap.contains_iff, OrderedMap.contains_iff]
  simp only [record, OrderedMap.find?_filter, Option.filter_eq_some_iff, Bool.not_eq_true',
    exists_and_right]

/-- The first position of a generation is its whole window. -/
theorem describes_record_new (window index : UInt32) :
    (record {} window index).Describes window (· = index) where
  reached := rfl
  highest probe same := by
    rw [same]
    exact UInt32.le_refl _
  seen probe := by
    rw [seen_record_iff]
    simp [OrderedMap.contains_empty]

/-- One more position joins the window. -/
theorem Describes.record {holds : UInt32 → Prop} (describes : entry.Describes window holds)
    (index : UInt32) :
    (entry.record window index).Describes window (fun probe => holds probe ∨ probe = index) := by
  have highestIs : (entry.record window index).highest =
      if entry.highest < index then index else entry.highest := by
    simp [GenerationWindow.record, describes.size_ne_zero]
  have further : entry.highest ≤ (entry.record window index).highest := by
    rw [highestIs]
    split
    · exact UInt32.le_of_lt ‹_›
    · exact UInt32.le_refl _
  refine ⟨?_, ?_, ?_⟩
  · rw [highestIs]
    split
    · exact .inr rfl
    · exact .inl describes.reached
  · rintro probe (earlier | rfl)
    · exact UInt32.le_trans (describes.highest probe earlier) further
    · rw [highestIs]
      split
      · exact UInt32.le_refl _
      · exact UInt32.not_lt.1 ‹_›
  · intro probe
    rw [seen_record_iff]
    -- What fell off the window earlier is still below it, since the highest position only rises.
    have stillBelow : (entry.record window index).isBelow window probe = false →
        entry.isBelow window probe = false := by
      intro inside
      rw [← Bool.not_eq_true, isBelow_eq_true_iff] at inside ⊢
      exact fun farBelow => inside (farBelow_mono farBelow further)
    constructor
    · rintro ⟨rfl | seen, inside⟩
      · exact ⟨.inr rfl, inside⟩
      · exact ⟨.inl ((describes.seen probe).1 seen).1, inside⟩
    · rintro ⟨earlier | rfl, inside⟩
      · exact ⟨.inr ((describes.seen probe).2 ⟨earlier, stillBelow inside⟩), inside⟩
      · exact ⟨.inl rfl, inside⟩

/-- A refused position is described already, or it is too far below to matter. -/
theorem Describes.of_refused {holds : UInt32 → Prop} (describes : entry.Describes window holds)
    (refused : entry.isBelow window index = true ∨ entry.seen.contains index = true) :
    entry.Describes window (fun probe => holds probe ∨ probe = index) where
  reached := .inl describes.reached
  highest := by
    rintro probe (earlier | rfl)
    · exact describes.highest probe earlier
    · rcases refused with below | seen
      · exact UInt32.le_of_lt (isBelow_eq_true_iff.1 below).1
      · exact describes.highest _ ((describes.seen _).1 seen).1
  seen probe := by
    rw [describes.seen]
    constructor
    · exact fun earlier => ⟨.inl earlier.1, earlier.2⟩
    · rintro ⟨earlier | rfl, inside⟩
      · exact ⟨earlier, inside⟩
      · refine (describes.seen _).1 (refused.resolve_left ?_)
        simp [inside]

/-- A described window refuses what was given, and what lies its width or more below that. -/
theorem Describes.refuses_iff {holds : UInt32 → Prop} (describes : entry.Describes window holds)
    (index : UInt32) :
    (entry.isBelow window index || entry.seen.contains index) = true ↔
      holds index ∨ ∃ later, holds later ∧ index < later ∧ window ≤ later - index := by
  rw [Bool.or_eq_true, describes.seen]
  constructor
  · rintro (below | seen)
    · exact .inr ⟨_, describes.reached, isBelow_eq_true_iff.1 below⟩
    · exact .inl seen.1
  · rintro (given | ⟨later, given, above, away⟩)
    · cases below : entry.isBelow window index with
      | true => exact .inl rfl
      | false => exact .inr ⟨given, rfl⟩
    · left
      rw [isBelow_eq_true_iff]
      exact farBelow_mono ⟨above, away⟩ (describes.highest later given)

end GenerationWindow

namespace ReplayWindow

variable {replay : ReplayWindow} {slots : List Slot} {slot : Slot} {generation index : UInt32}

/-- The generations of the positions, from a given one on. -/
def generationsFrom (slots : List Slot) (generation : UInt32) : Finset UInt32 :=
  (slots.map Slot.generation).toFinset.filter (generation ≤ ·)

theorem mem_generationsFrom {other : UInt32} :
    other ∈ generationsFrom slots generation ↔
      generation ≤ other ∧ ∃ index, ⟨other, index⟩ ∈ slots := by
  simp only [generationsFrom, Finset.mem_filter, List.mem_toFinset, List.mem_map]
  constructor
  · rintro ⟨⟨given, member, rfl⟩, newer⟩
    exact ⟨newer, given.index, member⟩
  · rintro ⟨newer, index, member⟩
    exact ⟨⟨_, member, rfl⟩, newer⟩

/-- The memory after recording positions, the oldest first. -/
def recollect (window : UInt32) (maxGenerations : Nat) (slots : List Slot) : ReplayWindow :=
  slots.foldl (fun replay slot => (replay.accept slot.generation slot.index).2)
    (new window maxGenerations)

theorem recollect_concat (window : UInt32) (maxGenerations : Nat) (slots : List Slot)
    (slot : Slot) :
    recollect window maxGenerations (slots ++ [slot]) =
      ((recollect window maxGenerations slots).accept slot.generation slot.index).2 := by
  simp [recollect]

/-! ### The floor -/

theorem lt_after_iff {evicted newer : UInt32} (older : evicted < newer) :
    generation < after evicted ↔ generation ≤ evicted := by
  have notLast : evicted ≠ 0xFFFFFFFF := by
    rintro rfl
    exact absurd older (UInt32.not_lt.2 (UInt32.le_iff_toNat_le.2 (by
      have small := newer.toNat_lt
      simp only [UInt32.reduceToNat]
      omega)))
  rw [after, if_neg notLast, UInt32.lt_iff_toNat_lt, UInt32.le_iff_toNat_le,
    toNat_succ_of_ne_last notLast]
  exact Nat.lt_succ_iff

/-- The floor rises above every generation up to an evicted one. -/
theorem lt_foldl_floor_iff {evicted : List UInt32} {floor newer : UInt32}
    (older : ∀ gone ∈ evicted, gone < newer) :
    generation < evicted.foldl (fun floor gone => max floor (after gone)) floor ↔
      generation < floor ∨ ∃ gone ∈ evicted, generation ≤ gone := by
  induction evicted generalizing floor with
  | nil => simp
  | cons first rest inductionHypothesis =>
    have larger : generation < max floor (after first) ↔
        generation < floor ∨ generation ≤ first := by
      rw [← lt_after_iff (older first List.mem_cons_self)]
      change generation < (if floor ≤ after first then after first else floor) ↔ _
      split
      · rename_i rises
        exact (or_iff_right_of_imp (fun below => UInt32.lt_of_lt_of_le below rises)).symm
      · rename_i stays
        exact (or_iff_left_of_imp
          (fun below => UInt32.lt_trans below (UInt32.not_le.1 stays))).symm
    rw [List.foldl_cons, inductionHypothesis
      (fun gone member => older gone (List.mem_cons_of_mem _ member)), larger]
    simp only [List.mem_cons, exists_eq_or_imp, or_assoc]

/-- Of increasing numbers, one at or above a bound is among the surplus oldest exactly when too
many are at or above it. -/
theorem exists_mem_take_iff {keys : List UInt32} (increasing : keys.Pairwise (· < ·)) {kept : Nat}
    (someKept : 1 ≤ kept) :
    (∃ gone ∈ keys.take (keys.length - kept), generation ≤ gone) ↔
      kept < (keys.filter (generation ≤ ·)).length := by
  generalize surplusIs : keys.length - kept = surplus
  have parts := List.take_append_drop surplus keys
  have ordered := increasing
  rw [← parts, List.pairwise_append] at ordered
  have counted : (keys.filter (generation ≤ ·)).length =
      ((keys.take surplus).filter (generation ≤ ·)).length +
        ((keys.drop surplus).filter (generation ≤ ·)).length := by
    rw [← List.length_append, ← List.filter_append, parts]
  constructor
  · rintro ⟨gone, member, above⟩
    have allKept : (keys.drop surplus).filter (generation ≤ ·) = keys.drop surplus := by
      refine List.filter_eq_self.2 (fun newer stays => ?_)
      have below := ordered.2.2 gone member newer stays
      exact decide_eq_true (UInt32.le_trans above (UInt32.le_of_lt below))
    have someGone : 0 < ((keys.take surplus).filter (generation ≤ ·)).length :=
      List.length_pos_of_mem (List.mem_filter.2 ⟨member, decide_eq_true above⟩)
    have someTaken := List.length_pos_of_mem member
    rw [List.length_take] at someTaken
    rw [counted, allKept, List.length_drop]
    omega
  · intro many
    by_contra noneAbove
    have noneGone : (keys.take surplus).filter (generation ≤ ·) = [] := by
      refine List.filter_eq_nil_iff.2 (fun gone member above => noneAbove ⟨gone, member, ?_⟩)
      exact of_decide_eq_true above
    have atMost := List.length_filter_le (generation ≤ ·) (keys.drop surplus)
    rw [List.length_drop] at atMost
    rw [counted, noneGone, List.length_nil] at many
    omega

/-- Whatever is evicted is older than a generation that stays. -/
theorem exists_newer_of_evicted {keys : List UInt32} (increasing : keys.Pairwise (· < ·))
    {kept : Nat} (someKept : 1 ≤ kept) :
    ∃ newer, ∀ gone ∈ keys.take (keys.length - kept), gone < newer := by
  generalize surplusIs : keys.length - kept = surplus
  have ordered := increasing
  rw [← List.take_append_drop surplus keys, List.pairwise_append] at ordered
  cases rest : keys.drop surplus with
  | nil =>
    -- Nothing is left only of no keys at all.
    have noneLeft := congrArg List.length rest
    rw [List.length_drop, List.length_nil] at noneLeft
    refine ⟨0, fun gone member => ?_⟩
    have someTaken := List.length_pos_of_mem member
    rw [List.length_take] at someTaken
    omega
  | cons newer others =>
    refine ⟨newer, fun gone member => ordered.2.2 gone member newer ?_⟩
    rw [rest]
    exact List.mem_cons_self

theorem increasing_keys (map : NumberMap GenerationWindow) : map.keys.Pairwise (· < ·) :=
  List.pairwise_map.2 map.increasing

theorem lt_floor_trim_iff (someGeneration : 1 ≤ replay.maxGenerations) (generation : UInt32) :
    generation < replay.trim.generationFloor ↔
      generation < replay.generationFloor ∨
        replay.maxGenerations < (replay.generations.keys.filter (generation ≤ ·)).length := by
  have size : replay.generations.keys.length = replay.generations.size := List.length_map _
  have increasing := increasing_keys replay.generations
  obtain ⟨newer, older⟩ := exists_newer_of_evicted increasing someGeneration
  rw [← exists_mem_take_iff increasing someGeneration, trim]
  simp only [← size]
  exact lt_foldl_floor_iff older

/-- The generations that are still tracked are those from the floor on. -/
theorem find?_trim_iff (someGeneration : 1 ≤ replay.maxGenerations)
    (aboveFloor : ∀ generation entry, replay.generations.find? generation = some entry →
      replay.generationFloor ≤ generation) (generation : UInt32) (entry : GenerationWindow) :
    replay.trim.generations.find? generation = some entry ↔
      replay.generations.find? generation = some entry ∧
        replay.trim.generationFloor ≤ generation := by
  have increasing := increasing_keys replay.generations
  have size : replay.generations.keys.length = replay.generations.size := List.length_map _
  have floorIs : generation < replay.trim.generationFloor ↔ generation < replay.generationFloor ∨
      ∃ gone ∈ replay.generations.keys.take
        (replay.generations.keys.length - replay.maxGenerations), generation ≤ gone := by
    rw [exists_mem_take_iff increasing someGeneration, lt_floor_trim_iff someGeneration]
  have trimmed : replay.trim.generations =
      replay.generations.drop (replay.generations.keys.length - replay.maxGenerations) := by
    rw [size]
    rfl
  rw [trimmed, ← UInt32.not_lt, floorIs]
  generalize replay.generations.keys.length - replay.maxGenerations = surplus
  have ordered := increasing
  rw [← List.take_append_drop surplus replay.generations.keys, List.pairwise_append] at ordered
  constructor
  · intro found
    have stays : generation ∈ replay.generations.keys.drop surplus := by
      rw [OrderedMap.keys, ← List.map_drop]
      exact List.mem_map_of_mem (f := Prod.fst) (OrderedMap.find?_eq_some_iff.1 found)
    have foundBefore := OrderedMap.find?_of_find?_drop found
    refine ⟨foundBefore, ?_⟩
    rintro (below | ⟨gone, member, above⟩)
    · exact absurd below (UInt32.not_lt.2 (aboveFloor generation entry foundBefore))
    · exact UInt32.lt_irrefl _
        (UInt32.lt_of_le_of_lt above (ordered.2.2 gone member generation stays))
  · rintro ⟨found, notGone⟩
    rw [OrderedMap.find?_eq_some_iff] at found ⊢
    rw [← List.take_append_drop surplus replay.generations.entries, List.mem_append] at found
    refine found.resolve_left (fun isGone => notGone (.inr ⟨generation, ?_, UInt32.le_refl _⟩))
    rw [OrderedMap.keys, ← List.map_take]
    exact List.mem_map_of_mem (f := Prod.fst) isGone

/-! ### The memory of a list of positions -/

/-- The memory collects the positions: the tracked generations are the given ones from the floor
on, each has its window, and below the floor are only generations that too many others followed. -/
structure Collects (replay : ReplayWindow) (slots : List Slot) : Prop where
  someGeneration : 1 ≤ replay.maxGenerations
  low : ∀ generation, generation < replay.generationFloor →
    replay.maxGenerations < (generationsFrom slots generation).card
  tracked : ∀ generation, (∃ entry, replay.generations.find? generation = some entry) ↔
    replay.generationFloor ≤ generation ∧ ∃ index, ⟨generation, index⟩ ∈ slots
  windows : ∀ generation entry, replay.generations.find? generation = some entry →
    entry.Describes replay.window (fun index => ⟨generation, index⟩ ∈ slots)

/-- The memory collects the positions, and every generation that too many others followed is below
the floor. -/
structure Recalls (replay : ReplayWindow) (slots : List Slot) : Prop extends
    Collects replay slots where
  high : ∀ generation, replay.maxGenerations < (generationsFrom slots generation).card →
    generation < replay.generationFloor

theorem recalls_new (window : UInt32) (maxGenerations : Nat) :
    (new window maxGenerations).Recalls [] where
  someGeneration := Nat.le_max_left _ _
  low generation below := absurd below UInt32.not_lt_zero
  tracked generation := by
    simp [new, OrderedMap.find?, OrderedMap.lookup, OrderedMap.empty]
  windows generation entry found := by cases found
  high generation many := by simp [generationsFrom] at many

theorem Collects.not_given (collects : replay.Collects slots)
    (notBelow : replay.generationFloor ≤ generation)
    (untracked : replay.generations.find? generation = none) (index : UInt32) :
    (⟨generation, index⟩ : Slot) ∉ slots := by
  intro given
  obtain ⟨entry, found⟩ := (collects.tracked generation).2 ⟨notBelow, index, given⟩
  rw [untracked] at found
  cases found

/-- Forgetting the oldest generations beyond the bound leaves the memory of the positions. -/
theorem Collects.trim (collects : replay.Collects slots) : replay.trim.Recalls slots := by
  have aboveFloor : ∀ generation entry, replay.generations.find? generation = some entry →
      replay.generationFloor ≤ generation := by
    intro generation entry found
    exact ((collects.tracked generation).1 ⟨entry, found⟩).1
  -- From the floor on, the tracked generations are the given ones.
  have counted : ∀ generation, replay.generationFloor ≤ generation →
      (replay.generations.keys.filter (generation ≤ ·)).length =
        (generationsFrom slots generation).card := by
    intro generation notBelow
    have same : generationsFrom slots generation =
        (replay.generations.keys.filter (generation ≤ ·)).toFinset := by
      ext other
      rw [mem_generationsFrom, List.mem_toFinset, List.mem_filter, decide_eq_true_iff,
        OrderedMap.mem_keys_iff, collects.tracked, and_comm]
      refine and_congr_left (fun above => ?_)
      exact (and_iff_right (UInt32.le_trans notBelow above)).symm
    rw [same, List.toFinset_card_of_nodup (replay.generations.nodup_keys.filter _)]
  have floorIs := lt_floor_trim_iff collects.someGeneration
  have found := find?_trim_iff collects.someGeneration aboveFloor
  refine {
    someGeneration := ?someGeneration
    low := ?low
    high := ?high
    tracked := ?tracked
    windows := ?windows }
  case someGeneration => exact collects.someGeneration
  case low =>
    intro generation below
    change replay.maxGenerations < _
    by_cases already : generation < replay.generationFloor
    · exact collects.low generation already
    · rw [← counted generation (UInt32.not_lt.1 already)]
      exact ((floorIs generation).1 below).resolve_left already
  case high =>
    intro generation many
    change replay.maxGenerations < _ at many
    rw [floorIs]
    by_cases already : generation < replay.generationFloor
    · exact .inl already
    · rw [← counted generation (UInt32.not_lt.1 already)] at many
      exact .inr many
  case tracked =>
    intro generation
    simp only [found, exists_and_right, collects.tracked]
    constructor
    · rintro ⟨⟨_, given⟩, notBelow⟩
      exact ⟨notBelow, given⟩
    · rintro ⟨notBelow, given⟩
      refine ⟨⟨UInt32.not_lt.1 (fun already => ?_), given⟩, notBelow⟩
      exact absurd ((floorIs generation).2 (.inl already)) (UInt32.not_lt.2 notBelow)
  case windows =>
    intro generation entry stays
    exact collects.windows generation entry ((found generation entry).1 stays).1

theorem generationsFrom_concat (slots : List Slot) (slot : Slot) (generation : UInt32) :
    generationsFrom (slots ++ [slot]) generation =
      if generation ≤ slot.generation then
        insert slot.generation (generationsFrom slots generation)
      else generationsFrom slots generation := by
  rw [generationsFrom, List.map_append, List.toFinset_append, Finset.filter_union]
  split
  · rename_i newer
    simp [Finset.filter_singleton, newer, Finset.union_comm, generationsFrom]
  · rename_i older
    simp [Finset.filter_singleton, older, generationsFrom]

theorem card_le_concat (slots : List Slot) (slot : Slot) (generation : UInt32) :
    (generationsFrom slots generation).card ≤
      (generationsFrom (slots ++ [slot]) generation).card := by
  rw [generationsFrom_concat]
  split
  · exact Finset.card_le_card (Finset.subset_insert _ _)
  · exact Nat.le_refl _

theorem mem_concat {probe : UInt32} :
    (⟨generation, probe⟩ : Slot) ∈ slots ++ [slot] ↔
      ⟨generation, probe⟩ ∈ slots ∨ generation = slot.generation ∧ probe = slot.index := by
  rw [List.mem_append, List.mem_singleton]
  cases slot
  simp

namespace Recalls

theorem floor_iff (recalls : replay.Recalls slots) (generation : UInt32) :
    generation < replay.generationFloor ↔
      replay.maxGenerations < (generationsFrom slots generation).card :=
  ⟨recalls.low generation, recalls.high generation⟩

theorem isReplay_iff (recalls : replay.Recalls slots) (generation index : UInt32) :
    replay.isReplay generation index = true ↔
      replay.maxGenerations < (generationsFrom slots generation).card ∨
        ⟨generation, index⟩ ∈ slots ∨
        ∃ later, ⟨generation, later⟩ ∈ slots ∧ index < later ∧ replay.window ≤ later - index := by
  rw [← recalls.floor_iff]
  unfold isReplay
  by_cases below : generation < replay.generationFloor
  · simp [below]
  · rw [if_neg below, or_iff_right below]
    cases found : replay.generations.find? generation with
    | some entry => exact (recalls.windows generation entry found).refuses_iff index
    | none => simp [recalls.not_given (UInt32.not_lt.1 below) found]

/-- A refused position is below the floor, or it lies in or under the window of its generation. -/
theorem refused_cases (recalls : replay.Recalls slots)
    (refused : replay.isReplay slot.generation slot.index = true) :
    slot.generation < replay.generationFloor ∨
      (∃ index, ⟨slot.generation, index⟩ ∈ slots) ∧
        ∀ entry, replay.generations.find? slot.generation = some entry →
          entry.isBelow replay.window slot.index = true ∨
            entry.seen.contains slot.index = true := by
  by_cases below : slot.generation < replay.generationFloor
  · exact .inl below
  · unfold isReplay at refused
    rw [if_neg below] at refused
    cases found : replay.generations.find? slot.generation with
    | none => simp [found] at refused
    | some entry =>
      rw [found] at refused
      refine .inr ⟨((recalls.tracked _).1 ⟨entry, found⟩).2, ?_⟩
      rintro _ ⟨⟩
      simpa using refused

/-- A refused position changes nothing that the memory is asked for. -/
theorem of_refused (recalls : replay.Recalls slots)
    (refused : replay.isReplay slot.generation slot.index = true) :
    replay.Recalls (slots ++ [slot]) := by
  have cases := recalls.refused_cases refused
  refine {
    someGeneration := ?someGeneration
    low := ?low
    high := ?high
    tracked := ?tracked
    windows := ?windows }
  case someGeneration => exact recalls.someGeneration
  case low =>
    intro generation below
    exact Nat.lt_of_lt_of_le (recalls.low generation below) (card_le_concat slots slot generation)
  case high =>
    intro generation many
    rw [generationsFrom_concat] at many
    split at many
    · rename_i newer
      rcases cases with below | ⟨given, _⟩
      · exact UInt32.lt_of_le_of_lt newer below
      · rw [Finset.insert_eq_of_mem (mem_generationsFrom.2 ⟨newer, given⟩)] at many
        exact recalls.high generation many
    · exact recalls.high generation many
  case tracked =>
    intro generation
    rw [recalls.tracked]
    refine and_congr_right (fun notBelow => ?_)
    simp only [mem_concat]
    refine ⟨fun ⟨index, given⟩ => ⟨index, .inl given⟩, ?_⟩
    rintro ⟨index, earlier | ⟨rfl, _⟩⟩
    · exact ⟨index, earlier⟩
    · exact (cases.resolve_left (UInt32.not_lt.2 notBelow)).1
  case windows =>
    intro generation entry found
    have describes := recalls.windows generation entry found
    simp only [mem_concat]
    by_cases same : generation = slot.generation
    · subst same
      have notBelow := UInt32.not_lt.2 ((recalls.tracked slot.generation).1 ⟨entry, found⟩).1
      have refusal := (cases.resolve_left notBelow).2 entry found
      simpa using describes.of_refused refusal
    · simpa [same] using describes

/-- A position that is not refused joins the window of its generation, or starts it. -/
theorem inserting (recalls : replay.Recalls slots)
    (notBelow : replay.generationFloor ≤ slot.generation) :
    Collects { replay with
      generations := replay.generations.insert slot.generation
        (((replay.generations.find? slot.generation).getD {}).record replay.window slot.index) }
      (slots ++ [slot]) := by
  constructor
  case someGeneration => exact recalls.someGeneration
  case low =>
    intro generation below
    exact Nat.lt_of_lt_of_le (recalls.low generation below) (card_le_concat slots slot generation)
  case tracked =>
    intro generation
    simp only [mem_concat]
    by_cases same : slot.generation = generation
    · subst same
      rw [OrderedMap.find?_insert_self]
      exact iff_of_true ⟨_, rfl⟩ ⟨notBelow, slot.index, .inr ⟨rfl, rfl⟩⟩
    · rw [OrderedMap.find?_insert_other _ same, recalls.tracked]
      simp [Ne.symm same]
  case windows =>
    intro generation entry found
    simp only [mem_concat]
    by_cases same : slot.generation = generation
    · subst same
      rw [OrderedMap.find?_insert_self] at found
      cases found
      cases known : replay.generations.find? slot.generation with
      | none =>
        have notGiven := recalls.not_given notBelow known
        simpa [notGiven] using GenerationWindow.describes_record_new replay.window slot.index
      | some entry => simpa using (recalls.windows _ entry known).record slot.index
    · rw [OrderedMap.find?_insert_other _ same] at found
      simpa [Ne.symm same] using recalls.windows generation entry found

/-- Recording a position, refused or not, gives the memory of the positions with that one. -/
theorem accept (recalls : replay.Recalls slots) (slot : Slot) :
    (replay.accept slot.generation slot.index).2.Recalls (slots ++ [slot]) := by
  unfold ReplayWindow.accept
  split
  · rename_i refused
    exact recalls.of_refused refused
  · rename_i notRefused
    refine (recalls.inserting (UInt32.not_lt.1 (fun below => notRefused ?_))).trim
    rw [isReplay, if_pos below]

end Recalls

theorem recalls_recollect (window : UInt32) (maxGenerations : Nat) (slots : List Slot) :
    (recollect window maxGenerations slots).Recalls slots ∧
      (recollect window maxGenerations slots).window = (new window maxGenerations).window ∧
      (recollect window maxGenerations slots).maxGenerations = max 1 maxGenerations := by
  induction slots using List.reverseRecOn with
  | nil => exact ⟨recalls_new window maxGenerations, rfl, rfl⟩
  | append_singleton slots slot inductionHypothesis =>
    obtain ⟨recalls, sameWindow, sameBound⟩ := inductionHypothesis
    rw [recollect_concat, window_accept, maxGenerations_accept]
    exact ⟨recalls.accept slot, sameWindow, sameBound⟩

/-- A position is refused exactly when it was given before, when one of its generation was given
that lies the width of the window or more above it, or when more generations from its own on were
given than are tracked. -/
theorem isReplay_recollect_iff (window : UInt32) (maxGenerations : Nat) (slots : List Slot)
    (generation index : UInt32) :
    (recollect window maxGenerations slots).isReplay generation index = true ↔
      max 1 maxGenerations < (generationsFrom slots generation).card ∨
        ⟨generation, index⟩ ∈ slots ∨
        ∃ later, ⟨generation, later⟩ ∈ slots ∧ index < later ∧
          (new window maxGenerations).window ≤ later - index := by
  obtain ⟨recalls, sameWindow, sameBound⟩ := recalls_recollect window maxGenerations slots
  rw [recalls.isReplay_iff, sameWindow, sameBound]

end ReplayWindow

end RatchetMessaging
