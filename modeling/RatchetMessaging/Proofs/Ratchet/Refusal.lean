import Mathlib.Data.Finset.Max
import RatchetMessaging.Proofs.Ratchet.Recall

/-!
Contract: the memory of accepted positions against the history of everything that it recorded.

Owns:
- `acceptAll` and `recorded`, the memory after a list of calls and the positions that these have
  recorded;
- `Spent`, a condition on the recorded positions alone, without the windows, the floor and the
  evictions by which the memory keeps its size;
- after every list of calls the memory refuses exactly the spent positions, and a refusal leaves it
  as it was.

Does not own: which positions a session asks to record.
-/

namespace RatchetMessaging.ReplayWindow

variable {replay : ReplayWindow} {history : List Slot} {slot : Slot} {generation : UInt32}

/-! ### Calls -/

/-- The memory after a list of calls, refused or not. -/
def acceptAll (replay : ReplayWindow) (calls : List Slot) : ReplayWindow :=
  calls.foldl (fun replay slot => (replay.accept slot.generation slot.index).2) replay

/-- The positions that a list of calls records, in order. -/
def recorded (replay : ReplayWindow) : List Slot → List Slot
  | [] => []
  | slot :: later =>
    let (isRecorded, next) := replay.accept slot.generation slot.index
    if isRecorded then slot :: next.recorded later else next.recorded later

theorem accept_of_refused (refused : replay.isReplay slot.generation slot.index = true) :
    replay.accept slot.generation slot.index = (false, replay) :=
  if_pos refused

theorem accept_eq_false_iff :
    (replay.accept slot.generation slot.index).1 = false ↔
      replay.isReplay slot.generation slot.index = true := by
  constructor
  · intro notRecorded
    by_contra notRefused
    rw [accept, if_neg notRefused] at notRecorded
    cases notRecorded
  · intro refused
    rw [accept_of_refused refused]

/-- After a list of calls the memory recalls what it did before, and what the calls recorded. -/
theorem Recalls.acceptAll (recalls : replay.Recalls history) (calls : List Slot) :
    (replay.acceptAll calls).Recalls (history ++ replay.recorded calls) ∧
      (replay.acceptAll calls).window = replay.window ∧
      (replay.acceptAll calls).maxGenerations = replay.maxGenerations := by
  induction calls generalizing replay history with
  | nil =>
    rw [recorded, List.append_nil]
    exact ⟨recalls, rfl, rfl⟩
  | cons slot later inductionHypothesis =>
    by_cases refused : replay.isReplay slot.generation slot.index = true
    · have same := accept_of_refused refused
      simp only [ReplayWindow.acceptAll, recorded, List.foldl_cons, same]
      exact inductionHypothesis recalls
    · have isRecorded : (replay.accept slot.generation slot.index).1 = true :=
        Bool.not_eq_false _ ▸ fun notRecorded => refused (accept_eq_false_iff.1 notRecorded)
      have next := inductionHypothesis (recalls.accept slot)
      rw [window_accept, maxGenerations_accept, List.append_assoc] at next
      simp only [recorded, isRecorded, if_true]
      exact next

/-! ### Spent positions -/

/-- The generations of a history that are newer than a given one. -/
def newerGenerations (history : List Slot) (generation : UInt32) : Finset UInt32 :=
  (history.map Slot.generation).toFinset.filter (generation < ·)

/-- What a history of recorded positions refuses: its own positions, what lies `width` or more below
one of them in the same generation, and everything up to a generation of the history that
`maxGenerations` others are newer than. -/
def Spent (width maxGenerations : Nat) (history : List Slot) (slot : Slot) : Prop :=
  slot ∈ history ∨
    (∃ higher ∈ history, higher.generation = slot.generation ∧
      slot.index.toNat + width ≤ higher.index.toNat) ∨
    ∃ crowded ∈ history, slot.generation ≤ crowded.generation ∧
      maxGenerations ≤ (newerGenerations history crowded.generation).card

/-- Too many generations follow a given one exactly when one of them has enough others above it:
the oldest of them. -/
theorem lt_card_generationsFrom_iff (maxGenerations : Nat) :
    maxGenerations < (generationsFrom history generation).card ↔
      ∃ crowded ∈ history, generation ≤ crowded.generation ∧
        maxGenerations ≤ (newerGenerations history crowded.generation).card := by
  constructor
  · intro many
    have someFollow : (generationsFrom history generation).Nonempty :=
      Finset.card_pos.1 (Nat.zero_lt_of_lt many)
    obtain ⟨oldest, oldestFollows, notOlder⟩ :=
      (generationsFrom history generation).exists_min_image UInt32.toNat someFollow
    -- All that follow but the oldest itself are newer than the oldest.
    have others : (generationsFrom history generation).erase oldest ⊆
        newerGenerations history oldest := by
      intro other member
      obtain ⟨different, follows⟩ := Finset.mem_erase.1 member
      refine Finset.mem_filter.2 ⟨(Finset.mem_filter.1 follows).1, UInt32.lt_iff_toNat_lt.2 ?_⟩
      exact Nat.lt_of_le_of_ne (notOlder other follows)
        (fun same => different (UInt32.toNat_inj.1 same.symm))
    have counted := Finset.card_le_card others
    rw [Finset.card_erase_of_mem oldestFollows] at counted
    obtain ⟨newer, index, given⟩ := mem_generationsFrom.1 oldestFollows
    exact ⟨⟨oldest, index⟩, given, newer, Nat.le_trans (Nat.le_sub_one_of_lt many) counted⟩
  · rintro ⟨crowded, given, newer, many⟩
    have notAboveItself : crowded.generation ∉ newerGenerations history crowded.generation :=
      fun member => UInt32.lt_irrefl _ (Finset.mem_filter.1 member).2
    -- The crowded generation follows, and so do those above it.
    have follow : insert crowded.generation (newerGenerations history crowded.generation) ⊆
        generationsFrom history generation := by
      intro other member
      rcases Finset.mem_insert.1 member with rfl | member
      · exact mem_generationsFrom.2 ⟨newer, crowded.index, given⟩
      · obtain ⟨isGiven, above⟩ := Finset.mem_filter.1 member
        exact Finset.mem_filter.2 ⟨isGiven, UInt32.le_trans newer (UInt32.le_of_lt above)⟩
    have counted := Finset.card_le_card follow
    rw [Finset.card_insert_of_notMem notAboveItself] at counted
    omega

theorem toNat_window_new (window : UInt32) (maxGenerations : Nat) :
    (new window maxGenerations).window.toNat = max 1 window.toNat := by
  simp only [new]
  split
  · rename_i isZero
    rw [isZero]
    rfl
  · rename_i notZero
    have positive : window.toNat ≠ 0 := fun isZero => notZero (UInt32.toNat_inj.1 isZero)
    omega

/-- Below a higher position by a width that is not zero, counted in numbers without a bound. -/
theorem farBelow_iff {index later width : UInt32} (someWidth : 1 ≤ width.toNat) :
    index < later ∧ width ≤ later - index ↔ index.toNat + width.toNat ≤ later.toNat := by
  rw [UInt32.lt_iff_toNat_lt, UInt32.le_iff_toNat_le]
  constructor
  · rintro ⟨below, away⟩
    rw [UInt32.toNat_sub_of_le _ _ (UInt32.le_iff_toNat_le.2 (Nat.le_of_lt below))] at away
    omega
  · intro reaches
    rw [UInt32.toNat_sub_of_le _ _ (UInt32.le_iff_toNat_le.2 (by omega))]
    omega

theorem Recalls.isReplay_iff_spent (recalls : replay.Recalls history) {window : UInt32}
    {maxGenerations : Nat} (sameWindow : replay.window = (new window maxGenerations).window)
    (sameBound : replay.maxGenerations = max 1 maxGenerations) (slot : Slot) :
    replay.isReplay slot.generation slot.index = true ↔
      Spent (max 1 window.toNat) (max 1 maxGenerations) history slot := by
  have width := toNat_window_new window maxGenerations
  have someWidth : 1 ≤ (new window maxGenerations).window.toNat := by omega
  rw [recalls.isReplay_iff, sameWindow, sameBound, lt_card_generationsFrom_iff, Spent]
  simp only [farBelow_iff someWidth, width]
  rw [or_comm, or_assoc]
  refine or_congr_right (or_congr_left ?_)
  constructor
  · rintro ⟨later, given, reaches⟩
    exact ⟨_, given, rfl, reaches⟩
  · rintro ⟨⟨_, later⟩, given, rfl, reaches⟩
    exact ⟨later, given, reaches⟩

/-! ### After every history -/

/-- After every list of calls the memory refuses exactly the positions that are spent by what was
recorded; a refused call leaves the memory as it was, and a position that a call records is refused
ever after. -/
theorem refuses_exactly_spent (window : UInt32) (maxGenerations : Nat) (calls : List Slot)
    (slot : Slot) :
    let replay := (new window maxGenerations).acceptAll calls
    let isRecorded := (replay.accept slot.generation slot.index).1
    let next := (replay.accept slot.generation slot.index).2
    let spent := Spent (max 1 window.toNat) (max 1 maxGenerations)
      ((new window maxGenerations).recorded calls) slot
    (replay.isReplay slot.generation slot.index = true ↔ spent) ∧
      (isRecorded = false ↔ spent) ∧
      (isRecorded = false → next = replay) ∧
      (isRecorded = true →
        ∀ later, (next.acceptAll later).isReplay slot.generation slot.index = true) := by
  intro replay isRecorded next spent
  obtain ⟨recalls, sameWindow, sameBound⟩ :=
    (recalls_new window maxGenerations).acceptAll calls
  have refusedIff : replay.isReplay slot.generation slot.index = true ↔ spent :=
    recalls.isReplay_iff_spent sameWindow sameBound slot
  refine ⟨refusedIff, accept_eq_false_iff.trans refusedIff, fun notRecorded => ?_,
    fun _ later => ?_⟩
  · exact congrArg Prod.snd (accept_of_refused (accept_eq_false_iff.1 notRecorded))
  · have recallsLater := ((recalls.accept slot).acceptAll later).1
    exact (recallsLater.isReplay_iff _ _).2 (.inr (.inl (by simp)))

/-- A late message of an old generation is recorded, and evicts that generation at once. -/
example :
    ((new 8 2).acceptAll [⟨1, 0⟩, ⟨2, 0⟩]).isReplay 0 5 = false ∧
      ((new 8 2).acceptAll [⟨1, 0⟩, ⟨2, 0⟩, ⟨0, 5⟩]).isReplay 0 6 = true := by decide

end RatchetMessaging.ReplayWindow
