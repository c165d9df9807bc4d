import Mathlib.Data.Finset.Card
import Mathlib.Data.Finset.Range
import RatchetMessaging.Proofs.Ratchet.ReplayWindow

/-!
Contract: how much the memory of accepted positions holds.

Owns: the bounds on the tracked generations and on the positions remembered of each, which
recording a position keeps.

Does not own: which positions are remembered.
-/

namespace RatchetMessaging

namespace GenerationWindow

variable {entry : GenerationWindow} {window index : UInt32}

/-- Remembered positions lie less than `window` below the highest one, and none above it. -/
def Within (entry : GenerationWindow) (window : UInt32) : Prop :=
  ∀ index, entry.seen.contains index = true →
    index ≤ entry.highest ∧ entry.highest - index < window

theorem Within.record (within : entry.Within window) (someWindow : window ≠ 0)
    (index : UInt32) : (entry.record window index).Within window := by
  intro probe held
  have origin := seen_of_record held
  obtain ⟨_, found⟩ := OrderedMap.contains_iff.1 held
  simp only [GenerationWindow.record, OrderedMap.find?_filter, Option.filter_eq_some_iff] at found
  have kept := found.2
  simp only [GenerationWindow.record]
  simp only [isBelow, Bool.not_eq_true', Bool.and_eq_false_iff, decide_eq_false_iff_not,
    UInt32.not_le, UInt32.not_lt] at kept
  generalize isHighest :
    (if entry.seen.size = 0 ∨ entry.highest < index then index else entry.highest) = highest at *
  have notAbove : probe ≤ highest := by
    rcases origin with rfl | earlier
    · rw [← isHighest]
      split
      · exact UInt32.le_refl _
      · rename_i notNewest
        exact UInt32.not_lt.1 (fun newest => notNewest (.inr newest))
    · have below := (within probe earlier).1
      rw [← isHighest]
      split
      · rename_i newest
        rcases newest with noneSeen | newest
        · obtain ⟨_, found⟩ := OrderedMap.contains_iff.1 earlier
          have some := List.length_pos_of_mem (OrderedMap.find?_eq_some_iff.1 found)
          exact absurd noneSeen (Nat.ne_of_gt some)
        · exact UInt32.le_trans below (UInt32.le_of_lt newest)
      · exact below
  refine ⟨notAbove, ?_⟩
  rcases kept with reached | inside
  · rw [UInt32.le_antisymm reached notAbove, UInt32.sub_self]
    exact UInt32.pos_iff_ne_zero.2 someWindow
  · exact inside

/-- A window remembers no more positions than its width. -/
theorem Within.size_le (within : entry.Within window) : entry.seen.size ≤ window.toNat := by
  let distances := entry.seen.keys.map (fun index => (entry.highest - index).toNat)
  have held : ∀ index ∈ entry.seen.keys, entry.seen.contains index = true := by
    intro index member
    exact OrderedMap.contains_iff.2 (OrderedMap.mem_keys_iff.1 member)
  have distinct : distances.Nodup := by
    have increasing : entry.seen.keys.Pairwise (· < ·) :=
      List.pairwise_map.2 entry.seen.increasing
    refine List.pairwise_map.2 (increasing.imp_of_mem ?_)
    intro earlier later isKey isKeyToo below same
    have first := (within earlier (held earlier isKey)).1
    have second := (within later (held later isKeyToo)).1
    rw [UInt32.toNat_sub_of_le _ _ first, UInt32.toNat_sub_of_le _ _ second] at same
    rw [UInt32.le_iff_toNat_le] at first second
    rw [UInt32.lt_iff_toNat_lt] at below
    omega
  have near : distances.toFinset ⊆ Finset.range window.toNat := by
    intro distance member
    rw [List.mem_toFinset] at member
    obtain ⟨index, isKey, rfl⟩ := List.mem_map.1 member
    exact Finset.mem_range.2 (UInt32.lt_iff_toNat_lt.1 (within index (held index isKey)).2)
  calc entry.seen.size = distances.length := by
        simp [distances, OrderedMap.keys, OrderedMap.size]
    _ = distances.toFinset.card := (List.toFinset_card_of_nodup distinct).symm
    _ ≤ window.toNat := by simpa using Finset.card_le_card near

end GenerationWindow

namespace ReplayWindow

variable {replay : ReplayWindow} {window : UInt32} {maxGenerations : Nat}

/-- The memory keeps the bounds that it was started with. -/
structure Bounded (replay : ReplayWindow) (window : UInt32) (maxGenerations : Nat) : Prop where
  width : replay.window = (new window maxGenerations).window
  count : replay.maxGenerations = (new window maxGenerations).maxGenerations
  tracked : replay.generations.size ≤ replay.maxGenerations
  within : ∀ generation entry, replay.generations.find? generation = some entry →
    entry.Within replay.window

theorem bounded_new (window : UInt32) (maxGenerations : Nat) :
    (new window maxGenerations).Bounded window maxGenerations where
  width := rfl
  count := rfl
  tracked := Nat.zero_le _
  within := by
    intro generation entry found
    cases found

theorem Bounded.someWindow (bounded : replay.Bounded window maxGenerations) :
    replay.window ≠ 0 := by
  rw [bounded.width]
  simp only [new]
  split
  · exact (by decide : (1 : UInt32) ≠ 0)
  · assumption

theorem size_trim_le (replay : ReplayWindow) :
    replay.trim.generations.size ≤ replay.trim.maxGenerations := by
  change (replay.generations.entries.drop _).length ≤ replay.maxGenerations
  rw [List.length_drop]
  change replay.generations.size - (replay.generations.size - replay.maxGenerations) ≤ _
  omega

theorem Bounded.accept (bounded : replay.Bounded window maxGenerations)
    (generation index : UInt32) :
    (replay.accept generation index).2.Bounded window maxGenerations := by
  unfold ReplayWindow.accept
  split
  · exact bounded
  · refine ⟨bounded.width, bounded.count, size_trim_le _, ?_⟩
    intro probe entry found
    have inserted := OrderedMap.find?_of_find?_drop found
    rw [OrderedMap.find?_insert] at inserted
    split at inserted
    · cases inserted
      apply GenerationWindow.Within.record _ bounded.someWindow
      cases known : replay.generations.find? generation with
      | none =>
        intro index held
        cases held
      | some earlier => exact bounded.within generation earlier known
    · exact bounded.within probe entry inserted

end ReplayWindow

end RatchetMessaging
