import RatchetMessaging.Ratchet.ReplayWindow
import RatchetMessaging.Ratchet.SkippedKeys
import RatchetMessaging.Proofs.OrderedMap

/-!
Contract: what the memory of accepted positions remembers.

Owns:
- `Seen`, for the remembered positions, and `Covers`, for those that the memory can still tell
  apart from replays;
- `Remembers`, the invariant that every remembered position satisfies a condition and that no
  generation in use is below the floor; recording a position keeps it;
- a position that is covered and not seen is not refused.

Does not own: which positions are accepted.
-/

namespace RatchetMessaging

namespace GenerationWindow

variable {entry : GenerationWindow} {window index : UInt32}

theorem isBelow_eq_true_iff :
    entry.isBelow window index = true ↔
      index < entry.highest ∧ window ≤ entry.highest - index := by
  simp [isBelow]

/-- Recording adds at most the position. -/
theorem seen_of_record {probe : UInt32}
    (held : (entry.record window index).seen.contains probe = true) :
    probe = index ∨ entry.seen.contains probe = true := by
  obtain ⟨_, found⟩ := OrderedMap.contains_iff.1 held
  rw [record, OrderedMap.find?_filter, Option.filter_eq_some_iff, OrderedMap.find?_insert] at found
  obtain ⟨found, _⟩ := found
  split at found
  · rename_i same
    exact .inl (OrderedMap.sameKey_iff.1 same).symm
  · exact .inr (OrderedMap.contains_iff.2 ⟨_, found⟩)

/-- The highest position of a window in which something was recorded was recorded itself. -/
theorem highest_seen_record
    (highestSeen : entry.seen.size ≠ 0 → entry.seen.contains entry.highest = true) :
    (entry.record window index).seen.contains (entry.record window index).highest = true := by
  have notBelow : ∀ probe : GenerationWindow, probe.isBelow window probe.highest = false := by
    intro probe
    rw [← Bool.not_eq_true, isBelow_eq_true_iff]
    exact fun below => UInt32.lt_irrefl _ below.1
  have kept : ∀ highest, highest = index ∨ entry.seen.contains highest = true →
      (entry.seen.insert index ()).find? highest = some () := by
    intro highest origin
    rw [OrderedMap.find?_insert]
    split
    · rfl
    · rename_i different
      rcases origin with rfl | held
      · exact absurd (OrderedMap.sameKey_iff.2 rfl) different
      · obtain ⟨_, found⟩ := OrderedMap.contains_iff.1 held
        exact found
  rw [OrderedMap.contains_iff]
  refine ⟨(), ?_⟩
  rw [record, OrderedMap.find?_filter, Option.filter_eq_some_iff]
  refine ⟨kept _ ?_, by simpa using notBelow _⟩
  split
  · exact .inl rfl
  · rename_i notNewest
    exact .inr (highestSeen (fun empty => notNewest (.inl empty)))

end GenerationWindow

namespace ReplayWindow

variable {replay : ReplayWindow} {slot : Slot} {generation index newest : UInt32}

/-- The position was recorded and is still remembered. -/
def Seen (replay : ReplayWindow) (slot : Slot) : Prop :=
  ∃ entry, replay.generations.find? slot.generation = some entry ∧
    entry.seen.contains slot.index = true

/-- The position fell off neither edge of the memory. -/
def Covers (replay : ReplayWindow) (slot : Slot) : Prop :=
  replay.generationFloor ≤ slot.generation ∧
    ∀ entry, replay.generations.find? slot.generation = some entry →
      entry.isBelow replay.window slot.index = false

/-- Whether the position fell off neither edge of the memory. -/
def covers (replay : ReplayWindow) (slot : Slot) : Bool :=
  replay.generationFloor ≤ slot.generation &&
    !(replay.generations.find? slot.generation).any (·.isBelow replay.window slot.index)

theorem covers_iff : replay.covers slot = true ↔ replay.Covers slot := by
  unfold covers Covers
  cases replay.generations.find? slot.generation <;> simp

@[simp] theorem window_accept (replay : ReplayWindow) (generation index : UInt32) :
    (replay.accept generation index).2.window = replay.window := by
  unfold accept
  split <;> rfl

@[simp] theorem maxGenerations_accept (replay : ReplayWindow) (generation index : UInt32) :
    (replay.accept generation index).2.maxGenerations = replay.maxGenerations := by
  unfold accept
  split <;> rfl

/-- A covered position that was not recorded is not refused. -/
theorem isReplay_eq_false (covers : replay.Covers slot) (notSeen : ¬ replay.Seen slot) :
    replay.isReplay slot.generation slot.index = false := by
  unfold isReplay
  rw [if_neg (UInt32.not_lt.2 covers.1)]
  cases found : replay.generations.find? slot.generation with
  | none => rfl
  | some entry =>
    have unseen : entry.seen.contains slot.index = false := by
      rw [← Bool.not_eq_true]
      exact fun held => notSeen ⟨entry, found, held⟩
    simp [covers.2 entry found, unseen]

/-- Remembered positions satisfy `holds`, and the floor is at most the newest generation. -/
structure Remembers (replay : ReplayWindow) (holds : Slot → Prop) (newest : UInt32) : Prop where
  someGeneration : 1 ≤ replay.maxGenerations
  floor : replay.generationFloor ≤ newest
  highestSeen : ∀ generation entry, replay.generations.find? generation = some entry →
    entry.seen.contains entry.highest = true
  seen : ∀ slot, replay.Seen slot → holds slot

theorem remembers_new (window : UInt32) (maxGenerations : Nat) (holds : Slot → Prop)
    (newest : UInt32) : (new window maxGenerations).Remembers holds newest where
  someGeneration := Nat.le_max_left _ _
  floor := UInt32.zero_le
  highestSeen := fun _ _ found => by cases found
  seen := by
    rintro slot ⟨_, found, _⟩
    cases found

/-- A position beyond everything recorded of its generation is covered and not seen. -/
theorem Remembers.covers_ahead {holds : Slot → Prop} (remembers : replay.Remembers holds newest)
    (current : newest ≤ slot.generation)
    (ahead : ∀ index, holds ⟨slot.generation, index⟩ → index < slot.index) :
    replay.Covers slot ∧ ¬ replay.Seen slot := by
  refine ⟨⟨UInt32.le_trans remembers.floor current, fun entry found => ?_⟩, fun seen => ?_⟩
  · have highest := ahead entry.highest
      (remembers.seen _ ⟨entry, found, remembers.highestSeen _ entry found⟩)
    rw [← Bool.not_eq_true, GenerationWindow.isBelow_eq_true_iff]
    exact fun below => UInt32.lt_irrefl _ (UInt32.lt_trans below.1 highest)
  · exact UInt32.lt_irrefl _ (ahead slot.index (remembers.seen slot seen))

/-! ### Recording -/

private theorem foldl_floor_le {evicted : List UInt32} {floor bound : UInt32}
    (low : floor ≤ bound) (older : ∀ generation ∈ evicted, generation < bound) :
    evicted.foldl (fun floor generation => max floor (after generation)) floor ≤ bound := by
  induction evicted generalizing floor with
  | nil => exact low
  | cons first rest inductionHypothesis =>
    refine inductionHypothesis ?_
      (fun generation member => older generation (List.mem_cons_of_mem _ member))
    have below := older first List.mem_cons_self
    have next : after first ≤ bound := by
      unfold after
      split
      · exact UInt32.le_of_lt below
      · rw [UInt32.le_iff_toNat_le, UInt32.toNat_add]
        rw [UInt32.lt_iff_toNat_lt] at below
        exact Nat.le_trans (Nat.mod_le _ _) below
    change (if floor ≤ after first then after first else floor) ≤ bound
    split
    · exact next
    · exact low

/-- Forgetting the oldest generations keeps the invariant, since the newest one stays. -/
private theorem Remembers.trim {holds : Slot → Prop} (remembers : replay.Remembers holds newest)
    (bounded : ∀ slot, holds slot → slot.generation ≤ newest) :
    replay.trim.Remembers holds newest where
  someGeneration := remembers.someGeneration
  highestSeen := fun generation entry found =>
    remembers.highestSeen generation entry (OrderedMap.find?_of_find?_drop found)
  seen := by
    rintro slot ⟨entry, found, held⟩
    exact remembers.seen slot ⟨entry, OrderedMap.find?_of_find?_drop found, held⟩
  floor := by
    refine foldl_floor_le remembers.floor (fun generation evicted => ?_)
    have tracked : ∀ generation ∈ replay.generations.keys, generation ≤ newest := by
      intro generation member
      obtain ⟨entry, found⟩ := OrderedMap.mem_keys_iff.1 member
      exact bounded ⟨generation, entry.highest⟩
        (remembers.seen _ ⟨entry, found, remembers.highestSeen _ entry found⟩)
    have increasing : replay.generations.keys.Pairwise (· < ·) :=
      List.pairwise_map.2 replay.generations.increasing
    have size : replay.generations.keys.length = replay.generations.size := List.length_map _
    have someGeneration := remembers.someGeneration
    generalize surplusIs : replay.generations.size - replay.maxGenerations = surplus at evicted
    -- An evicted generation stands before one that stays.
    obtain ⟨newer, stays⟩ : ∃ newer, newer ∈ replay.generations.keys.drop surplus := by
      refine List.exists_mem_of_length_pos ?_
      rw [List.length_drop]
      have some := List.length_pos_of_mem (List.mem_of_mem_take evicted)
      omega
    rw [← List.take_append_drop surplus replay.generations.keys, List.pairwise_append] at increasing
    exact UInt32.lt_of_lt_of_le (increasing.2.2 generation evicted newer stays)
      (tracked newer (List.mem_of_mem_drop stays))

/-- Recording a position keeps the invariant for a condition that the position satisfies. -/
theorem Remembers.widen {holds result : Slot → Prop} {next : UInt32}
    (remembers : replay.Remembers holds newest) (weaker : ∀ slot, holds slot → result slot)
    (newer : newest ≤ next) : replay.Remembers result next where
  someGeneration := remembers.someGeneration
  floor := UInt32.le_trans remembers.floor newer
  highestSeen := remembers.highestSeen
  seen slot seen := weaker slot (remembers.seen slot seen)

theorem Remembers.accept {holds result : Slot → Prop} {next : UInt32}
    (remembers : replay.Remembers holds newest) (weaker : ∀ slot, holds slot → result slot)
    (newer : newest ≤ next) (accepted : result ⟨generation, index⟩)
    (bounded : ∀ slot, result slot → slot.generation ≤ next) :
    (replay.accept generation index).2.Remembers result next := by
  have widened := remembers.widen weaker newer
  unfold ReplayWindow.accept
  split
  · exact widened
  · refine Remembers.trim ⟨widened.someGeneration, widened.floor, ?_, ?_⟩ bounded
    · intro probe entry found
      rw [OrderedMap.find?_insert] at found
      split at found
      · cases found
        refine GenerationWindow.highest_seen_record (fun notEmpty => ?_)
        cases known : replay.generations.find? generation with
        | none => simp [known, OrderedMap.size, OrderedMap.empty] at notEmpty
        | some earlier => exact widened.highestSeen _ earlier known
      · exact widened.highestSeen probe entry found
    · rintro slot ⟨entry, found, held⟩
      rw [OrderedMap.find?_insert] at found
      split at found
      · rename_i same
        rw [OrderedMap.sameKey_iff] at same
        cases found
        rcases GenerationWindow.seen_of_record held with isIndex | earlier
        · rw [← isIndex, same] at accepted
          exact accepted
        · cases known : replay.generations.find? generation with
          | none => simp [known, OrderedMap.contains_empty] at earlier
          | some entry =>
            rw [known] at earlier
            exact widened.seen slot ⟨entry, same ▸ known, earlier⟩
      · exact widened.seen slot ⟨entry, found, held⟩

end ReplayWindow

end RatchetMessaging
