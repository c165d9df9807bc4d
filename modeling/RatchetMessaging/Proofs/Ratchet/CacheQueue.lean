import Mathlib.Data.List.DropRight
import RatchetMessaging.Proofs.Ratchet.Restoration

/-!
Contract: the cache of passed-over keys is a queue of bounded length.

Owns:
- the entries of the cache after each of its operations, the oldest first: what is cached joins the
  end, and of more than the capacity the newest stay;
- that a cache is determined by its entries and its capacity;
- `KeepsNewest`, for a queue that has taken in new entries, of which the newest are still there.

Does not own: which positions are cached.
-/

namespace RatchetMessaging

namespace SkippedKeys

variable {κ : Type} {cache other : SkippedKeys κ} {slot : Slot} {key : κ}

/-! ### The end of a list -/

section Lists

variable {α : Type}

private theorem rtake_append (count : Nat) (earlier later : List α) :
    (earlier ++ later).rtake count = earlier.rtake (count - later.length) ++ later.rtake count := by
  simp only [List.rtake_eq_reverse_take_reverse, List.reverse_append, List.take_append,
    List.length_reverse]

/-- Of the newest elements and what comes after, the newest are those of the whole list. -/
private theorem rtake_rtake_append (count : Nat) (earlier later : List α) :
    (earlier.rtake count ++ later).rtake count = (earlier ++ later).rtake count := by
  simp only [List.rtake_eq_reverse_take_reverse, List.reverse_append, List.reverse_reverse,
    List.take_append, List.take_take]
  congr 3
  omega

private theorem mem_of_mem_rtake {count : Nat} {elements : List α} {element : α}
    (member : element ∈ elements.rtake count) : element ∈ elements :=
  List.mem_of_mem_drop member

end Lists

/-! ### Entries -/

theorem toList_congr {capacity other : Nat} {keys changed : OrderedMap Slot κ} {order : List Slot}
    (same : ∀ slot ∈ order, changed.find? slot = keys.find? slot) :
    (mk other changed order).toList = (mk capacity keys order).toList := by
  apply List.filterMap_congr
  intro slot member
  change (changed.find? slot).map _ = (keys.find? slot).map _
  rw [same slot member]

theorem toList_cons {capacity : Nat} {keys : OrderedMap Slot κ} {order : List Slot}
    (found : keys.find? slot = some key) :
    (mk capacity keys (slot :: order)).toList = (slot, key) :: (mk capacity keys order).toList :=
  List.filterMap_cons_some (by rw [get?, found]; rfl)

theorem toList_concat {capacity : Nat} {keys : OrderedMap Slot κ} {order : List Slot}
    (found : keys.find? slot = some key) :
    (mk capacity keys (order ++ [slot])).toList =
      (mk capacity keys order).toList ++ [(slot, key)] := by
  unfold toList
  rw [List.filterMap_append, List.filterMap_cons_some (by rw [get?, found]; rfl)]
  rfl

namespace Coherent

theorem length_toList (coherent : cache.Coherent) : cache.toList.length = cache.size := by
  rw [← coherent.length_order, ← coherent.toList_slots, List.length_map]

theorem nodup_toList (coherent : cache.Coherent) : (cache.toList.map Prod.fst).Nodup := by
  rw [coherent.toList_slots]
  exact coherent.distinct

/-- An entry is listed when its key is cached. -/
theorem mem_toList (coherent : cache.Coherent) :
    (slot, key) ∈ cache.toList ↔ cache.get? slot = some key := by
  rw [mem_toList_iff, coherent.listed, contains_iff]
  exact ⟨And.right, fun found => ⟨⟨key, found⟩, found⟩⟩

theorem mem_slots (coherent : cache.Coherent) :
    slot ∈ cache.toList.map Prod.fst ↔ cache.contains slot = true := by
  rw [coherent.toList_slots, coherent.listed]

/-- Caches of one capacity with the same entries in the same order are the same. -/
theorem ext (coherent : cache.Coherent) (coherentOther : other.Coherent)
    (capacity : cache.capacity = other.capacity) (entries : cache.toList = other.toList) :
    cache = other := by
  have order : cache.order = other.order := by
    rw [← coherent.toList_slots, ← coherentOther.toList_slots, entries]
  have keys : cache.keys = other.keys := by
    apply OrderedMap.ext_find?
    intro slot key
    change cache.get? slot = some key ↔ other.get? slot = some key
    rw [← coherent.mem_toList, ← coherentOther.mem_toList, entries]
  cases cache
  cases other
  simp_all

end Coherent

/-! ### The newest entries -/

section KeepsNewest

variable {α : Type} {capacity : Nat} {earlier added more entries : List α}

/-- Of the added entries the newest are there, as many as the capacity allows. What stands before
them was there earlier. -/
def KeepsNewest (capacity : Nat) (earlier added entries : List α) : Prop :=
  ∃ old, entries = old ++ added.rtake capacity ∧ old ⊆ earlier

theorem keepsNewest_nil (subset : entries ⊆ earlier) : KeepsNewest capacity earlier [] entries :=
  ⟨entries, by rw [List.rtake_nil, List.append_nil], subset⟩

/-- Further entries join the end, and the queue is cut to its capacity. -/
theorem KeepsNewest.append (keeps : KeepsNewest capacity earlier added entries) (more : List α) :
    KeepsNewest capacity earlier (added ++ more) ((entries ++ more).rtake capacity) := by
  obtain ⟨old, rfl, subset⟩ := keeps
  refine ⟨old.rtake (capacity - (added.rtake capacity ++ more).length), ?_,
    fun entry member => subset (mem_of_mem_rtake member)⟩
  rw [List.append_assoc, rtake_append, rtake_rtake_append]

/-- Entries are left out, but none of the added ones. -/
theorem KeepsNewest.filter (keeps : KeepsNewest capacity earlier added entries) {keep : α → Bool}
    (kept : ∀ entry ∈ added, keep entry = true) :
    KeepsNewest capacity earlier added (entries.filter keep) := by
  obtain ⟨old, rfl, subset⟩ := keeps
  refine ⟨old.filter keep, ?_, fun entry member => subset (List.mem_of_mem_filter member)⟩
  rw [List.filter_append, List.filter_eq_self.2 (fun entry member =>
    kept entry (mem_of_mem_rtake member))]

/-- An added entry is still there exactly when it is one of the newest. -/
theorem KeepsNewest.mem_iff (keeps : KeepsNewest capacity earlier added entries) {entry : α}
    (fresh : entry ∉ earlier) : entry ∈ entries ↔ entry ∈ added.rtake capacity := by
  obtain ⟨old, rfl, subset⟩ := keeps
  rw [List.mem_append]
  exact ⟨fun member => member.resolve_left (fun isOld => fresh (subset isOld)), .inr⟩

/-- All added entries are still there exactly when they fit. -/
theorem KeepsNewest.forall_mem_iff (keeps : KeepsNewest capacity earlier added entries)
    (distinct : added.Nodup) (fresh : ∀ entry ∈ added, entry ∉ earlier) :
    (∀ entry ∈ added, entry ∈ entries) ↔ added.length ≤ capacity := by
  constructor
  · intro all
    by_contra beyond
    -- The first added entry is not among the newest.
    have parts := List.take_append_drop (added.length - capacity) added
    have first : added.take (added.length - capacity) ≠ [] := by
      simp only [ne_eq, List.take_eq_nil_iff, not_or]
      exact ⟨by omega, fun none => by simp [none] at beyond⟩
    obtain ⟨entry, member⟩ := List.exists_mem_of_ne_nil _ first
    have isAdded := List.mem_of_mem_take member
    have newest := (keeps.mem_iff (fresh entry isAdded)).1 (all entry isAdded)
    rw [← parts] at distinct
    exact (List.nodup_append.1 distinct).2.2 entry member entry newest rfl
  · intro fits entry member
    rw [keeps.mem_iff (fresh entry member), List.rtake, Nat.sub_eq_zero_of_le fits]
    exact member

end KeepsNewest

/-! ### Removal -/

/-- Where an operation keeps the positions of one kind with their keys, it keeps their entries. -/
theorem toList_of_filter (keep : Slot → Bool) (order : other.order = cache.order.filter keep)
    (kept : ∀ slot, keep slot = true → other.get? slot = cache.get? slot) :
    other.toList = cache.toList.filter (fun entry => keep entry.1) := by
  unfold toList
  rw [order, List.filterMap_filter, List.filter_filterMap]
  apply List.filterMap_congr
  intro slot _
  cases isKept : keep slot with
  | true =>
    rw [if_pos rfl, kept slot isKept]
    cases cache.get? slot with
    | none => rfl
    | some key => simp [Option.filter, isKept]
  | false =>
    cases cache.get? slot with
    | none => rfl
    | some key => simp [Option.filter, isKept]

theorem toList_removeGeneration (cache : SkippedKeys κ) (generation : UInt32) :
    (cache.removeGeneration generation).2.toList =
      cache.toList.filter (fun entry => entry.1.generation != generation) := by
  refine toList_of_filter (fun slot => slot.generation != generation) rfl (fun slot kept => ?_)
  rw [get?_removeGeneration, if_neg (by simpa using kept)]

theorem Coherent.toList_erase (coherent : cache.Coherent) (slot : Slot) :
    (cache.erase slot).toList = cache.toList.filter (fun entry => entry.1 != slot) := by
  refine toList_of_filter (fun found => found != slot) ?_ (fun found kept => ?_)
  · unfold SkippedKeys.erase
    split
    · rfl
    · rename_i absent
      rw [← coherent.listed] at absent
      refine (List.filter_eq_self.2 fun found member => ?_).symm
      have different : found ≠ slot := fun same => absent (same ▸ member)
      simpa using different
  · have different : found ≠ slot := by simpa using kept
    rw [get?_erase, if_neg different.symm]

/-! ### Insertion -/

/-- Eviction keeps the newest entries. -/
theorem toList_evict {capacity : Nat} {order : List Slot} {keys : OrderedMap Slot κ}
    (distinct : order.Nodup) (listed : ∀ slot, slot ∈ order ↔ keys.contains slot = true) :
    (mk capacity (evict capacity order keys).2 (evict capacity order keys).1).toList =
      (mk capacity keys order).toList.rtake capacity := by
  induction order generalizing keys with
  | nil => simp [evict, toList]
  | cons oldest order inductionHypothesis =>
    have coherent : (mk keys.size keys (oldest :: order)).Coherent :=
      ⟨distinct, listed, Nat.le_refl _⟩
    have size : keys.size = (mk capacity keys (oldest :: order)).toList.length :=
      coherent.length_toList.symm
    obtain ⟨key, found⟩ := OrderedMap.contains_iff.1 ((listed oldest).1 List.mem_cons_self)
    obtain ⟨notAgain, restDistinct⟩ := List.nodup_cons.1 distinct
    rw [toList_cons found, List.length_cons] at size
    rw [toList_cons found]
    unfold evict
    by_cases full : capacity < keys.size
    · have others : (mk capacity (keys.erase oldest) order).toList =
          (mk capacity keys order).toList := by
        apply toList_congr
        intro slot member
        exact OrderedMap.find?_erase_other _ (fun same => notAgain (same ▸ member))
      rw [if_pos full, inductionHypothesis restDistinct (listed_erase distinct listed), others]
      simp only [List.rtake, List.length_cons]
      rw [show (mk capacity keys order).toList.length + 1 - capacity =
        (mk capacity keys order).toList.length - capacity + 1 by omega, List.drop_succ_cons]
    · rw [if_neg full, toList_cons found, List.rtake, List.length_cons, ← size,
        Nat.sub_eq_zero_of_le (Nat.not_lt.1 full), List.drop_zero]

/-- A key at a new position joins the end of the queue, and the oldest entry goes when the cache is
full. -/
theorem Coherent.toList_insert (coherent : cache.Coherent) (absent : cache.contains slot = false)
    (key : κ) :
    (cache.insert slot key).toList = (cache.toList ++ [(slot, key)]).rtake cache.capacity := by
  have notQueued : slot ∉ cache.order := by
    rw [coherent.listed, absent]
    exact Bool.false_ne_true
  by_cases noCapacity : cache.capacity = 0
  · have empty : cache.toList = [] := by
      apply List.eq_nil_of_length_eq_zero
      rw [coherent.length_toList]
      exact Nat.eq_zero_of_le_zero (noCapacity ▸ coherent.fits)
    rw [SkippedKeys.insert, if_pos noCapacity, noCapacity, List.rtake_zero, empty]
  · obtain ⟨distinct, listed⟩ := coherent.queued slot key
    rw [if_neg (by simp [absent])] at distinct
    simp only [absent, Bool.false_eq_true, if_false] at listed
    have others : (SkippedKeys.mk cache.capacity (cache.keys.insert slot key) cache.order).toList =
        cache.toList := by
      apply toList_congr
      intro probe member
      have different : slot ≠ probe := fun same => notQueued (same ▸ member)
      exact OrderedMap.find?_insert_other _ different key
    rw [SkippedKeys.insert, if_neg noCapacity, if_neg (by simp [absent])]
    simp only
    rw [toList_evict distinct listed, toList_concat (OrderedMap.find?_insert_self _ _ _), others]

/-- The entries of keys that one chain passes. -/
def entriesOf (generation : UInt32) (messageKeys : List MessageKey) :
    List (Slot × FixedBytes 32) :=
  messageKeys.map (fun messageKey => (⟨generation, messageKey.index⟩, messageKey.key))

theorem entriesOf_append (generation : UInt32) (earlier later : List MessageKey) :
    entriesOf generation (earlier ++ later) =
      entriesOf generation earlier ++ entriesOf generation later :=
  List.map_append

/-- Keys at new positions join the end of the queue in their order, and the newest stay. -/
theorem Coherent.toList_insertAll {cache : SkippedKeys (FixedBytes 32)}
    (coherent : cache.Coherent) {generation : UInt32} {messageKeys : List MessageKey}
    (distinct : ((entriesOf generation messageKeys).map Prod.fst).Nodup)
    (fresh : ∀ slot ∈ (entriesOf generation messageKeys).map Prod.fst,
      cache.contains slot = false) :
    (cache.insertAll generation messageKeys).toList =
      (cache.toList ++ entriesOf generation messageKeys).rtake cache.capacity := by
  induction messageKeys generalizing cache with
  | nil =>
    simp only [insertAll_nil, entriesOf, List.map_nil, List.append_nil, List.rtake]
    rw [Nat.sub_eq_zero_of_le (coherent.length_toList ▸ coherent.fits), List.drop_zero]
  | cons first rest inductionHypothesis =>
    obtain ⟨notAgain, restDistinct⟩ := List.nodup_cons.1 distinct
    have absent := fresh ⟨generation, first.index⟩ List.mem_cons_self
    rw [insertAll_cons, inductionHypothesis (coherent.insert _ _) restDistinct ?restFresh,
      capacity_insert, coherent.toList_insert absent, rtake_rtake_append, List.append_assoc]
    case restFresh =>
      intro slot member
      rw [contains_eq_false_iff, Option.eq_none_iff_forall_not_mem]
      intro key found
      rcases get?_of_get?_insert found with ⟨same, _⟩ | earlier
      · subst same
        exact notAgain member
      · have absentBefore := fresh slot (List.mem_cons_of_mem _ member)
        rw [contains_eq_false_iff] at absentBefore
        rw [absentBefore] at earlier
        cases earlier
    rfl

end SkippedKeys

end RatchetMessaging
