import RatchetMessaging.Proofs.Ratchet.SkippedKeys

/-!
Contract: the queue of the cache of passed-over keys.

Owns:
- `Coherent`: the queue lists the cached positions, each once, and they fit; every operation keeps
  it, with any positions in any order;
- what an operation leaves of the queue, from which its order follows.

Does not own: which positions are cached, and in what order they come.
-/

namespace RatchetMessaging.SkippedKeys

variable {κ : Type} {cache : SkippedKeys κ}

/-- The queue lists exactly the cached positions, each once, and they fit. -/
structure Coherent (cache : SkippedKeys κ) : Prop where
  distinct : cache.order.Nodup
  listed : ∀ slot, slot ∈ cache.order ↔ cache.contains slot = true
  fits : cache.size ≤ cache.capacity

theorem coherent_new (capacity : Nat) : (new capacity : SkippedKeys κ).Coherent where
  distinct := List.nodup_nil
  listed slot := by
    constructor
    · intro member
      cases member
    · intro held
      cases held
  fits := Nat.zero_le _

/-! ### Eviction -/

theorem evict_suffix (capacity : Nat) (order : List Slot) (keys : OrderedMap Slot κ) :
    (evict capacity order keys).1 <:+ order := by
  induction order generalizing keys with
  | nil => exact List.suffix_rfl
  | cons oldest order inductionHypothesis =>
    unfold evict
    split
    · exact (inductionHypothesis _).trans (List.suffix_cons oldest order)
    · exact List.suffix_rfl

/-- Without its front, the queue lists what the table holds without the oldest key. -/
theorem listed_erase {oldest : Slot} {order : List Slot} {keys : OrderedMap Slot κ}
    (distinct : (oldest :: order).Nodup)
    (listed : ∀ slot, slot ∈ oldest :: order ↔ keys.contains slot = true) (slot : Slot) :
    slot ∈ order ↔ (keys.erase oldest).contains slot = true := by
  rw [OrderedMap.contains, OrderedMap.find?_erase]
  by_cases isOldest : oldest = slot
  · subst isOldest
    simp [(List.nodup_cons.1 distinct).1, OrderedMap.sameKey]
  · have member := listed slot
    simp only [List.mem_cons, Ne.symm isOldest, false_or] at member
    rw [OrderedMap.contains] at member
    simpa [OrderedMap.sameKey, isOldest] using member

/-- Eviction ends when the rest fits, at the latest with the end of the queue. -/
theorem coherent_evict {capacity : Nat} {order : List Slot} {keys : OrderedMap Slot κ}
    (distinct : order.Nodup) (listed : ∀ slot, slot ∈ order ↔ keys.contains slot = true) :
    Coherent ⟨capacity, (evict capacity order keys).2, (evict capacity order keys).1⟩ := by
  induction order generalizing keys with
  | nil =>
    have noKeys : keys.entries = [] := by
      apply List.eq_nil_iff_forall_not_mem.2
      intro entry member
      have held : keys.contains entry.1 = true :=
        OrderedMap.contains_iff.2 ⟨entry.2, OrderedMap.find?_eq_some_iff.2 member⟩
      cases (listed entry.1).2 held
    refine ⟨distinct, listed, ?_⟩
    change keys.entries.length ≤ capacity
    rw [noKeys]
    exact Nat.zero_le capacity
  | cons oldest order inductionHypothesis =>
    unfold evict
    by_cases full : capacity < keys.size
    · rw [if_pos full]
      exact inductionHypothesis (List.nodup_cons.1 distinct).2 (listed_erase distinct listed)
    · rw [if_neg full]
      exact ⟨distinct, listed, Nat.not_lt.1 full⟩

/-! ### Operations -/

namespace Coherent

/-- The queue that an insertion starts from lists what the table then holds. -/
theorem queued (coherent : cache.Coherent) (slot : Slot) (key : κ) :
    (if cache.contains slot then cache.order else cache.order ++ [slot]).Nodup ∧
      ∀ probe, probe ∈ (if cache.contains slot then cache.order else cache.order ++ [slot]) ↔
        (cache.keys.insert slot key).contains probe = true := by
  constructor
  · split
    · exact coherent.distinct
    · rename_i absent
      rw [← coherent.listed] at absent
      refine List.nodup_append.2 ⟨coherent.distinct, List.pairwise_singleton _ slot, ?_⟩
      intro earlier member added isSlot same
      rw [same, List.mem_singleton.1 isSlot] at member
      exact absent member
  · intro probe
    have member := coherent.listed probe
    rw [SkippedKeys.contains, OrderedMap.contains] at member
    rw [OrderedMap.contains, OrderedMap.find?_insert]
    by_cases same : slot = probe
    · subst same
      split
      · rename_i held
        simp [coherent.listed, held, OrderedMap.sameKey]
      · simp [OrderedMap.sameKey]
    · have different : OrderedMap.sameKey slot probe = false := by
        simpa [OrderedMap.sameKey] using same
      split <;> simp [different, member, Ne.symm same]

theorem insert (coherent : cache.Coherent) (slot : Slot) (key : κ) :
    (cache.insert slot key).Coherent := by
  unfold SkippedKeys.insert
  by_cases noCapacity : cache.capacity = 0
  · rw [if_pos noCapacity]
    exact coherent
  · rw [if_neg noCapacity]
    obtain ⟨distinct, listed⟩ := coherent.queued slot key
    exact coherent_evict distinct listed

theorem erase (coherent : cache.Coherent) (slot : Slot) : (cache.erase slot).Coherent := by
  unfold SkippedKeys.erase
  by_cases held : cache.contains slot = true
  · rw [if_pos held]
    refine ⟨coherent.distinct.filter _, fun probe => ?_,
      Nat.le_trans (OrderedMap.size_erase_le _ _) coherent.fits⟩
    have member := coherent.listed probe
    rw [SkippedKeys.contains, OrderedMap.contains] at member
    rw [SkippedKeys.contains, OrderedMap.contains, OrderedMap.find?_erase, List.mem_filter, member]
    by_cases same : slot = probe
    · subst same
      simp [OrderedMap.sameKey]
    · simp [OrderedMap.sameKey, same, Ne.symm same]
  · rw [if_neg held]
    exact coherent

theorem removeGeneration (coherent : cache.Coherent) (generation : UInt32) :
    (cache.removeGeneration generation).2.Coherent := by
  refine ⟨coherent.distinct.filter _, fun probe => ?_,
    Nat.le_trans (OrderedMap.size_filter_le _ _) coherent.fits⟩
  have member := coherent.listed probe
  rw [contains_iff] at member ⊢
  rw [get?_removeGeneration]
  change probe ∈ cache.order.filter _ ↔ _
  rw [List.mem_filter, member]
  by_cases same : probe.generation = generation <;> simp [same]

theorem insertAll {cache : SkippedKeys (FixedBytes 32)} (coherent : cache.Coherent)
    (generation : UInt32) (messageKeys : List MessageKey) :
    (cache.insertAll generation messageKeys).Coherent := by
  induction messageKeys generalizing cache with
  | nil => exact coherent
  | cons first rest inductionHypothesis =>
    rw [insertAll_cons]
    exact inductionHypothesis (coherent.insert _ _)

end Coherent

/-! ### The queue after an operation -/

theorem order_insert_sublist (cache : SkippedKeys κ) (slot : Slot) (key : κ) :
    (cache.insert slot key).order.Sublist (cache.order ++ [slot]) := by
  unfold insert
  split
  · exact List.sublist_append_left _ _
  · apply (evict_suffix _ _ _).sublist.trans
    split
    · exact List.sublist_append_left _ _
    · exact List.Sublist.refl _

theorem order_insertAll_sublist (generation : UInt32) (messageKeys : List MessageKey)
    (cache : SkippedKeys (FixedBytes 32)) :
    (cache.insertAll generation messageKeys).order.Sublist
      (cache.order ++ messageKeys.map (fun messageKey => ⟨generation, messageKey.index⟩)) := by
  induction messageKeys generalizing cache with
  | nil => simp
  | cons first rest inductionHypothesis =>
    rw [insertAll_cons]
    apply (inductionHypothesis _).trans
    have inserted := order_insert_sublist cache ⟨generation, first.index⟩ first.key
    simpa using inserted.append (List.Sublist.refl (rest.map _))

theorem order_erase_sublist (cache : SkippedKeys κ) (slot : Slot) :
    (cache.erase slot).order.Sublist cache.order := by
  unfold erase
  split
  · exact List.filter_sublist
  · exact List.Sublist.refl _

theorem order_removeGeneration_sublist (cache : SkippedKeys κ) (generation : UInt32) :
    (cache.removeGeneration generation).2.order.Sublist cache.order :=
  List.filter_sublist

@[simp] theorem capacity_erase (cache : SkippedKeys κ) (slot : Slot) :
    (cache.erase slot).capacity = cache.capacity := by
  unfold erase
  split <;> rfl

end RatchetMessaging.SkippedKeys
