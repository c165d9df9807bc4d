import RatchetMessaging.Proofs.Ratchet.CacheQueue

/-!
Contract: the cache of passed-over keys refines a bounded queue of entries.

Owns:
- the reference: a list of entries with insertion, look-up and removal on the list itself;
- `CacheOperation`, what may be asked of the cache and of the list, and the runs of both;
- that in every run both give the same answers and hold the same entries.

Does not own: which operations a session asks for.
-/

namespace RatchetMessaging

/-! ### The reference -/

/-- The entries that a cache stands for, the oldest first. -/
abbrev KeyQueue := List (Slot × FixedBytes 32)

namespace KeyQueue

/-- The key of the entry at a position. -/
def keyAt? (slot : Slot) (entries : KeyQueue) : Option (FixedBytes 32) :=
  (entries.find? (fun entry => entry.1 == slot)).map Prod.snd

/-- Put an entry in. An entry at its position gets the new key where it stands; a new one joins the
end, and the oldest go until the capacity is met. -/
def put (capacity : Nat) (slot : Slot) (key : FixedBytes 32) (entries : KeyQueue) : KeyQueue :=
  if slot ∈ entries.map Prod.fst then
    entries.map (fun entry => if entry.1 = slot then (slot, key) else entry)
  else (entries ++ [(slot, key)]).rtake capacity

/-- Take the entries out whose positions are picked. -/
def without (picked : Slot → Bool) (entries : KeyQueue) : KeyQueue :=
  entries.filter (fun entry => !picked entry.1)

/-- How many entries there are at the positions that are picked. -/
def count (picked : Slot → Bool) (entries : KeyQueue) : Nat :=
  entries.countP (fun entry => picked entry.1)

end KeyQueue

/-! ### Operations -/

/-- A second cache, with a table of its own that is filled key by key. -/
def SkippedKeys.copy {κ : Type} (cache : SkippedKeys κ) : SkippedKeys κ :=
  { cache with keys := .ofList cache.keys.entries }

/-- What can be asked of a cache. `restore` writes the cache out and reads it back. -/
inductive CacheOperation where
  | insert (slot : Slot) (key : FixedBytes 32)
  | get (slot : Slot)
  | contains (slot : Slot)
  | take (slot : Slot)
  | removeGeneration (generation : UInt32)
  | copy
  | restore
deriving DecidableEq

/-- What comes back. -/
inductive CacheAnswer where
  | done
  | key (found : Option (FixedBytes 32))
  | held (isHeld : Bool)
  | removed (count : Nat)
  | written (records : List Record.SkippedKeyRecord)
deriving DecidableEq

namespace CacheOperation

open SkippedKeys (entryRecord)

/-- The operation on a cache. -/
def perform (cache : SkippedKeys (FixedBytes 32)) :
    CacheOperation → Except Error (CacheAnswer × SkippedKeys (FixedBytes 32))
  | .insert slot key => .ok (.done, cache.insert slot key)
  | .get slot => .ok (.key (cache.get? slot), cache)
  | .contains slot => .ok (.held (cache.contains slot), cache)
  | .take slot =>
    match cache.take slot with
    | some (key, rest) => .ok (.key (some key), rest)
    | none => .ok (.key none, cache)
  | .removeGeneration generation =>
    .ok (.removed (cache.removeGeneration generation).1, (cache.removeGeneration generation).2)
  | .copy => .ok (.done, cache.copy)
  | .restore =>
    match SkippedKeys.ofRecords cache.toRecords cache.capacity with
    | .ok restored => .ok (.written cache.toRecords, restored)
    | .error failure => .error failure

/-- The operation on a list of entries. -/
def onQueue (capacity : Nat) (entries : KeyQueue) : CacheOperation → CacheAnswer × KeyQueue
  | .insert slot key => (.done, entries.put capacity slot key)
  | .get slot => (.key (entries.keyAt? slot), entries)
  | .contains slot => (.held (decide (slot ∈ entries.map Prod.fst)), entries)
  | .take slot => (.key (entries.keyAt? slot), entries.without (fun found => found == slot))
  | .removeGeneration generation =>
    (.removed (entries.count (fun slot => slot.generation == generation)),
      entries.without (fun slot => slot.generation == generation))
  | .copy => (.done, entries)
  | .restore => (.written (entries.map entryRecord), entries)

end CacheOperation

/-! ### Single operations -/

namespace SkippedKeys

variable {cache : SkippedKeys (FixedBytes 32)} {slot : Slot} {key : FixedBytes 32}

@[simp] theorem copy_eq {κ : Type} (cache : SkippedKeys κ) : cache.copy = cache := by
  rw [copy, OrderedMap.ofList_entries]

/-- Where a key is replaced, its entry keeps its place. -/
theorem toList_replace {capacity : Nat} {keys : OrderedMap Slot (FixedBytes 32)} {order : List Slot}
    (held : keys.contains slot = true) (key : FixedBytes 32) :
    (mk capacity (keys.insert slot key) order).toList =
      (mk capacity keys order).toList.map
        (fun entry => if entry.1 = slot then (slot, key) else entry) := by
  unfold toList
  rw [List.map_filterMap]
  apply List.filterMap_congr
  intro probe _
  obtain ⟨former, found⟩ := OrderedMap.contains_iff.1 held
  change ((keys.insert slot key).find? probe).map _ =
    ((keys.find? probe).map _).map _
  by_cases same : probe = slot
  · subst same
    rw [OrderedMap.find?_insert_self, found]
    simp
  · rw [OrderedMap.find?_insert_other _ (Ne.symm same)]
    cases keys.find? probe with
    | none => rfl
    | some other => simp [same]

namespace Coherent

theorem keyAt?_toList (coherent : cache.Coherent) (slot : Slot) :
    KeyQueue.keyAt? slot cache.toList = cache.get? slot := by
  unfold KeyQueue.keyAt?
  cases found : cache.toList.find? (fun entry => entry.1 == slot) with
  | none =>
    have absent : slot ∉ cache.toList.map Prod.fst := by
      intro member
      obtain ⟨entry, isEntry, rfl⟩ := List.mem_map.1 member
      simpa using List.find?_eq_none.1 found entry isEntry
    rw [coherent.mem_slots, Bool.not_eq_true, contains_eq_false_iff] at absent
    rw [absent, Option.map_none]
  | some entry =>
    have isSlot : entry.1 = slot := by simpa using List.find?_some found
    have held := coherent.mem_toList.1 (List.mem_of_find?_eq_some found)
    rw [Option.map_some, ← isSlot, held]

/-- A key that replaces another one leaves the queue as it is. -/
theorem insert_of_held (coherent : cache.Coherent) (held : cache.contains slot = true)
    (key : FixedBytes 32) :
    cache.insert slot key = { cache with keys := cache.keys.insert slot key } := by
  obtain ⟨distinct, listed⟩ := coherent.queued slot key
  rw [if_pos held] at distinct
  simp only [held, if_true] at listed
  have sameSize : (cache.keys.insert slot key).size = cache.size := by
    have replaced : (SkippedKeys.mk (cache.keys.insert slot key).size
        (cache.keys.insert slot key) cache.order).Coherent :=
      ⟨distinct, listed, Nat.le_refl _⟩
    rw [← coherent.length_order]
    exact replaced.length_order.symm
  have someKey : 0 < cache.size := by
    rw [← coherent.length_order]
    exact List.length_pos_of_mem ((coherent.listed slot).2 held)
  have fits := coherent.fits
  rw [SkippedKeys.insert, if_neg (by omega), if_pos held]
  simp only [evict_of_fits (sameSize ▸ fits)]

theorem toList_put (coherent : cache.Coherent) (slot : Slot) (key : FixedBytes 32) :
    (cache.insert slot key).toList = KeyQueue.put cache.capacity slot key cache.toList := by
  unfold KeyQueue.put
  cases held : cache.contains slot with
  | false =>
    rw [if_neg (by rw [coherent.mem_slots, held]; exact Bool.false_ne_true)]
    exact coherent.toList_insert held key
  | true =>
    rw [if_pos (coherent.mem_slots.2 held), coherent.insert_of_held held key]
    exact toList_replace held key

theorem count_removeGeneration (coherent : cache.Coherent) (generation : UInt32) :
    (cache.removeGeneration generation).1 =
      KeyQueue.count (fun slot => slot.generation == generation) cache.toList := by
  have after := (coherent.removeGeneration generation).length_toList
  have split := List.length_eq_countP_add_countP
    (fun entry : Slot × FixedBytes 32 => entry.1.generation == generation) (l := cache.toList)
  rw [toList_removeGeneration, ← List.countP_eq_length_filter] at after
  rw [coherent.length_toList] at split
  change cache.size - (cache.removeGeneration generation).2.size = _
  have others : cache.toList.countP (fun entry => !entry.1.generation == generation) =
      cache.toList.countP (fun entry => decide ¬(entry.1.generation == generation) = true) := by
    congr 1
    funext entry
    cases entry.1.generation == generation <;> rfl
  rw [← after, split, KeyQueue.count]
  simp only [bne, others, Nat.add_sub_cancel]

end Coherent
end SkippedKeys

/-! ### Runs -/

namespace CacheOperation

open SkippedKeys (entryRecord)

/-- One operation after the other on a cache: all answers, and the cache at the end. -/
def run (cache : SkippedKeys (FixedBytes 32)) :
    List CacheOperation → Except Error (List CacheAnswer × SkippedKeys (FixedBytes 32))
  | [] => .ok ([], cache)
  | operation :: rest => do
    let (answer, after) ← operation.perform cache
    let (answers, final) ← run after rest
    return (answer :: answers, final)

/-- One operation after the other on a list of entries. -/
def runOnQueue (capacity : Nat) (entries : KeyQueue) :
    List CacheOperation → List CacheAnswer × KeyQueue
  | [] => ([], entries)
  | operation :: rest =>
    let (answer, after) := operation.onQueue capacity entries
    let (answers, final) := runOnQueue capacity after rest
    (answer :: answers, final)

/-- Every operation succeeds on a cache whose queue fits its table, and does there what it does on
the list of entries. -/
theorem perform_refines {cache : SkippedKeys (FixedBytes 32)} (coherent : cache.Coherent)
    (operation : CacheOperation) :
    ∃ after : SkippedKeys (FixedBytes 32),
      operation.perform cache =
        .ok ((operation.onQueue cache.capacity cache.toList).1, after) ∧
      after.toList = (operation.onQueue cache.capacity cache.toList).2 ∧
      after.Coherent ∧ after.capacity = cache.capacity := by
  cases operation with
  | insert slot key =>
    exact ⟨cache.insert slot key, rfl, coherent.toList_put slot key, coherent.insert slot key,
      SkippedKeys.capacity_insert _ _ _⟩
  | get slot =>
    refine ⟨cache, ?_, rfl, coherent, rfl⟩
    rw [perform, onQueue, coherent.keyAt?_toList]
  | contains slot =>
    refine ⟨cache, ?_, rfl, coherent, rfl⟩
    have held : decide (slot ∈ cache.toList.map Prod.fst) = cache.contains slot := by
      rw [Bool.eq_iff_iff, decide_eq_true_iff]
      exact coherent.mem_slots
    rw [perform, onQueue, held]
  | take slot =>
    refine ⟨cache.erase slot, ?_, coherent.toList_erase slot, coherent.erase slot,
      SkippedKeys.capacity_erase _ _⟩
    rw [onQueue, coherent.keyAt?_toList]
    cases found : cache.get? slot with
    | some key => rw [perform, SkippedKeys.take, found]; rfl
    | none =>
      have untouched : cache.erase slot = cache := by
        have absent := SkippedKeys.contains_eq_false_iff.2 found
        rw [SkippedKeys.erase, if_neg (by rw [absent]; exact Bool.false_ne_true)]
      rw [perform, SkippedKeys.take, found, untouched]
      rfl
  | removeGeneration generation =>
    refine ⟨(cache.removeGeneration generation).2, ?_, cache.toList_removeGeneration generation,
      coherent.removeGeneration generation, SkippedKeys.capacity_removeGeneration _ _⟩
    rw [perform, onQueue, coherent.count_removeGeneration]
  | copy =>
    refine ⟨cache, ?_, rfl, coherent, rfl⟩
    rw [perform, onQueue, SkippedKeys.copy_eq]
  | restore =>
    refine ⟨cache, ?_, rfl, coherent, rfl⟩
    rw [perform, coherent.ofRecords_toRecords]
    rfl

/-- A run on a cache is the run on its entries. -/
theorem run_refines {cache : SkippedKeys (FixedBytes 32)} (coherent : cache.Coherent)
    (operations : List CacheOperation) :
    ∃ after : SkippedKeys (FixedBytes 32),
      run cache operations = .ok ((runOnQueue cache.capacity cache.toList operations).1, after) ∧
      after.toList = (runOnQueue cache.capacity cache.toList operations).2 ∧
      after.Coherent ∧ after.capacity = cache.capacity := by
  induction operations generalizing cache with
  | nil => exact ⟨cache, rfl, rfl, coherent, rfl⟩
  | cons operation rest inductionHypothesis =>
    obtain ⟨next, performed, entries, coherentNext, capacity⟩ := perform_refines coherent operation
    obtain ⟨final, ran, finalEntries, coherentFinal, finalCapacity⟩ :=
      inductionHypothesis coherentNext
    rw [entries, capacity] at ran finalEntries
    refine ⟨final, ?_, finalEntries, coherentFinal, finalCapacity.trans capacity⟩
    rw [run, performed]
    change (run next rest >>= _) = _
    rw [ran]
    rfl

/-- Whatever is asked of a new cache, in whatever order, it answers as the bounded queue of entries
answers, and it holds the entries of the queue in their order. No position occurs twice, the
capacity is never exceeded, and the order of the queue lists exactly the positions of the table. -/
theorem cache_refines_bounded_queue (capacity : Nat) (operations : List CacheOperation) :
    ∃ cache : SkippedKeys (FixedBytes 32),
      run (.new capacity) operations = .ok ((runOnQueue capacity [] operations).1, cache) ∧
      cache.toList = (runOnQueue capacity [] operations).2 ∧
      (cache.toList.map Prod.fst).Nodup ∧ cache.toList.length ≤ capacity ∧
      cache.order = cache.toList.map Prod.fst ∧
      ∀ slot, slot ∈ cache.order ↔ slot ∈ cache.keys.keys := by
  obtain ⟨cache, ran, entries, coherent, sameCapacity⟩ :=
    run_refines (SkippedKeys.coherent_new capacity) operations
  refine ⟨cache, ran, entries, coherent.nodup_toList, ?_, coherent.toList_slots.symm,
    fun slot => ?_⟩
  · rw [coherent.length_toList]
    exact coherent.fits.trans_eq sameCapacity
  · rw [coherent.listed, OrderedMap.mem_keys_iff]
    exact SkippedKeys.contains_iff

end CacheOperation

end RatchetMessaging
