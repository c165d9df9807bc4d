import RatchetMessaging.Ratchet.SkippedKeys
import RatchetMessaging.Ratchet.Chain
import RatchetMessaging.Proofs.OrderedMap

/-!
Contract: what the cache of passed-over keys holds after each of its operations.

Owns:
- the look-ups after insertion, removal and the end of a generation; an insertion that finds
  room forgets nothing, and no operation brings a key back;
- insertion of the keys of one chain, `insertAll`;
- the cache that is read back from its records.

Does not own: the order in which keys leave a full cache.
-/

namespace RatchetMessaging.SkippedKeys

variable {κ : Type}

theorem contains_iff {cache : SkippedKeys κ} {slot : Slot} :
    cache.contains slot = true ↔ ∃ key, cache.get? slot = some key :=
  OrderedMap.contains_iff

theorem contains_eq_false_iff {cache : SkippedKeys κ} {slot : Slot} :
    cache.contains slot = false ↔ cache.get? slot = none :=
  OrderedMap.contains_eq_false_iff

/-! ### Eviction -/

theorem evict_of_fits {capacity : Nat} {keys : OrderedMap Slot κ} (fits : keys.size ≤ capacity)
    (order : List Slot) : evict capacity order keys = (order, keys) := by
  cases order with
  | nil => rfl
  | cons oldest order => simp [evict, Nat.not_lt.2 fits]

theorem find?_of_find?_evict {capacity : Nat} {order : List Slot} {keys : OrderedMap Slot κ}
    {slot : Slot} {key : κ} (found : (evict capacity order keys).2.find? slot = some key) :
    keys.find? slot = some key := by
  induction order generalizing keys with
  | nil => exact found
  | cons oldest order inductionHypothesis =>
    unfold evict at found
    split at found
    · exact OrderedMap.find?_of_find?_erase (inductionHypothesis found)
    · exact found

theorem size_evict_le (capacity : Nat) (order : List Slot) (keys : OrderedMap Slot κ) :
    (evict capacity order keys).2.size ≤ keys.size := by
  induction order generalizing keys with
  | nil => exact Nat.le_refl _
  | cons oldest order inductionHypothesis =>
    unfold evict
    split
    · exact Nat.le_trans (inductionHypothesis _) (OrderedMap.size_erase_le keys oldest)
    · exact Nat.le_refl _

/-! ### Insertion -/

@[simp] theorem capacity_insert (cache : SkippedKeys κ) (slot : Slot) (key : κ) :
    (cache.insert slot key).capacity = cache.capacity := by
  unfold insert
  split <;> rfl

/-- An insertion adds at most the inserted key. -/
theorem get?_of_get?_insert {cache : SkippedKeys κ} {slot probe : Slot} {key found : κ}
    (look : (cache.insert slot key).get? probe = some found) :
    (probe = slot ∧ found = key) ∨ cache.get? probe = some found := by
  unfold insert at look
  split at look
  · exact .inr look
  · have kept := find?_of_find?_evict look
    rw [OrderedMap.find?_insert] at kept
    split at kept
    · rename_i same
      cases kept
      exact .inl ⟨(OrderedMap.sameKey_iff.1 same).symm, rfl⟩
    · exact .inr kept

theorem size_insert_le (cache : SkippedKeys κ) (slot : Slot) (key : κ) :
    (cache.insert slot key).size ≤ cache.size + 1 := by
  unfold insert size
  split
  · exact Nat.le_succ _
  · exact Nat.le_trans (size_evict_le _ _ _) (OrderedMap.size_insert_le _ _ _)

/-- An insertion that finds room forgets nothing. -/
theorem get?_insert_of_room {cache : SkippedKeys κ} (room : cache.size < cache.capacity)
    (slot probe : Slot) (key : κ) :
    (cache.insert slot key).get? probe = if slot = probe then some key else cache.get? probe := by
  have someCapacity : cache.capacity ≠ 0 := by omega
  have fits : (cache.keys.insert slot key).size ≤ cache.capacity :=
    Nat.le_trans (OrderedMap.size_insert_le _ _ _) room
  unfold insert get?
  rw [if_neg someCapacity]
  simp only [evict_of_fits fits, OrderedMap.find?_insert, OrderedMap.sameKey_iff]

/-! ### Removal -/

theorem get?_erase (cache : SkippedKeys κ) (slot probe : Slot) :
    (cache.erase slot).get? probe = if slot = probe then none else cache.get? probe := by
  unfold erase
  split
  · simp only [get?, OrderedMap.find?_erase, OrderedMap.sameKey_iff]
  · rename_i absent
    split
    · rename_i same
      rw [← same]
      exact contains_eq_false_iff.1 (Bool.eq_false_iff.2 absent)
    · rfl

theorem contains_erase_self (cache : SkippedKeys κ) (slot : Slot) :
    (cache.erase slot).contains slot = false := by
  rw [contains_eq_false_iff, get?_erase, if_pos rfl]

theorem get?_of_get?_erase {cache : SkippedKeys κ} {slot probe : Slot} {key : κ}
    (look : (cache.erase slot).get? probe = some key) : cache.get? probe = some key := by
  rw [get?_erase] at look
  split at look
  · cases look
  · exact look

theorem get?_removeGeneration (cache : SkippedKeys κ) (generation : UInt32) (probe : Slot) :
    (cache.removeGeneration generation).2.get? probe =
      if probe.generation = generation then none else cache.get? probe := by
  unfold removeGeneration get?
  simp only [OrderedMap.find?_filter]
  cases cache.keys.find? probe with
  | none => split <;> rfl
  | some key =>
    by_cases same : probe.generation = generation <;> simp [Option.filter, same]

theorem get?_of_get?_removeGeneration {cache : SkippedKeys κ} {generation : UInt32}
    {probe : Slot} {key : κ}
    (look : (cache.removeGeneration generation).2.get? probe = some key) :
    cache.get? probe = some key := by
  rw [get?_removeGeneration] at look
  split at look
  · cases look
  · exact look

theorem size_removeGeneration_le (cache : SkippedKeys κ) (generation : UInt32) :
    (cache.removeGeneration generation).2.size ≤ cache.size :=
  OrderedMap.size_filter_le _ _

@[simp] theorem capacity_removeGeneration (cache : SkippedKeys κ) (generation : UInt32) :
    (cache.removeGeneration generation).2.capacity = cache.capacity := rfl

/-! ### The keys of one chain -/

/-- Cache the keys passed over on the chain of a generation. -/
def insertAll (generation : UInt32) (messageKeys : List MessageKey)
    (cache : SkippedKeys (FixedBytes 32)) : SkippedKeys (FixedBytes 32) :=
  messageKeys.foldl
    (fun cache messageKey => cache.insert ⟨generation, messageKey.index⟩ messageKey.key) cache

section InsertAll

variable {generation : UInt32} {messageKeys : List MessageKey}
  {cache : SkippedKeys (FixedBytes 32)}

@[simp] theorem insertAll_nil (generation : UInt32) (cache : SkippedKeys (FixedBytes 32)) :
    cache.insertAll generation [] = cache := rfl

@[simp] theorem insertAll_cons (generation : UInt32) (first : MessageKey)
    (rest : List MessageKey) (cache : SkippedKeys (FixedBytes 32)) :
    cache.insertAll generation (first :: rest) =
      (cache.insert ⟨generation, first.index⟩ first.key).insertAll generation rest := rfl

theorem get?_of_get?_insertAll {probe : Slot} {found : FixedBytes 32}
    (look : (cache.insertAll generation messageKeys).get? probe = some found) :
    (∃ messageKey ∈ messageKeys,
      probe = ⟨generation, messageKey.index⟩ ∧ found = messageKey.key) ∨
      cache.get? probe = some found := by
  induction messageKeys generalizing cache with
  | nil => exact .inr look
  | cons first rest inductionHypothesis =>
    rcases inductionHypothesis look with ⟨messageKey, member, same⟩ | earlier
    · exact .inl ⟨messageKey, List.mem_cons_of_mem _ member, same⟩
    · rcases get?_of_get?_insert earlier with same | kept
      · exact .inl ⟨first, List.mem_cons_self, same⟩
      · exact .inr kept

@[simp] theorem capacity_insertAll (generation : UInt32) (messageKeys : List MessageKey)
    (cache : SkippedKeys (FixedBytes 32)) :
    (cache.insertAll generation messageKeys).capacity = cache.capacity := by
  induction messageKeys generalizing cache with
  | nil => rfl
  | cons first rest inductionHypothesis => simp [inductionHypothesis]

theorem size_insertAll_le (generation : UInt32) (messageKeys : List MessageKey)
    (cache : SkippedKeys (FixedBytes 32)) :
    (cache.insertAll generation messageKeys).size ≤ cache.size + messageKeys.length := by
  induction messageKeys generalizing cache with
  | nil => exact Nat.le_refl _
  | cons first rest inductionHypothesis =>
    have inserted := size_insert_le cache ⟨generation, first.index⟩ first.key
    have others := inductionHypothesis (cache.insert ⟨generation, first.index⟩ first.key)
    simp only [insertAll_cons, List.length_cons]
    omega

/-- If all keys find room, every key is cached and nothing is forgotten. -/
theorem contains_insertAll_of_room (room : cache.size + messageKeys.length ≤ cache.capacity)
    {probe : Slot}
    (kept : cache.contains probe = true ∨
      ∃ messageKey ∈ messageKeys, probe = ⟨generation, messageKey.index⟩) :
    (cache.insertAll generation messageKeys).contains probe = true := by
  induction messageKeys generalizing cache with
  | nil =>
    rcases kept with kept | ⟨_, member, _⟩
    · exact kept
    · cases member
  | cons first rest inductionHypothesis =>
    simp only [List.length_cons] at room
    have roomForFirst : cache.size < cache.capacity := by omega
    have look := fun slot =>
      get?_insert_of_room roomForFirst ⟨generation, first.index⟩ slot first.key
    have grown := size_insert_le cache ⟨generation, first.index⟩ first.key
    have roomForRest :
        (cache.insert ⟨generation, first.index⟩ first.key).size + rest.length ≤
          (cache.insert ⟨generation, first.index⟩ first.key).capacity := by
      rw [capacity_insert]
      omega
    rw [insertAll_cons]
    apply inductionHypothesis roomForRest
    rcases kept with kept | ⟨messageKey, member, same⟩
    · left
      obtain ⟨key, found⟩ := contains_iff.1 kept
      rw [contains_iff, look]
      by_cases isFirst : (⟨generation, first.index⟩ : Slot) = probe
      · exact ⟨first.key, if_pos isFirst⟩
      · exact ⟨key, by rw [if_neg isFirst, found]⟩
    · rcases List.mem_cons.1 member with isFirst | later
      · left
        rw [contains_iff, look, same, isFirst]
        exact ⟨first.key, if_pos rfl⟩
      · exact .inr ⟨messageKey, later, same⟩

end InsertAll

/-! ### Records -/

private theorem get?_of_mem_toRecords {cache : SkippedKeys (FixedBytes 32)}
    {record : Record.SkippedKeyRecord} (member : record ∈ cache.toRecords) {key : FixedBytes 32}
    (isKey : FixedBytes.ofBytes? 32 record.key = some key) :
    cache.get? ⟨record.generation, record.index⟩ = some key := by
  simp only [toRecords, toList, List.mem_map, List.mem_filterMap, Option.map_eq_some_iff] at member
  obtain ⟨_, ⟨slot, _, held, found, rfl⟩, rfl⟩ := member
  have same : held = key := by
    rw [FixedBytes.ofBytes?_toBytes] at isKey
    exact Option.some.inj isKey
  exact same ▸ found

private theorem get?_of_insertRecords {records : List Record.SkippedKeyRecord}
    {cache filled : SkippedKeys (FixedBytes 32)} (read : cache.insertRecords records = .ok filled)
    {slot : Slot} {key : FixedBytes 32} (look : filled.get? slot = some key) :
    cache.get? slot = some key ∨
      ∃ record ∈ records, slot = ⟨record.generation, record.index⟩ ∧
        FixedBytes.ofBytes? 32 record.key = some key := by
  induction records generalizing cache with
  | nil =>
    cases read
    exact .inl look
  | cons first rest inductionHypothesis =>
    unfold insertRecords at read
    split at read
    · cases read
    · rename_i isKey
      rcases inductionHypothesis read with earlier | ⟨record, member, same⟩
      · rcases get?_of_get?_insert earlier with ⟨same, rfl⟩ | kept
        · exact .inr ⟨first, List.mem_cons_self, same, isKey⟩
        · exact .inl kept
      · exact .inr ⟨record, List.mem_cons_of_mem _ member, same⟩

/-- A cache that is read back, under any capacity, holds only what the written one held. -/
theorem get?_of_get?_ofRecords {cache restored : SkippedKeys (FixedBytes 32)}
    {capacity : Nat} (read : ofRecords cache.toRecords capacity = .ok restored) {slot : Slot}
    {key : FixedBytes 32} (look : restored.get? slot = some key) : cache.get? slot = some key := by
  rcases get?_of_insertRecords read look with impossible | ⟨record, member, rfl, isKey⟩
  · cases impossible
  · exact get?_of_mem_toRecords member isKey

end RatchetMessaging.SkippedKeys
