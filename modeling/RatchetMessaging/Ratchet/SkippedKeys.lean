import RatchetMessaging.OrderedMap
import RatchetMessaging.Record.Ratchet

/-!
Contract: the cache of message keys that were passed over.

Owns: a table of keys by position and the queue of positions in order of arrival; when the
table outgrows its capacity, the positions at the front of the queue leave.

Does not own: the kind of the cached keys, which is a parameter.
-/

namespace RatchetMessaging

/-- The position of a message: the generation of its chain and its index there. -/
structure Slot where
  generation : UInt32
  index : UInt32
deriving DecidableEq, Repr

namespace Slot

/-- Slots are ordered by generation, then by index. -/
def Before (left right : Slot) : Prop :=
  left.generation < right.generation ∨
    left.generation = right.generation ∧ left.index < right.index

instance (left right : Slot) : Decidable (Before left right) := by
  unfold Before
  infer_instance

instance : KeyOrder Slot where
  lt := Before
  decideLt left right := inferInstanceAs (Decidable (Before left right))
  decideEq := inferInstance
  lt_irrefl slot := by
    rintro (below | ⟨_, below⟩) <;> exact UInt32.lt_irrefl _ below
  lt_trans := by
    rintro first second third (below | ⟨same, below⟩) (above | ⟨equal, above⟩)
    · exact .inl (UInt32.lt_trans below above)
    · exact .inl (equal ▸ below)
    · exact .inl (same ▸ above)
    · exact .inr ⟨same.trans equal, UInt32.lt_trans below above⟩
  lt_of_not_lt_of_ne := by
    intro left right notBefore different
    by_cases generations : left.generation = right.generation
    · refine .inr ⟨generations.symm, KeyOrder.lt_of_not_lt_of_ne
        (fun below => notBefore (.inr ⟨generations, below⟩)) (fun indices => different ?_)⟩
      cases left
      cases right
      simp_all
    · exact .inl (KeyOrder.lt_of_not_lt_of_ne (fun below => notBefore (.inl below)) generations)

end Slot

/-- Cached keys by position, and their positions in order of arrival. -/
structure SkippedKeys (κ : Type) where
  capacity : Nat
  keys : OrderedMap Slot κ := .empty
  order : List Slot := []
deriving DecidableEq

namespace SkippedKeys

variable {κ : Type}

/-- A cache without keys. -/
def new (capacity : Nat) : SkippedKeys κ := { capacity := capacity }

/-- How many keys are cached. -/
def size (cache : SkippedKeys κ) : Nat := cache.keys.size

/-- The key at a position. -/
def get? (cache : SkippedKeys κ) (slot : Slot) : Option κ := cache.keys.find? slot

/-- Whether there is a key at a position. -/
def contains (cache : SkippedKeys κ) (slot : Slot) : Bool := cache.keys.contains slot

/-- Let the oldest positions go until the table fits. -/
def evict (capacity : Nat) : List Slot → OrderedMap Slot κ → List Slot × OrderedMap Slot κ
  | [], keys => ([], keys)
  | oldest :: order, keys =>
    if capacity < keys.size then evict capacity order (keys.erase oldest)
    else (oldest :: order, keys)

/-- Cache a key. A position already cached keeps its place in the queue. -/
def insert (cache : SkippedKeys κ) (slot : Slot) (key : κ) : SkippedKeys κ :=
  if cache.capacity = 0 then cache
  else
    let order := if cache.contains slot then cache.order else cache.order ++ [slot]
    let (order, keys) := evict cache.capacity order (cache.keys.insert slot key)
    { cache with order := order, keys := keys }

/-- Remove the key at a position. -/
def erase (cache : SkippedKeys κ) (slot : Slot) : SkippedKeys κ :=
  if cache.contains slot then
    { cache with
      keys := cache.keys.erase slot
      order := cache.order.filter (fun found => found != slot) }
  else cache

/-- Take the key at a position out of the cache. -/
def take (cache : SkippedKeys κ) (slot : Slot) : Option (κ × SkippedKeys κ) :=
  (cache.get? slot).map (fun key => (key, cache.erase slot))

/-- Remove every key of a generation; the first part counts them. -/
def removeGeneration (cache : SkippedKeys κ) (generation : UInt32) : Nat × SkippedKeys κ :=
  let keys := cache.keys.filter (fun slot _ => slot.generation != generation)
  (cache.size - keys.size,
    { cache with
      keys := keys
      order := cache.order.filter (fun slot => slot.generation != generation) })

/-- The cached keys with their positions, the oldest first. -/
def toList (cache : SkippedKeys κ) : List (Slot × κ) :=
  cache.order.filterMap (fun slot => (cache.get? slot).map (fun key => (slot, key)))

/-- The records of the cached keys, the oldest first. -/
def toRecords (cache : SkippedKeys (FixedBytes 32)) : List Record.SkippedKeyRecord :=
  cache.toList.map (fun entry =>
    { generation := entry.1.generation, index := entry.1.index, key := entry.2.toBytes })

/-- Cache the keys of records, in order; a key of the wrong size is refused. -/
def insertRecords (cache : SkippedKeys (FixedBytes 32)) :
    List Record.SkippedKeyRecord → Except Error (SkippedKeys (FixedBytes 32))
  | [] => .ok cache
  | record :: rest =>
    match FixedBytes.ofBytes? 32 record.key with
    | none => .error (.decode s!"skipped message key has {record.key.length} bytes")
    | some key => insertRecords (cache.insert ⟨record.generation, record.index⟩ key) rest

/-- The cache of records. -/
def ofRecords (records : List Record.SkippedKeyRecord) (capacity : Nat) :
    Except Error (SkippedKeys (FixedBytes 32)) :=
  insertRecords (new capacity) records

end SkippedKeys

end RatchetMessaging
