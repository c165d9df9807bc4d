/-!
Contract: finite maps kept in increasing order of their keys.

Owns: look-up, insertion, removal and the listing in key order. The order is part of the
type, so two maps with the same entries are equal.

Does not own: any meaning of the keys.
-/

namespace RatchetMessaging

/-- A decidable linear order on keys. -/
class KeyOrder (κ : Type) extends LT κ where
  decideLt : DecidableLT κ
  decideEq : DecidableEq κ
  lt_irrefl : ∀ key : κ, ¬ key < key
  lt_trans : ∀ {first second third : κ}, first < second → second < third → first < third
  lt_of_not_lt_of_ne : ∀ {left right : κ}, ¬ left < right → left ≠ right → right < left

instance KeyOrder.decidableLT {κ : Type} [order : KeyOrder κ] : DecidableLT κ := order.decideLt

instance : KeyOrder UInt32 where
  decideLt := inferInstance
  decideEq := inferInstance
  lt_irrefl := UInt32.lt_irrefl
  lt_trans := UInt32.lt_trans
  lt_of_not_lt_of_ne notBelow different :=
    UInt32.lt_of_le_of_ne (UInt32.not_lt.1 notBelow) (fun equal => different equal.symm)

/-- A map, as its entries in strictly increasing order of the keys. -/
structure OrderedMap (κ α : Type) [KeyOrder κ] where
  entries : List (κ × α)
  increasing : entries.Pairwise (fun earlier later => earlier.1 < later.1)

/-- A map from thirty-two-bit numbers. -/
abbrev NumberMap (α : Type) := OrderedMap UInt32 α

namespace OrderedMap

variable {κ α : Type} [KeyOrder κ]

instance [DecidableEq κ] [DecidableEq α] : DecidableEq (OrderedMap κ α) := fun left right =>
  if same : left.entries = right.entries then
    isTrue (by cases left; cases right; cases same; rfl)
  else
    isFalse (fun equal => same (congrArg OrderedMap.entries equal))

@[ext] theorem ext {left right : OrderedMap κ α} (same : left.entries = right.entries) :
    left = right := by
  cases left
  cases right
  cases same
  rfl

/-- The map without entries. -/
def empty : OrderedMap κ α := ⟨[], .nil⟩

instance : Inhabited (OrderedMap κ α) := ⟨empty⟩

/-- Whether two keys are the same. -/
def sameKey (left right : κ) : Bool := @decide (left = right) (KeyOrder.decideEq left right)

/-- The value under a key in a list of entries. -/
def lookup (key : κ) : List (κ × α) → Option α
  | [] => none
  | entry :: rest => if sameKey entry.1 key then some entry.2 else lookup key rest

/-- The value under a key. -/
def find? (map : OrderedMap κ α) (key : κ) : Option α := lookup key map.entries

/-- Whether there is a value under a key. -/
def contains (map : OrderedMap κ α) (key : κ) : Bool := (map.find? key).isSome

/-- The number of entries. -/
def size (map : OrderedMap κ α) : Nat := map.entries.length

/-- The keys in increasing order. -/
def keys (map : OrderedMap κ α) : List κ := map.entries.map Prod.fst

/-- The values in increasing order of their keys. -/
def values (map : OrderedMap κ α) : List α := map.entries.map Prod.snd

/-- Put a value at the place of its key; a value already there is replaced. -/
def place (key : κ) (value : α) : List (κ × α) → List (κ × α)
  | [] => [(key, value)]
  | entry :: rest =>
    if key < entry.1 then (key, value) :: entry :: rest
    else if sameKey key entry.1 then (key, value) :: rest
    else entry :: place key value rest

theorem sameKey_iff {left right : κ} : sameKey left right = true ↔ left = right := by
  simp [sameKey]

theorem mem_place {key : κ} {value : α} {entries : List (κ × α)} {entry : κ × α}
    (member : entry ∈ place key value entries) : entry = (key, value) ∨ entry ∈ entries := by
  induction entries with
  | nil => exact .inl (by simpa [place] using member)
  | cons head rest inductionHypothesis =>
    unfold place at member
    split at member
    · simpa using member
    · split at member
      · rcases List.mem_cons.1 member with isNew | old
        · exact .inl isNew
        · exact .inr (List.mem_cons_of_mem _ old)
      · rcases List.mem_cons.1 member with isHead | later
        · exact .inr (by simp [isHead])
        · exact (inductionHypothesis later).imp_right (List.mem_cons_of_mem _)

theorem place_increasing (key : κ) (value : α) {entries : List (κ × α)}
    (increasing : entries.Pairwise (fun earlier later => earlier.1 < later.1)) :
    (place key value entries).Pairwise (fun earlier later => earlier.1 < later.1) := by
  induction entries with
  | nil => simp [place]
  | cons head rest inductionHypothesis =>
    have headBelow := (List.pairwise_cons.1 increasing).1
    have restIncreasing := (List.pairwise_cons.1 increasing).2
    unfold place
    split
    · rename_i below
      refine List.pairwise_cons.2 ⟨fun entry member => ?_, increasing⟩
      rcases List.mem_cons.1 member with rfl | later
      · exact below
      · exact KeyOrder.lt_trans below (headBelow entry later)
    · split
      · rename_i same
        have equal := sameKey_iff.1 same
        exact List.pairwise_cons.2
          ⟨fun entry member => by simpa [equal] using headBelow entry member, restIncreasing⟩
      · rename_i notBelow different
        refine List.pairwise_cons.2 ⟨fun entry member => ?_, inductionHypothesis restIncreasing⟩
        rcases mem_place member with rfl | later
        · exact KeyOrder.lt_of_not_lt_of_ne notBelow
            (fun equal => different (sameKey_iff.2 equal))
        · exact headBelow entry later

/-- Put a value under a key; a value already there is replaced. -/
def insert (map : OrderedMap κ α) (key : κ) (value : α) : OrderedMap κ α :=
  ⟨place key value map.entries, place_increasing key value map.increasing⟩

theorem sameKey_comm (left right : κ) : sameKey left right = sameKey right left := by
  rw [Bool.eq_iff_iff, sameKey_iff, sameKey_iff]
  exact ⟨Eq.symm, Eq.symm⟩

theorem lookup_place (key probe : κ) (value : α) (entries : List (κ × α)) :
    lookup probe (place key value entries) =
      if sameKey key probe then some value else lookup probe entries := by
  induction entries with
  | nil => rfl
  | cons head rest inductionHypothesis =>
    unfold place
    split
    · rfl
    · split
      · rename_i same
        have equal := sameKey_iff.1 same
        by_cases probed : sameKey head.1 probe <;> simp [lookup, equal, probed]
      · rename_i different
        by_cases probed : sameKey head.1 probe
        · have apart : sameKey key probe = false := by
            rw [Bool.eq_false_iff]
            intro found
            exact different
              (sameKey_iff.2 ((sameKey_iff.1 found).trans (sameKey_iff.1 probed).symm))
          simp [lookup, probed, apart]
        · simp [lookup, probed, inductionHypothesis]

/-- After an insertion the key has its new value, and every other key what it had before. -/
theorem find?_insert (map : OrderedMap κ α) (key probe : κ) (value : α) :
    (map.insert key value).find? probe =
      if sameKey key probe then some value else map.find? probe :=
  lookup_place key probe value map.entries

/-- Keep the entries that satisfy a condition. -/
def filter (keep : κ → α → Bool) (map : OrderedMap κ α) : OrderedMap κ α :=
  ⟨map.entries.filter (fun entry => keep entry.1 entry.2), map.increasing.filter _⟩

/-- Remove the value under a key. -/
def erase (map : OrderedMap κ α) (key : κ) : OrderedMap κ α :=
  map.filter (fun found _ => !sameKey found key)

theorem lookup_filter_other (key probe : κ) (entries : List (κ × α)) :
    lookup probe (entries.filter (fun entry => !sameKey entry.1 key)) =
      if sameKey key probe then none else lookup probe entries := by
  induction entries with
  | nil => simp [lookup]
  | cons head rest inductionHypothesis =>
    by_cases removed : sameKey head.1 key
    · rw [List.filter_cons_of_neg (by simp [removed]), inductionHypothesis]
      simp only [lookup, sameKey_iff.1 removed]
      split <;> rfl
    · rw [List.filter_cons_of_pos (by simp [removed])]
      by_cases probed : sameKey head.1 probe
      · have apart : sameKey key probe = false := by
          rw [← sameKey_iff.1 probed, sameKey_comm]
          exact Bool.eq_false_iff.2 removed
        simp [lookup, probed, apart]
      · simp [lookup, probed, inductionHypothesis]

/-- After a removal the key has no value, and every other key what it had before. -/
theorem find?_erase (map : OrderedMap κ α) (key probe : κ) :
    (map.erase key).find? probe = if sameKey key probe then none else map.find? probe :=
  lookup_filter_other key probe map.entries

/-- The map without its first `count` entries. -/
def drop (map : OrderedMap κ α) (count : Nat) : OrderedMap κ α :=
  ⟨map.entries.drop count, map.increasing.drop⟩

/-- The map of a list of entries; of two with the same key the later one counts. -/
def ofList (entries : List (κ × α)) : OrderedMap κ α :=
  entries.foldl (fun map entry => map.insert entry.1 entry.2) empty

end OrderedMap

end RatchetMessaging
