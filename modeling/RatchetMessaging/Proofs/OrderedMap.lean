import RatchetMessaging.OrderedMap

/-!
Contract: what look-ups find in ordered maps.

Owns:
- look-up as membership of an entry, from which the look-ups after filtering and dropping
  follow;
- a map is what its look-ups find, and a map that is built again from its entries is the same;
- the entries after a key was inserted, and before it was removed;
- bounds on the number of entries after each operation.

Does not own: the look-up laws of insertion and removal, which stand beside the definitions.
-/

namespace RatchetMessaging.OrderedMap

variable {κ α : Type} [KeyOrder κ]

theorem nodup_keys (map : OrderedMap κ α) : map.keys.Nodup := by
  refine List.pairwise_map.2 (map.increasing.imp ?_)
  intro earlier later below same
  rw [same] at below
  exact KeyOrder.lt_irrefl _ below

theorem lookup_eq_some_iff {key : κ} {value : α} {entries : List (κ × α)}
    (distinct : (entries.map Prod.fst).Nodup) :
    lookup key entries = some value ↔ (key, value) ∈ entries := by
  induction entries with
  | nil => simp [lookup]
  | cons head rest inductionHypothesis =>
    obtain ⟨headOnce, restDistinct⟩ := List.nodup_cons.1 distinct
    by_cases same : sameKey head.1 key
    · have equal := sameKey_iff.1 same
      have notLater : (key, value) ∉ rest := by
        intro later
        rw [equal] at headOnce
        exact headOnce (List.mem_map_of_mem (f := Prod.fst) later)
      simp only [lookup, same, if_true, List.mem_cons, notLater, or_false]
      constructor
      · intro found
        cases found
        exact Prod.ext equal.symm rfl
      · intro isHead
        rw [← isHead]
    · have different : (key, value) ≠ head := by
        rintro rfl
        exact same (sameKey_iff.2 rfl)
      simp [lookup, same, different, inductionHypothesis restDistinct]

/-- A look-up finds exactly the entries. -/
theorem find?_eq_some_iff {map : OrderedMap κ α} {key : κ} {value : α} :
    map.find? key = some value ↔ (key, value) ∈ map.entries :=
  lookup_eq_some_iff map.nodup_keys

/-- Maps that find the same are the same. -/
theorem ext_find? {left right : OrderedMap κ α}
    (same : ∀ key value, left.find? key = some value ↔ right.find? key = some value) :
    left = right := by
  have distinct (map : OrderedMap κ α) : map.entries.Nodup :=
    (List.pairwise_map.1 map.nodup_keys).imp fun different equal => different (congrArg _ equal)
  have entries : left.entries.Perm right.entries := by
    rw [List.perm_ext_iff_of_nodup (distinct left) (distinct right)]
    rintro ⟨key, value⟩
    rw [← find?_eq_some_iff, ← find?_eq_some_iff]
    exact same key value
  refine ext (entries.eq_of_pairwise ?_ left.increasing right.increasing)
  intro earlier later _ _ below above
  exact absurd (KeyOrder.lt_trans below above) (KeyOrder.lt_irrefl _)

theorem contains_iff {map : OrderedMap κ α} {key : κ} :
    map.contains key = true ↔ ∃ value, map.find? key = some value := by
  rw [contains, Option.isSome_iff_exists]

theorem contains_eq_false_iff {map : OrderedMap κ α} {key : κ} :
    map.contains key = false ↔ map.find? key = none := by
  simp [contains]

theorem mem_keys_iff {map : OrderedMap κ α} {key : κ} :
    key ∈ map.keys ↔ ∃ value, map.find? key = some value := by
  simp [keys, find?_eq_some_iff]

@[simp] theorem contains_empty (key : κ) : (empty : OrderedMap κ α).contains key = false := rfl

theorem find?_filter (keep : κ → α → Bool) (map : OrderedMap κ α) (key : κ) :
    (map.filter keep).find? key = (map.find? key).filter (keep key) := by
  ext value
  rw [find?_eq_some_iff, Option.filter_eq_some_iff, find?_eq_some_iff]
  simp [filter]

theorem find?_of_find?_drop {map : OrderedMap κ α} {count : Nat} {key : κ} {value : α}
    (found : (map.drop count).find? key = some value) : map.find? key = some value := by
  rw [find?_eq_some_iff] at found ⊢
  exact List.mem_of_mem_drop found

theorem find?_insert_self (map : OrderedMap κ α) (key : κ) (value : α) :
    (map.insert key value).find? key = some value := by
  simp [find?_insert, sameKey]

theorem find?_insert_other (map : OrderedMap κ α) {key probe : κ} (different : key ≠ probe)
    (value : α) : (map.insert key value).find? probe = map.find? probe := by
  simp [find?_insert, sameKey, different]

theorem contains_insert_eq_false {map : OrderedMap κ α} {key probe : κ} {value : α} :
    (map.insert key value).contains probe = false ↔
      key ≠ probe ∧ map.contains probe = false := by
  rw [contains, find?_insert]
  by_cases same : key = probe <;> simp [sameKey, same, contains]

/-- What holds of an inserted value and of the others holds of all that is found. -/
theorem of_find?_insert {property : κ → α → Prop} {map : OrderedMap κ α} {key : κ} {value : α}
    (inserted : property key value)
    (others : ∀ probe held, map.find? probe = some held → property probe held) :
    ∀ probe held, (map.insert key value).find? probe = some held → property probe held := by
  intro probe held found
  by_cases same : key = probe
  · subst same
    rw [find?_insert_self] at found
    cases found
    exact inserted
  · rw [find?_insert_other _ same] at found
    exact others probe held found

theorem find?_erase_other (map : OrderedMap κ α) {key probe : κ} (different : key ≠ probe) :
    (map.erase key).find? probe = map.find? probe := by
  simp [find?_erase, sameKey, different]

theorem find?_erase_self (map : OrderedMap κ α) (key : κ) :
    (map.erase key).find? key = none := by
  simp [find?_erase, sameKey]

/-- Removing a key without a value changes nothing. -/
theorem erase_of_absent {map : OrderedMap κ α} {key : κ} (absent : map.find? key = none) :
    map.erase key = map := by
  refine ext (List.filter_eq_self.2 fun entry member => ?_)
  have different : ¬ sameKey entry.1 key := by
    intro same
    have found := find?_eq_some_iff.2 member
    rw [sameKey_iff.1 same, absent] at found
    cases found
  simp [different]

theorem find?_of_find?_erase {map : OrderedMap κ α} {key probe : κ} {value : α}
    (found : (map.erase key).find? probe = some value) : map.find? probe = some value := by
  rw [find?_erase] at found
  split at found
  · cases found
  · exact found

/-- A key above all others is placed at the end. -/
theorem place_of_above {key : κ} {entries : List (κ × α)}
    (above : ∀ entry ∈ entries, entry.1 < key) (value : α) :
    place key value entries = entries ++ [(key, value)] := by
  induction entries with
  | nil => rfl
  | cons head rest inductionHypothesis =>
    have headBelow := above head List.mem_cons_self
    have notBelow : ¬ key < head.1 := fun below =>
      KeyOrder.lt_irrefl _ (KeyOrder.lt_trans below headBelow)
    have different : ¬ sameKey key head.1 = true := fun same =>
      KeyOrder.lt_irrefl _ (sameKey_iff.1 same ▸ headBelow)
    rw [place, if_neg notBelow, if_neg different,
      inductionHypothesis (fun entry member => above entry (List.mem_cons_of_mem _ member)),
      List.cons_append]

theorem contains_eq_false_of_above {map : OrderedMap κ α} {key : κ}
    (above : ∀ entry ∈ map.entries, entry.1 < key) : map.contains key = false := by
  rw [contains_eq_false_iff, Option.eq_none_iff_forall_ne_some]
  intro value found
  exact KeyOrder.lt_irrefl _ (above (key, value) (find?_eq_some_iff.1 found))

/-- Insertion goes on with a list that continues the entries. -/
theorem entries_insert_of_increasing {map : OrderedMap κ α} {first : κ × α} {rest : List (κ × α)}
    (increasing : (map.entries ++ first :: rest).Pairwise
      (fun earlier later => earlier.1 < later.1)) :
    (map.insert first.1 first.2).entries ++ rest = map.entries ++ first :: rest := by
  have above : ∀ entry ∈ map.entries, entry.1 < first.1 := fun entry member =>
    (List.pairwise_append.1 increasing).2.2 entry member first List.mem_cons_self
  have placed : (map.insert first.1 first.2).entries = map.entries ++ [first] :=
    place_of_above above first.2
  rw [placed, List.append_assoc, List.singleton_append]

/-! ### Maps of lists -/

theorem find?_foldl_insert {entries : List (κ × α)} (distinct : (entries.map Prod.fst).Nodup)
    (map : OrderedMap κ α) (key : κ) :
    (entries.foldl (fun map entry => map.insert entry.1 entry.2) map).find? key =
      (lookup key entries).or (map.find? key) := by
  induction entries generalizing map with
  | nil => rfl
  | cons first rest inductionHypothesis =>
    obtain ⟨firstOnce, restDistinct⟩ := List.nodup_cons.1 distinct
    rw [List.foldl_cons, inductionHypothesis restDistinct, find?_insert, lookup]
    by_cases isFirst : sameKey first.1 key
    · have absent : lookup key rest = none := by
        apply Option.eq_none_iff_forall_ne_some.2
        intro value found
        have later := (lookup_eq_some_iff restDistinct).1 found
        rw [sameKey_iff.1 isFirst] at firstOnce
        exact firstOnce (List.mem_map_of_mem (f := Prod.fst) later)
      simp [isFirst, absent]
    · simp [isFirst]

/-- The map of entries with different keys finds exactly these. -/
theorem find?_ofList_eq_some_iff {entries : List (κ × α)}
    (distinct : (entries.map Prod.fst).Nodup) {key : κ} {value : α} :
    (ofList entries).find? key = some value ↔ (key, value) ∈ entries := by
  rw [ofList, find?_foldl_insert distinct, ← lookup_eq_some_iff distinct]
  change (lookup key entries).or none = some value ↔ _
  rw [Option.or_none]

/-- A map that is built again from its entries is the same. -/
@[simp] theorem ofList_entries (map : OrderedMap κ α) : ofList map.entries = map := by
  apply ext_find?
  intro key value
  rw [find?_ofList_eq_some_iff map.nodup_keys, find?_eq_some_iff]

/-! ### Sizes -/

theorem length_place_le (key : κ) (value : α) (entries : List (κ × α)) :
    (place key value entries).length ≤ entries.length + 1 := by
  induction entries with
  | nil => simp [place]
  | cons head rest inductionHypothesis =>
    unfold place
    split
    · simp
    · split
      · simp
      · simpa using inductionHypothesis

theorem size_insert_le (map : OrderedMap κ α) (key : κ) (value : α) :
    (map.insert key value).size ≤ map.size + 1 :=
  length_place_le key value map.entries

theorem perm_place_of_absent {key : κ} {entries : List (κ × α)}
    (absent : lookup key entries = none) (value : α) :
    (place key value entries).Perm ((key, value) :: entries) := by
  induction entries with
  | nil => exact .refl _
  | cons head rest inductionHypothesis =>
    unfold lookup at absent
    split at absent
    · cases absent
    · rename_i different
      unfold place
      split
      · exact .refl _
      · rw [if_neg (by rwa [sameKey_comm])]
        exact ((inductionHypothesis absent).cons head).trans (.swap _ _ _)

/-- A new key joins the entries, and none of them is lost. -/
theorem perm_insert_of_absent {map : OrderedMap κ α} {key : κ} (absent : map.find? key = none)
    (value : α) : (map.insert key value).entries.Perm ((key, value) :: map.entries) :=
  perm_place_of_absent absent value

theorem size_insert_of_absent {map : OrderedMap κ α} {key : κ} (absent : map.find? key = none)
    (value : α) : (map.insert key value).size = map.size + 1 :=
  (perm_insert_of_absent absent value).length_eq

theorem insert_erase_self (map : OrderedMap κ α) (key : κ) (value : α) :
    (map.erase key).insert key value = map.insert key value := by
  refine ext_find? fun probe found => ?_
  by_cases same : key = probe
  · subst same
    rw [find?_insert_self, find?_insert_self]
  · rw [find?_insert_other _ same, find?_insert_other _ same, find?_erase_other _ same]

theorem insert_of_found {map : OrderedMap κ α} {key : κ} {value : α}
    (found : map.find? key = some value) : map.insert key value = map := by
  refine ext_find? fun probe other => ?_
  by_cases same : key = probe
  · subst same
    rw [find?_insert_self, found]
  · rw [find?_insert_other _ same]

/-- The new value joins the entries of the other keys. -/
theorem perm_insert (map : OrderedMap κ α) (key : κ) (value : α) :
    (map.insert key value).entries.Perm ((key, value) :: (map.erase key).entries) := by
  rw [← insert_erase_self]
  exact perm_insert_of_absent (find?_erase_self map key) value

theorem perm_erase_of_found {map : OrderedMap κ α} {key : κ} {value : α}
    (found : map.find? key = some value) :
    map.entries.Perm ((key, value) :: (map.erase key).entries) := by
  have permutation := perm_insert map key value
  rwa [insert_of_found found] at permutation

theorem size_filter_le (keep : κ → α → Bool) (map : OrderedMap κ α) :
    (map.filter keep).size ≤ map.size :=
  List.length_filter_le _ _

theorem size_erase_le (map : OrderedMap κ α) (key : κ) : (map.erase key).size ≤ map.size :=
  size_filter_le _ map

theorem size_erase_lt {map : OrderedMap κ α} {key : κ} (held : map.contains key = true) :
    (map.erase key).size < map.size := by
  obtain ⟨value, found⟩ := contains_iff.1 held
  refine List.length_filter_lt_length_iff_exists.2 ⟨(key, value), find?_eq_some_iff.1 found, ?_⟩
  simp [sameKey_iff.2]

end RatchetMessaging.OrderedMap
