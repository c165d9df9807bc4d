import RatchetMessaging.Proofs.Wire.Cursor
import RatchetMessaging.Wire.Codec

/-!
Contract: a record is read back from the bytes that are written of it.

Owns:
- plain values that are read back: numbers, truth values, byte strings and texts;
- for each kind of field, that what is written of it carries its part of one record over to
  another that has nothing there yet;
- `RecordCodec.Faithful`, for records all of whose fields are carried over, and from it the law of
  reading after writing, for whole records and for nested ones.

Does not own: the records of the protocol, and what is read from bytes that nobody wrote.
-/

namespace RatchetMessaging

/-! ### Texts -/

theorem toList_loop_eq (array : ByteArray) (start : Nat) (read : List UInt8) :
    ByteArray.toList.loop array start read = read.reverse ++ array.data.toList.drop start := by
  induction start, read using ByteArray.toList.loop.induct array with
  | case1 start read inside inductionHypothesis =>
    have bound : start < array.data.toList.length := inside
    have byte : array.get! start = array.data.toList[start] := by
      simp only [ByteArray.get!, Array.getElem_toList]
      exact getElem!_pos array.data start bound
    rw [ByteArray.toList.loop, if_pos inside, inductionHypothesis, List.drop_eq_getElem_cons bound,
      byte]
    simp
  | case2 start read outside =>
    have beyond : array.data.toList.length ≤ start := Nat.not_lt.1 outside
    rw [ByteArray.toList.loop, if_neg outside, List.drop_eq_nil_of_le beyond, List.append_nil]

theorem Bytes.toArray_ofText (text : String) :
    (⟨(Bytes.ofText text).toArray⟩ : ByteArray) = text.toByteArray := by
  unfold Bytes.ofText ByteArray.toList
  rw [toList_loop_eq]
  rfl

namespace Wire

variable {ρ α β : Type}

theorem length_le_of_mem_flatMap {values : List α} (write : α → Bytes) {value : α}
    (member : value ∈ values) : (write value).length ≤ (values.flatMap write).length := by
  rw [List.flatMap_def]
  exact (List.sublist_flatten_of_mem (List.mem_map_of_mem member)).length_le

/-! ### Plain values -/

namespace ScalarCodec

/-- A value is read back, unless its bytes are too many for their length to be written. -/
def Faithful (codec : ScalarCodec α) : Prop :=
  ∀ value, (codec.write value).length < 2 ^ 64 → Reads codec.read (codec.write value) value

theorem faithful_word : word.Faithful := by
  intro value _
  have reads := (reads_varint (Nat.lt_trans value.toNat_lt (by decide))).map UInt32.ofNat
  rwa [UInt32.ofNat_toNat] at reads

theorem faithful_longWord : longWord.Faithful := by
  intro value _
  have reads := (reads_varint value.toNat_lt).map UInt64.ofNat
  rwa [UInt64.ofNat_toNat] at reads

theorem faithful_truth : truth.Faithful := by
  intro value _
  have bound : value.toNat < 2 ^ 64 := Nat.lt_trans value.toNat_lt (by decide)
  have reads := (reads_varint bound).map (· != 0)
  cases value <;> exact reads

theorem faithful_bytes : bytes.Faithful := by
  intro value fits
  apply reads_lengthPrefixed
  simp only [bytes, writeLengthPrefixed, List.length_append] at fits
  omega

theorem faithful_text : text.Faithful := by
  intro value fits
  have valid : readText (Bytes.ofText value) = pure value := by
    unfold readText
    rw [Bytes.toArray_ofText, String.fromUTF8?, dif_pos value.isValidUTF8]
    rfl
  rw [← List.append_nil (text.write value)]
  apply (faithful_bytes (Bytes.ofText value) fits).bind
  rw [valid]
  exact Reads.pure value

theorem reads_occurrence {codec : ScalarCodec α} (faithful : codec.Faithful) {value : α}
    (fits : (codec.write value).length < 2 ^ 64) :
    Reads (codec.occurrence codec.wireType) (codec.write value) value :=
  Reads.expect _ (faithful value fits)

end ScalarCodec

/-! ### Blocks -/

/-- A block behind its length is read by a step that stops where the block ends. -/
theorem reads_block {bytes : Bytes} (fits : bytes.length < 2 ^ 64)
    (step : (limit count : Nat) → Read α) (result : α → β) {value : α}
    (reads : ∀ rest : Bytes,
      step rest.length bytes.length (Cursor.start (bytes ++ rest)) = .ok (value, Cursor.start rest)) :
    Reads (do
        let length ← Read.varint
        let available ← Read.remaining
        if available < length then
          Read.refuse .bufferUnderflow
        else
          let found ← step (available - length) length
          if (← Read.remaining) = available - length then
            return result found
          else
            Read.refuse .delimitedLengthExceeded)
      (writeLengthPrefixed bytes) (result value) := by
  refine (reads_varint fits).bind fun rest => ?_
  have behind : (Cursor.start (bytes ++ rest)).remaining - bytes.length = rest.length := by
    simp only [Cursor.start, List.length_append, Nat.add_sub_cancel_left]
  change (if (bytes ++ rest).length < bytes.length then _ else _ : Read β) _ = _
  rw [if_neg (by simp only [List.length_append]; omega), behind]
  change (step rest.length bytes.length (Cursor.start (bytes ++ rest)) >>= fun found =>
    (if found.2.remaining = rest.length then Pure.pure (result found.1)
      else Read.refuse .delimitedLengthExceeded : Read β) found.2) = _
  rw [reads]
  change (if rest.length = rest.length then _ else _ : Read β) _ = _
  rw [if_pos rfl]
  rfl

/-! ### Fields -/

/-- What is replaced is what is looked at. -/
structure Part.Lawful (part : Part ρ α) : Prop where
  get_set : ∀ value record, part.get (part.set value record) = value
  set_get : ∀ record, part.set (part.get record) record = record
  set_set : ∀ value earlier record,
    part.set value (part.set earlier record) = part.set value record

namespace FieldCodec

variable {field : FieldCodec ρ} {depth number : Nat} {name : String} {record before after : ρ}

/-- The bytes are occurrences of the field, which take one record to another. -/
inductive Occurs (field : FieldCodec ρ) (depth : Nat) : Bytes → ρ → ρ → Prop
  | none (record : ρ) : Occurs field depth [] record record
  | next {payload following : Bytes} {before middle after : ρ} (wireType : WireType)
      (reads : Reads (field.merge depth wireType before) payload middle)
      (more : Occurs field depth following middle after) :
      Occurs field depth (writeKey field.number wireType ++ payload ++ following) before after

theorem Occurs.once {payload : Bytes} (wireType : WireType)
    (reads : Reads (field.merge depth wireType before) payload after) :
    field.Occurs depth (writeKey field.number wireType ++ payload) before after := by
  rw [← List.append_nil (_ ++ _)]
  exact .next wireType reads (.none after)

/-- What is written of the field of one record takes one record to another, unless it is too
long. -/
def Carries (field : FieldCodec ρ) (depth : Nat) (record before after : ρ) : Prop :=
  (field.write record).length < 2 ^ 64 → field.Occurs depth (field.write record) before after

theorem carries_plain [DecidableEq α] {codec : ScalarCodec α} {part : Part ρ α}
    (faithful : codec.Faithful) (unset : part.get before = codec.default)
    (same : part.set (part.get before) before = before) :
    (plain number name codec part).Carries depth record before
      (part.set (part.get record) before) := by
  intro fits
  unfold plain at fits ⊢
  by_cases atDefault : part.get record = codec.default
  · simp only [if_pos atDefault]
    rw [atDefault, ← unset, same]
    exact .none before
  · simp only [if_neg atDefault, List.length_append] at fits ⊢
    exact .once codec.wireType
      ((ScalarCodec.reads_occurrence faithful (by omega)).map (fun value => part.set value before))

theorem carries_optional {codec : ScalarCodec α} {part : Part ρ (Option α)}
    (faithful : codec.Faithful) (unset : part.get before = none)
    (same : part.set (part.get before) before = before) :
    (optional number name codec part).Carries depth record before
      (part.set (part.get record) before) := by
  intro fits
  unfold optional at fits ⊢
  cases present : part.get record with
  | none =>
    simp only [present]
    rw [← unset, same]
    exact .none before
  | some value =>
    simp only [present, List.length_append] at fits ⊢
    exact .once codec.wireType ((ScalarCodec.reads_occurrence faithful (by omega)).map
      (fun value => part.set (some value) before))

/-- Elements are added one after the other. -/
theorem occurs_each {part : Part ρ (List α)} (lawful : part.Lawful) {wireType : WireType}
    {element : α → Bytes} {values : List α}
    (adds : ∀ value ∈ values, ∀ target, Reads (field.merge depth wireType target) (element value)
      (part.set (part.get target ++ [value]) target)) (before : ρ) :
    field.Occurs depth
      (values.flatMap (fun value => writeKey field.number wireType ++ element value)) before
      (part.set (part.get before ++ values) before) := by
  induction values generalizing before with
  | nil =>
    rw [List.append_nil, lawful.set_get]
    exact .none before
  | cons first rest inductionHypothesis =>
    have following := inductionHypothesis
      (fun value member => adds value (List.mem_cons_of_mem _ member))
      (part.set (part.get before ++ [first]) before)
    rw [lawful.get_set, lawful.set_set, List.append_assoc] at following
    exact .next wireType (adds first List.mem_cons_self before) following

theorem carries_each {part : Part ρ (List α)} (lawful : part.Lawful) {wireType : WireType}
    {element : α → Bytes} (unset : part.get before = [])
    (writes : field.write record = (part.get record).flatMap
      (fun value => writeKey field.number wireType ++ element value))
    (adds : ∀ value, (element value).length < 2 ^ 64 → ∀ target,
      Reads (field.merge depth wireType target) (element value)
        (part.set (part.get target ++ [value]) target)) :
    field.Carries depth record before (part.set (part.get record) before) := by
  intro fits
  rw [writes] at fits ⊢
  have addsEach : ∀ value ∈ part.get record, ∀ target, Reads (field.merge depth wireType target)
      (element value) (part.set (part.get target ++ [value]) target) := by
    intro value member
    apply adds
    have bound := length_le_of_mem_flatMap
      (fun value => writeKey field.number wireType ++ element value) member
    rw [List.length_append] at bound
    omega
  have occurs := occurs_each lawful addsEach before
  rwa [unset, List.nil_append] at occurs

theorem carries_repeated {codec : ScalarCodec α} {part : Part ρ (List α)}
    (faithful : codec.Faithful) (unset : part.get before = []) (lawful : part.Lawful) :
    (repeated number name codec part).Carries depth record before
      (part.set (part.get record) before) :=
  carries_each lawful unset rfl fun _ fits target =>
    (ScalarCodec.reads_occurrence faithful fits).map
      (fun value => part.set (part.get target ++ [value]) target)

/-- Packed numbers are read one after the other, up to the end of their block. -/
theorem readPacked_write {codec : ScalarCodec α} (faithful : codec.Faithful)
    (someBytes : ∀ value, codec.write value ≠ []) {values : List α}
    (fits : (values.flatMap codec.write).length < 2 ^ 64) (rest : Bytes) {count : Nat}
    (enough : (values.flatMap codec.write).length ≤ count) (known : List α) :
    readPacked codec rest.length count known
        (Cursor.start (values.flatMap codec.write ++ rest)) =
      .ok (known ++ values, Cursor.start rest) := by
  induction values generalizing count known with
  | nil =>
    rw [List.append_nil]
    cases count with
    | zero => rfl
    | succ count =>
      change (if rest.length ≤ rest.length then _ else _ : Read (List α)) _ = _
      rw [if_pos (Nat.le_refl _)]
      rfl
  | cons first others inductionHypothesis =>
    have nonempty := List.length_pos_iff.2 (someBytes first)
    rw [List.flatMap_cons, List.length_append] at fits enough
    obtain ⟨count, rfl⟩ : ∃ fewer, count = fewer + 1 := ⟨count - 1, by omega⟩
    rw [List.flatMap_cons, List.append_assoc]
    change (if (codec.write first ++ (others.flatMap codec.write ++ rest)).length ≤ rest.length
      then _ else _ : Read (List α)) _ = _
    rw [if_neg (by simp only [List.length_append]; omega)]
    change (codec.read (Cursor.start _) >>= fun found => readPacked codec rest.length count
      (known ++ [found.1]) found.2) = _
    rw [faithful first (by omega)]
    refine (inductionHypothesis (by omega) (by omega) _).trans ?_
    rw [List.append_assoc]
    rfl

theorem carries_packed {codec : ScalarCodec α} {part : Part ρ (List α)}
    (faithful : codec.Faithful) (someBytes : ∀ value, codec.write value ≠ [])
    (unset : part.get before = []) (same : part.set (part.get before) before = before) :
    (packed number name codec part).Carries depth record before
      (part.set (part.get record) before) := by
  intro fits
  unfold packed at fits ⊢
  cases present : part.get record with
  | nil =>
    simp only [present]
    rw [← unset, same]
    exact .none before
  | cons first others =>
    simp only [present, writeLengthPrefixed, List.length_append] at fits ⊢
    refine .once .lengthDelimited ?_
    simp only [if_true]
    rw [unset]
    exact reads_block (by omega) (fun limit count => readPacked codec limit count [])
      (fun values => part.set values before)
      fun rest => readPacked_write faithful someBytes (by omega) rest (Nat.le_refl _) []

end FieldCodec

/-! ### Records -/

namespace RecordCodec

open FieldCodec

variable {codec : RecordCodec ρ} {field : FieldCodec ρ} {depth levels : Nat} {record before middle
  after : ρ} {bytes payload following : Bytes}

/-- What is written of the fields of one record takes one record to another. -/
inductive Carries (depth : Nat) (record : ρ) : List (FieldCodec ρ) → ρ → ρ → Prop
  | nil {before : ρ} : Carries depth record [] before before
  | cons {field : FieldCodec ρ} {fields : List (FieldCodec ρ)} {before middle after : ρ}
      (first : field.Carries depth record before middle)
      (rest : Carries depth record fields middle after) :
      Carries depth record (field :: fields) before after

/-- Fields have numbers of their own, and everything that is written of a record is carried over to
the blank one, if records may be nested to the given number of levels. -/
structure Faithful (codec : RecordCodec ρ) (levels : Nat) : Prop where
  distinct : (codec.fields.map FieldCodec.number).Nodup
  numbers : ∀ field ∈ codec.fields, 0 < field.number ∧ field.number < 2 ^ 29
  carries : ∀ record depth, levels ≤ depth →
    Carries depth record codec.fields codec.blank record

/-- The bytes are read as fields, which take one record to another. -/
def Merges (codec : RecordCodec ρ) (depth : Nat) (bytes : Bytes) (before after : ρ) : Prop :=
  ∀ rest count, bytes.length ≤ count →
    codec.mergeFields depth rest.length count before (Cursor.start (bytes ++ rest)) =
      .ok (after, Cursor.start rest)

theorem merges_nil (record : ρ) : codec.Merges depth [] record record := by
  intro rest count _
  cases count with
  | zero => rfl
  | succ count =>
    change (if rest.length ≤ rest.length then _ else _ : Read ρ) _ = _
    rw [if_pos (Nat.le_refl _)]
    rfl

theorem find?_number {fields : List (FieldCodec ρ)}
    (distinct : (fields.map FieldCodec.number).Nodup) (member : field ∈ fields) :
    fields.find? (fun found => found.number == field.number) = some field := by
  induction fields with
  | nil => cases member
  | cons first rest inductionHypothesis =>
    obtain ⟨notLater, restDistinct⟩ := List.nodup_cons.1 distinct
    rcases List.mem_cons.1 member with rfl | later
    · exact List.find?_cons_of_pos (beq_self_eq_true _)
    · have different : first.number ≠ field.number := by
        intro same
        rw [same] at notLater
        exact notLater (List.mem_map_of_mem later)
      rw [List.find?_cons_of_neg (by simpa using different)]
      exact inductionHypothesis restDistinct later

theorem Faithful.reads_mergeField (faithful : codec.Faithful levels) (member : field ∈ codec.fields)
    {wireType : WireType} (reads : Reads (field.merge depth wireType before) payload after) :
    Reads (codec.mergeField depth field.number wireType before) payload after := by
  intro rest
  unfold mergeField
  rw [find?_number faithful.distinct member]
  simp only [reads rest]

theorem Faithful.merges_next (faithful : codec.Faithful levels) (member : field ∈ codec.fields)
    {wireType : WireType} (reads : Reads (field.merge depth wireType before) payload middle)
    (merges : codec.Merges depth following middle after) :
    codec.Merges depth (writeKey field.number wireType ++ payload ++ following) before after := by
  intro rest count enough
  have someKey : 0 < (writeKey field.number wireType).length :=
    List.length_pos_iff.2 (writeVarint_ne_nil _)
  simp only [List.length_append] at enough
  obtain ⟨count, rfl⟩ : ∃ fewer, count = fewer + 1 := ⟨count - 1, by omega⟩
  obtain ⟨positive, bound⟩ := faithful.numbers field member
  simp only [List.append_assoc]
  change (if (writeKey field.number wireType ++ (payload ++ (following ++ rest))).length ≤
    rest.length then _ else _ : Read ρ) _ = _
  rw [if_neg (by simp only [List.length_append]; omega)]
  change (Read.key (Cursor.start _) >>= fun key =>
    (codec.mergeField depth key.1.1 key.1.2 before key.2 >>= fun found =>
      codec.mergeFields depth rest.length count found.1 found.2)) = _
  rw [reads_key positive bound]
  change (codec.mergeField depth field.number wireType before (Cursor.start _) >>= fun found =>
    codec.mergeFields depth rest.length count found.1 found.2) = _
  rw [faithful.reads_mergeField member reads]
  exact merges rest count (by omega)

theorem Faithful.merges_occurs (faithful : codec.Faithful levels) (member : field ∈ codec.fields)
    (occurs : field.Occurs depth bytes before middle)
    (merges : codec.Merges depth following middle after) :
    codec.Merges depth (bytes ++ following) before after := by
  induction occurs with
  | none => exact merges
  | next wireType reads _ inductionHypothesis =>
    rw [List.append_assoc]
    exact faithful.merges_next member reads (inductionHypothesis merges)

/-- Fields that are carried over are read, one after the other. -/
theorem Faithful.merges_carries (faithful : codec.Faithful levels)
    {fields : List (FieldCodec ρ)} (members : fields ⊆ codec.fields)
    (carries : Carries depth record fields before after)
    (fits : (fields.flatMap (fun field => field.write record)).length < 2 ^ 64) :
    codec.Merges depth (fields.flatMap (fun field => field.write record)) before after := by
  induction carries with
  | nil => exact merges_nil _
  | cons first _ inductionHypothesis =>
    obtain ⟨member, others⟩ := List.cons_subset.1 members
    rw [List.flatMap_cons, List.length_append] at fits
    exact faithful.merges_occurs member (first (by omega))
      (inductionHypothesis others (by omega))

theorem Faithful.merges (faithful : codec.Faithful levels) (deep : levels ≤ depth)
    (fits : (codec.write record).length < 2 ^ 64) :
    codec.Merges depth (codec.write record) codec.blank record :=
  faithful.merges_carries (List.Subset.refl _) (faithful.carries record depth deep) fits

/-- A record is read back from its bytes. -/
theorem Faithful.read_write (faithful : codec.Faithful levels) (deep : levels ≤ maxDepth)
    (fits : (codec.write record).length < 2 ^ 64) :
    codec.read (codec.write record) = .ok record := by
  have merged := faithful.merges deep fits [] _ (Nat.le_refl _)
  rw [List.append_nil, List.length_nil] at merged
  unfold read
  rw [merged]
  rfl

theorem Faithful.decode_write (faithful : codec.Faithful levels) (deep : levels ≤ maxDepth)
    (fits : (codec.write record).length < 2 ^ 64) :
    codec.decode (codec.write record) = .ok record := by
  unfold decode
  rw [faithful.read_write deep fits]
  rfl

theorem Faithful.reads_mergeNested (faithful : codec.Faithful levels) (deep : levels < depth)
    (fits : (writeLengthPrefixed (codec.write record)).length < 2 ^ 64) :
    Reads (codec.mergeNested depth .lengthDelimited codec.blank)
      (writeLengthPrefixed (codec.write record)) record := by
  obtain ⟨depth, rfl⟩ : ∃ above, depth = above + 1 := ⟨depth - 1, by omega⟩
  rw [writeLengthPrefixed, List.length_append] at fits
  exact Reads.expect .lengthDelimited <| reads_block (by omega)
    (fun limit count => codec.mergeFields depth limit count codec.blank) id
    fun rest => faithful.merges (by omega) (by omega) rest _ (Nat.le_refl _)

end RecordCodec

namespace FieldCodec

variable {depth number levels : Nat} {name : String} {record before : ρ}

theorem carries_nested {codec : RecordCodec β} {part : Part ρ (Option β)}
    (faithful : codec.Faithful levels) (deep : levels < depth) (unset : part.get before = none)
    (same : part.set (part.get before) before = before) :
    (nested number name codec part).Carries depth record before
      (part.set (part.get record) before) := by
  intro fits
  unfold nested at fits ⊢
  cases present : part.get record with
  | none =>
    simp only [present]
    rw [← unset, same]
    exact .none before
  | some value =>
    simp only [present, List.length_append] at fits ⊢
    refine .once .lengthDelimited ?_
    simp only [unset, Option.getD_none]
    exact (faithful.reads_mergeNested deep (by omega)).map
      (fun value => part.set (some value) before)

theorem carries_repeatedNested {codec : RecordCodec β} {part : Part ρ (List β)}
    (faithful : codec.Faithful levels) (deep : levels < depth) (unset : part.get before = [])
    (lawful : part.Lawful) :
    (repeatedNested number name codec part).Carries depth record before
      (part.set (part.get record) before) :=
  carries_each lawful unset rfl fun _ fits target =>
    (faithful.reads_mergeNested deep fits).map
      (fun value => part.set (part.get target ++ [value]) target)

end FieldCodec

end Wire

end RatchetMessaging
