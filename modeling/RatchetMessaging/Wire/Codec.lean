import RatchetMessaging.Wire.Cursor
import RatchetMessaging.Wire.Tree

/-!
Contract: records as lists of fields, written and read.

Owns:
- `FieldCodec`, how one field of a record is written, and how one occurrence of it on the
  wire changes the record read so far;
- the kinds of fields: plain ones that are left out at their default, optional ones that
  are always written when present, nested records that merge when they occur twice,
  repeated ones, and repeated numbers in one packed block;
- `RecordCodec`, which writes the fields in order and reads them in any order, skipping
  those it does not know;
- the tree of a record, and the record of a tree.

Does not own: the records of the protocol.
-/

namespace RatchetMessaging.Wire

/-- A part of a record that can be looked at and replaced. -/
structure Part (ρ α : Type) where
  get : ρ → α
  set : α → ρ → ρ

/-- How one field of a record is written and read. -/
structure FieldCodec (ρ : Type) where
  number : Nat
  name : String
  /-- What the field contributes to the written record. -/
  write : ρ → Bytes
  /-- What one occurrence of the field does to the record read so far. -/
  merge : (depth : Nat) → WireType → ρ → Read ρ
  schema : Schema
  /-- The tree of the field. -/
  view : ρ → Tree
  /-- Set the field to what a tree shows. -/
  fill : Tree → ρ → Option ρ

/-- How a plain value is written and read. -/
structure ScalarCodec (α : Type) where
  wireType : WireType
  default : α
  write : α → Bytes
  read : Read α
  schema : Schema
  view : α → Tree
  parse : Tree → Option α

namespace ScalarCodec

/-- Numbers of thirty-two bits. Reading keeps the lowest thirty-two bits. -/
def word : ScalarCodec UInt32 where
  wireType := .varint
  default := 0
  write value := writeVarint value.toNat
  read := do return UInt32.ofNat (← Read.varint)
  schema := .word
  view := .word
  parse
    | .word value => some value
    | _ => none

/-- Numbers of sixty-four bits. -/
def longWord : ScalarCodec UInt64 where
  wireType := .varint
  default := 0
  write value := writeVarint value.toNat
  read := do return UInt64.ofNat (← Read.varint)
  schema := .longWord
  view := .longWord
  parse
    | .longWord value => some value
    | _ => none

/-- Truth values. Every number but zero reads as true. -/
def truth : ScalarCodec Bool where
  wireType := .varint
  default := false
  write value := writeVarint value.toNat
  read := do return (← Read.varint) != 0
  schema := .truth
  view := .truth
  parse
    | .truth value => some value
    | _ => none

/-- Byte strings. -/
def bytes : ScalarCodec Bytes where
  wireType := .lengthDelimited
  default := []
  write := writeLengthPrefixed
  read := Read.lengthPrefixed
  schema := .bytes
  view := .bytes
  parse
    | .bytes value => some value
    | _ => none

/-- Read text from its UTF-8 encoding. -/
def readText (bytes : Bytes) : Read String :=
  match String.fromUTF8? ⟨bytes.toArray⟩ with
  | some text => pure text
  | none => Read.refuse .invalidText

/-- Texts. -/
def text : ScalarCodec String where
  wireType := .lengthDelimited
  default := ""
  write value := writeLengthPrefixed (Bytes.ofText value)
  read := do readText (← Read.lengthPrefixed)
  schema := .text
  view := .text
  parse
    | .text value => some value
    | _ => none

/-- Read one occurrence of a plain value. -/
def occurrence {α : Type} (codec : ScalarCodec α) (found : WireType) : Read α := do
  Read.expect codec.wireType found
  codec.read

end ScalarCodec

/-- How a record is written and read. -/
structure RecordCodec (ρ : Type) where
  name : String
  /-- The record of which nothing has been read yet. -/
  blank : ρ
  /-- The fields in the order of their numbers. -/
  fields : List (FieldCodec ρ)

namespace RecordCodec

variable {ρ : Type}

/-- Write the fields in order. -/
def write (codec : RecordCodec ρ) (record : ρ) : Bytes :=
  codec.fields.flatMap (fun field => field.write record)

/-- Read one field behind its key. -/
def mergeField (codec : RecordCodec ρ) (depth number : Nat) (wireType : WireType) (record : ρ) :
    Read ρ :=
  match codec.fields.find? (fun field => field.number == number) with
  | none => do
    Read.skipField depth number wireType
    return record
  | some field => fun cursor =>
    match field.merge depth wireType record cursor with
    | .ok result => .ok result
    | .error refusal => .error (refusal.inside codec.name field.name)

/-- Read fields until only `limit` bytes are unread; `count` bounds the fields. -/
def mergeFields (codec : RecordCodec ρ) (depth limit : Nat) : (count : Nat) → ρ → Read ρ
  | 0, record => pure record
  | count + 1, record => do
    if (← Read.remaining) ≤ limit then
      return record
    else
      let (number, wireType) ← Read.key
      let record ← codec.mergeField depth number wireType record
      mergeFields codec depth limit count record

/-- Read a nested record into what was read of it before. -/
def mergeNested (codec : RecordCodec ρ) (depth : Nat) (found : WireType) (record : ρ) :
    Read ρ := do
  Read.expect .lengthDelimited found
  match depth with
  | 0 => Read.refuse .recursionLimit
  | depth + 1 =>
    let length ← Read.varint
    let available ← Read.remaining
    if available < length then
      Read.refuse .bufferUnderflow
    else
      let record ← codec.mergeFields depth (available - length) length record
      if (← Read.remaining) = available - length then
        return record
      else
        Read.refuse .delimitedLengthExceeded

/-- How deeply records and groups may be nested. -/
def maxDepth : Nat := 100

/-- Read a whole record. -/
def read (codec : RecordCodec ρ) (bytes : Bytes) : Except Refusal ρ :=
  (codec.mergeFields maxDepth 0 bytes.length codec.blank (Cursor.start bytes)).map Prod.fst

/-- Read a whole record, as a step of the engine. -/
def decode (codec : RecordCodec ρ) (bytes : Bytes) : Except Error ρ :=
  (codec.read bytes).mapError Refusal.toError

/-- What trees a record can have. -/
def schema (codec : RecordCodec ρ) : Schema :=
  .record (codec.fields.map (fun field => (field.name, field.schema)))

/-- The tree of a record. -/
def view (codec : RecordCodec ρ) (record : ρ) : Tree :=
  .record (codec.fields.map (fun field => (field.name, field.view record)))

/-- Set a field to what a tree shows; a field that is not there keeps its value. -/
def fillField (tree : Tree) (record : ρ) (field : FieldCodec ρ) : Option ρ :=
  match tree.part field.name with
  | .absent => some record
  | part => field.fill part record

/-- The record of a tree. -/
def parse (codec : RecordCodec ρ) (tree : Tree) : Option ρ :=
  codec.fields.foldlM (fillField tree) codec.blank

end RecordCodec

namespace FieldCodec

variable {ρ α β : Type}

/-- A plain field. It is left out at its default, and its last occurrence counts. -/
def plain [DecidableEq α] (number : Nat) (name : String) (codec : ScalarCodec α)
    (part : Part ρ α) : FieldCodec ρ where
  number := number
  name := name
  write record :=
    if part.get record = codec.default then []
    else writeKey number codec.wireType ++ codec.write (part.get record)
  merge _ found record := do
    let value ← codec.occurrence found
    return part.set value record
  schema := codec.schema
  view record := codec.view (part.get record)
  fill tree record := (codec.parse tree).map (fun value => part.set value record)

/-- An optional field. It is written whenever it is present. -/
def optional (number : Nat) (name : String) (codec : ScalarCodec α)
    (part : Part ρ (Option α)) : FieldCodec ρ where
  number := number
  name := name
  write record :=
    match part.get record with
    | none => []
    | some value => writeKey number codec.wireType ++ codec.write value
  merge _ found record := do
    let value ← codec.occurrence found
    return part.set (some value) record
  schema := codec.schema
  view record := Tree.ofOption codec.view (part.get record)
  fill tree record := (codec.parse tree).map (fun value => part.set (some value) record)

/-- A repeated field: every occurrence adds one element. -/
def repeated (number : Nat) (name : String) (codec : ScalarCodec α)
    (part : Part ρ (List α)) : FieldCodec ρ where
  number := number
  name := name
  write record :=
    (part.get record).flatMap (fun value => writeKey number codec.wireType ++ codec.write value)
  merge _ found record := do
    let value ← codec.occurrence found
    return part.set (part.get record ++ [value]) record
  schema := .list codec.schema
  view record := .ofList codec.view (part.get record)
  fill tree record :=
    (tree.elementsWith? codec.parse).map (fun values => part.set values record)

/-- Read packed numbers until only `limit` bytes are unread; `count` bounds them. -/
def readPacked (codec : ScalarCodec α) (limit : Nat) : (count : Nat) → List α → Read (List α)
  | 0, values => pure values
  | count + 1, values => do
    if (← Read.remaining) ≤ limit then
      return values
    else
      let value ← codec.read
      readPacked codec limit count (values ++ [value])

/-- A repeated number, written in one block and read from blocks and from single
occurrences alike. -/
def packed (number : Nat) (name : String) (codec : ScalarCodec α)
    (part : Part ρ (List α)) : FieldCodec ρ where
  number := number
  name := name
  write record :=
    match part.get record with
    | [] => []
    | values =>
      writeKey number .lengthDelimited ++ writeLengthPrefixed (values.flatMap codec.write)
  merge _ found record :=
    if found = .lengthDelimited then do
      let length ← Read.varint
      let available ← Read.remaining
      if available < length then
        Read.refuse .bufferUnderflow
      else
        let values ← readPacked codec (available - length) length (part.get record)
        if (← Read.remaining) = available - length then
          return part.set values record
        else
          Read.refuse .delimitedLengthExceeded
    else do
      let value ← codec.occurrence found
      return part.set (part.get record ++ [value]) record
  schema := .list codec.schema
  view record := .ofList codec.view (part.get record)
  fill tree record :=
    (tree.elementsWith? codec.parse).map (fun values => part.set values record)

/-- A nested record that may be absent. Occurrences merge into one. -/
def nested (number : Nat) (name : String) (codec : RecordCodec β)
    (part : Part ρ (Option β)) : FieldCodec ρ where
  number := number
  name := name
  write record :=
    match part.get record with
    | none => []
    | some value => writeKey number .lengthDelimited ++ writeLengthPrefixed (codec.write value)
  merge depth found record := do
    let value ← codec.mergeNested depth found ((part.get record).getD codec.blank)
    return part.set (some value) record
  schema := codec.schema
  view record := Tree.ofOption codec.view (part.get record)
  fill tree record := (codec.parse tree).map (fun value => part.set (some value) record)

/-- A repeated nested record: every occurrence adds one element. -/
def repeatedNested (number : Nat) (name : String) (codec : RecordCodec β)
    (part : Part ρ (List β)) : FieldCodec ρ where
  number := number
  name := name
  write record :=
    (part.get record).flatMap (fun value =>
      writeKey number .lengthDelimited ++ writeLengthPrefixed (codec.write value))
  merge depth found record := do
    let value ← codec.mergeNested depth found codec.blank
    return part.set (part.get record ++ [value]) record
  schema := .list codec.schema
  view record := .ofList codec.view (part.get record)
  fill tree record :=
    (tree.elementsWith? codec.parse).map (fun values => part.set values record)

end FieldCodec

end RatchetMessaging.Wire
