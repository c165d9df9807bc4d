import RatchetMessaging.Bytes
import RatchetMessaging.Error

/-!
Contract: reading the record format, one number or byte string at a time.

Owns:
- the reasons to refuse a record, and the text of a refusal with the fields around it;
- `Cursor`, the unread bytes with their count, and `Read`, steps over a cursor;
- the variable-length numbers and the keys in front of fields.

Does not own: which fields a record has.
-/

namespace RatchetMessaging.Wire

/-- The six shapes of a field on the wire, by their numbers. -/
inductive WireType where
  | varint
  | sixtyFourBit
  | lengthDelimited
  | startGroup
  | endGroup
  | thirtyTwoBit
deriving DecidableEq, Repr

namespace WireType

/-- The number of a shape. -/
def toNat : WireType → Nat
  | .varint => 0
  | .sixtyFourBit => 1
  | .lengthDelimited => 2
  | .startGroup => 3
  | .endGroup => 4
  | .thirtyTwoBit => 5

/-- The shape with a number. -/
def ofNat? : Nat → Option WireType
  | 0 => some .varint
  | 1 => some .sixtyFourBit
  | 2 => some .lengthDelimited
  | 3 => some .startGroup
  | 4 => some .endGroup
  | 5 => some .thirtyTwoBit
  | _ => none

theorem ofNat?_toNat (wireType : WireType) : ofNat? wireType.toNat = some wireType := by
  cases wireType <;> rfl

/-- The name of a shape in refusals. -/
def name : WireType → String
  | .varint => "Varint"
  | .sixtyFourBit => "SixtyFourBit"
  | .lengthDelimited => "LengthDelimited"
  | .startGroup => "StartGroup"
  | .endGroup => "EndGroup"
  | .thirtyTwoBit => "ThirtyTwoBit"

end WireType

/-- Why bytes are no record. -/
inductive Defect where
  /-- A number has no end, is longer than ten bytes, or exceeds sixty-four bits. -/
  | invalidVarint
  /-- A key exceeds thirty-two bits. -/
  | invalidKey (key : Nat)
  /-- A key names no shape. -/
  | unknownWireType (number : Nat)
  /-- Fields are numbered from one on. -/
  | zeroFieldNumber
  /-- A known field has the wrong shape. -/
  | wrongWireType (found expected : WireType)
  /-- A length exceeds everything that is left. -/
  | bufferUnderflow
  /-- A part of a nested record reaches over the end of that record. -/
  | delimitedLengthExceeded
  /-- A text is no UTF-8. -/
  | invalidText
  /-- A group ends that did not begin. -/
  | unexpectedEndGroup
  /-- Records or groups are nested too deeply. -/
  | recursionLimit
deriving DecidableEq, Repr

namespace Defect

/-- The text of a defect. -/
def message : Defect → String
  | .invalidVarint => "invalid varint"
  | .invalidKey key => s!"invalid key value: {key}"
  | .unknownWireType number => s!"invalid wire type value: {number}"
  | .zeroFieldNumber => "invalid tag value: 0"
  | .wrongWireType found expected =>
    "invalid wire type: " ++ found.name ++ " (expected " ++ expected.name ++ ")"
  | .bufferUnderflow => "buffer underflow"
  | .delimitedLengthExceeded => "delimited length exceeded"
  | .invalidText => "invalid string value: data is not UTF-8 encoded"
  | .unexpectedEndGroup => "unexpected end group tag"
  | .recursionLimit => "recursion limit reached"

end Defect

/-- A refusal: the defect, and the fields around it, the innermost first. -/
structure Refusal where
  defect : Defect
  path : List (String × String) := []
deriving DecidableEq, Repr

namespace Refusal

/-- The text of a refusal. -/
def message (refusal : Refusal) : String :=
  "failed to decode Protobuf message: " ++
    String.join (refusal.path.map (fun place => place.1 ++ "." ++ place.2 ++ ": ")) ++
    refusal.defect.message

/-- Note that a refusal happened inside a field of a record. -/
def inside (record field : String) (refusal : Refusal) : Refusal :=
  { refusal with path := refusal.path ++ [(record, field)] }

/-- A refusal as a failure of the engine. -/
def toError (refusal : Refusal) : Error := .decode refusal.message

end Refusal

/-- The unread bytes and how many they are. -/
structure Cursor where
  bytes : Bytes
  remaining : Nat
deriving DecidableEq

namespace Cursor

/-- A cursor before the first byte. -/
def start (bytes : Bytes) : Cursor := ⟨bytes, bytes.length⟩

end Cursor

/-- Steps that read. -/
abbrev Read := StateT Cursor (Except Refusal)

namespace Read

/-- Refuse the record. -/
def refuse {α : Type} (defect : Defect) : Read α := throw { defect := defect }

/-- How many bytes are unread. -/
def remaining : Read Nat := do return (← get).remaining

/-- Read a number whose first `shift` bits are known, from at most `count` more bytes. -/
def varintFrom : (count : Nat) → (shift value : Nat) → Read Nat
  | 0, _, _ => refuse .invalidVarint
  | count + 1, shift, value => do
    let cursor ← get
    match cursor.bytes with
    | [] => refuse .invalidVarint
    | byte :: rest =>
      set (Cursor.mk rest (cursor.remaining - 1))
      let value := value + (byte.toNat % 128) * 2 ^ shift
      if 128 ≤ byte.toNat then
        varintFrom count (shift + 7) value
      else if count = 0 ∧ 2 ≤ byte.toNat then
        refuse .invalidVarint
      else
        return value

/-- Read a number of at most sixty-four bits, seven to a byte, the lowest first. -/
def varint : Read Nat := varintFrom 10 0 0

/-- Read a byte string of known length. -/
def take (length : Nat) : Read Bytes := do
  let cursor ← get
  if cursor.remaining < length then
    refuse .bufferUnderflow
  else
    set (Cursor.mk (cursor.bytes.drop length) (cursor.remaining - length))
    return cursor.bytes.take length

/-- Read a byte string behind its length. -/
def lengthPrefixed : Read Bytes := do
  let length ← varint
  take length

/-- Read the key of a field: its number and its shape. -/
def key : Read (Nat × WireType) := do
  let key ← varint
  if 4294967295 < key then
    refuse (.invalidKey key)
  else
    match WireType.ofNat? (key % 8) with
    | none => refuse (.unknownWireType (key % 8))
    | some wireType =>
      if key / 8 = 0 then refuse .zeroFieldNumber else return (key / 8, wireType)

/-- Insist on a shape. -/
def expect (expected found : WireType) : Read Unit :=
  if found = expected then pure () else refuse (.wrongWireType found expected)

/-- Skip fields up to the end of the group with the given number. -/
def skipGroup (skip : Nat → WireType → Read Unit) (number : Nat) : (count : Nat) → Read Unit
  | 0 => refuse .invalidVarint
  | count + 1 => do
    let (inner, wireType) ← key
    if wireType = .endGroup then
      if inner = number then pure () else refuse .unexpectedEndGroup
    else
      skip inner wireType
      skipGroup skip number count

/-- Skip a field that the record does not know; `depth` more nestings are allowed. -/
def skipField : (depth : Nat) → (number : Nat) → WireType → Read Unit
  | 0, _, _ => refuse .recursionLimit
  | depth + 1, number, wireType =>
    match wireType with
    | .varint => discard varint
    | .sixtyFourBit => discard (take 8)
    | .lengthDelimited => discard lengthPrefixed
    | .thirtyTwoBit => discard (take 4)
    | .startGroup => do
      let count ← remaining
      skipGroup (skipField depth) number (count + 1)
    | .endGroup => refuse .unexpectedEndGroup

end Read

/-- Write a number, seven bits to a byte, the lowest first; `count` bounds the bytes. -/
def writeVarintFrom : (count : Nat) → Nat → Bytes
  | 0, _ => []
  | count + 1, value =>
    if value < 128 then [UInt8.ofNat value]
    else UInt8.ofNat (value % 128 + 128) :: writeVarintFrom count (value / 128)

/-- Write a number of at most sixty-four bits. -/
def writeVarint (value : Nat) : Bytes := writeVarintFrom 10 value

/-- Write the key of a field. -/
def writeKey (number : Nat) (wireType : WireType) : Bytes :=
  writeVarint (number * 8 + wireType.toNat)

/-- Write a byte string behind its length. -/
def writeLengthPrefixed (bytes : Bytes) : Bytes := writeVarint bytes.length ++ bytes

end RatchetMessaging.Wire
