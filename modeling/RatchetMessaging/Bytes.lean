/-!
Contract: byte strings, byte strings of a known length, and the big-endian and
little-endian readings of words.

Owns:
- `Bytes`, the byte strings that every other module exchanges;
- `FixedBytes`, whose length is part of the type, so that a key or a nonce of the
  wrong size cannot be written down;
- the conversions between words and bytes, with their length laws.

Does not own: hexadecimal and Base64 text, or the variable-length integers of the
record format.
-/

namespace RatchetMessaging

/-- A byte string. -/
abbrev Bytes := List UInt8

namespace Bytes

/-- The UTF-8 encoding of a text. -/
def ofText (text : String) : Bytes := text.toUTF8.toList

/-- The unsigned number whose most significant byte comes first. -/
def toNatBE (bytes : Bytes) : Nat :=
  bytes.foldl (fun value byte => value * 256 + byte.toNat) 0

/-- The unsigned number whose least significant byte comes first. -/
def toNatLE (bytes : Bytes) : Nat :=
  bytes.reverse.foldl (fun value byte => value * 256 + byte.toNat) 0

/-- The lowest `count` bytes of a number, least significant first. -/
def ofNatLE : (count : Nat) → Nat → Bytes
  | 0, _ => []
  | count + 1, value => UInt8.ofNat (value % 256) :: ofNatLE count (value / 256)

/-- The lowest `count` bytes of a number, most significant first. -/
def ofNatBE (count value : Nat) : Bytes := (ofNatLE count value).reverse

@[simp] theorem ofNatLE_length (count value : Nat) : (ofNatLE count value).length = count := by
  induction count generalizing value with
  | zero => rfl
  | succ count inductionHypothesis => simp [ofNatLE, inductionHypothesis]

@[simp] theorem ofNatBE_length (count value : Nat) : (ofNatBE count value).length = count := by
  simp [ofNatBE]

/-- Bytewise exclusive or of the common part of two byte strings. -/
def xor (left right : Bytes) : Bytes :=
  List.zipWith (fun first second => first ^^^ second) left right

/-- Whether every byte is zero. -/
def isZero (bytes : Bytes) : Bool := bytes.all (fun byte => byte == 0)

end Bytes

/-- A byte string of exactly `size` bytes. -/
structure FixedBytes (size : Nat) where
  toBytes : Bytes
  length_eq : toBytes.length = size
deriving DecidableEq

namespace FixedBytes

variable {size : Nat}

@[ext] theorem ext {left right : FixedBytes size} (same : left.toBytes = right.toBytes) :
    left = right := by
  cases left
  cases right
  cases same
  rfl

@[simp] theorem length_toBytes (value : FixedBytes size) : value.toBytes.length = size :=
  value.length_eq

/-- Accept a byte string of the right length and no other. -/
def ofBytes? (size : Nat) (bytes : Bytes) : Option (FixedBytes size) :=
  if sized : bytes.length = size then some ⟨bytes, sized⟩ else none

@[simp] theorem ofBytes?_toBytes (value : FixedBytes size) :
    ofBytes? size value.toBytes = some value := by
  simp [ofBytes?]

theorem ofBytes?_eq_some_iff {bytes : Bytes} {value : FixedBytes size} :
    ofBytes? size bytes = some value ↔ value.toBytes = bytes := by
  constructor
  · intro accepted
    unfold ofBytes? at accepted
    split at accepted
    · cases accepted
      rfl
    · cases accepted
  · rintro rfl
    exact ofBytes?_toBytes value

theorem ofBytes?_eq_none_iff {bytes : Bytes} :
    ofBytes? size bytes = none ↔ bytes.length ≠ size := by
  simp [ofBytes?]

/-- Cut or zero-fill a byte string to the wanted length. -/
def fit (size : Nat) (bytes : Bytes) : FixedBytes size where
  toBytes := bytes.take size ++ List.replicate (size - bytes.length) 0
  length_eq := by
    simp only [List.length_append, List.length_take, List.length_replicate]
    omega

/-- The same byte repeated. -/
def replicate (size : Nat) (byte : UInt8) : FixedBytes size where
  toBytes := List.replicate size byte
  length_eq := List.length_replicate

/-- Two fixed parts one after the other. -/
def append {first second : Nat} (left : FixedBytes first) (right : FixedBytes second) :
    FixedBytes (first + second) where
  toBytes := left.toBytes ++ right.toBytes
  length_eq := by simp

/-- The first `first` bytes of a value of `first + second` bytes. -/
def left {first second : Nat} (value : FixedBytes (first + second)) : FixedBytes first where
  toBytes := value.toBytes.take first
  length_eq := by simp

/-- The bytes of a value of `first + second` bytes after the first `first`. -/
def right {first second : Nat} (value : FixedBytes (first + second)) : FixedBytes second where
  toBytes := value.toBytes.drop first
  length_eq := by simp

/-- The lowest bytes of a number, least significant first. -/
def ofNatLE (size value : Nat) : FixedBytes size where
  toBytes := Bytes.ofNatLE size value
  length_eq := Bytes.ofNatLE_length size value

end FixedBytes

/-- Four bytes, most significant first. -/
def wordToBytes (word : UInt32) : Bytes :=
  [(word >>> 24).toUInt8, (word >>> 16).toUInt8, (word >>> 8).toUInt8, word.toUInt8]

@[simp] theorem wordToBytes_length (word : UInt32) : (wordToBytes word).length = 4 := rfl

/-- The word whose most significant byte is `first`. -/
def wordOfBytes (first second third fourth : UInt8) : UInt32 :=
  (first.toUInt32 <<< 24) ||| (second.toUInt32 <<< 16) ||| (third.toUInt32 <<< 8) |||
    fourth.toUInt32

end RatchetMessaging
