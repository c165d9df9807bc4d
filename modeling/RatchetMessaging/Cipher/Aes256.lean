import RatchetMessaging.Bytes

/-!
Contract: the AES-256 permutation of one block of sixteen bytes.

Owns: the substitution table, built from inversion in the field of 256 elements, the
key schedule, and the fourteen rounds on four columns of thirty-two bits.

Does not own: any mode of operation. Only encryption is needed.
-/

namespace RatchetMessaging.Cipher.Aes256

/-- Multiplication by `x` modulo `x^8 + x^4 + x^3 + x + 1`. -/
def double (value : UInt8) : UInt8 :=
  (value <<< 1) ^^^ (if value &&& 0x80 = 0 then 0 else 0x1b)

/-- Multiplication in the field of 256 elements, over `count` bits of the second
factor. -/
def multiply : (count : Nat) → UInt8 → UInt8 → UInt8
  | 0, _, _ => 0
  | count + 1, left, right =>
    (if right &&& 1 = 0 then 0 else left) ^^^ multiply count (double left) (right >>> 1)

/-- The square of a field element. -/
def square (value : UInt8) : UInt8 := multiply 8 value value

/-- The inverse of a field element is its 254th power; zero has itself. -/
def invert (value : UInt8) : UInt8 :=
  let second := square value
  let fourth := square second
  let eighth := square fourth
  let sixteenth := square eighth
  let upper := square sixteenth
  let top := square upper
  let whole := square top
  [second, fourth, eighth, sixteenth, upper, top, whole].foldl (multiply 8) 1

/-- Rotation of a byte to the left. -/
def rotateByte (value amount : UInt8) : UInt8 :=
  (value <<< amount) ||| (value >>> (8 - amount))

/-- The substitution of one byte: inversion, then an affine map. -/
def substitute (value : UInt8) : UInt8 :=
  let inverse := invert value
  inverse ^^^ rotateByte inverse 1 ^^^ rotateByte inverse 2 ^^^ rotateByte inverse 3 ^^^
    rotateByte inverse 4 ^^^ 0x63

/-- The substitution of every byte. -/
def substitutionTable : Array UInt8 :=
  (Array.range 256).map (fun value => substitute (UInt8.ofNat value))

/-- The substitution of a byte, read from the table. -/
def lookup (value : UInt8) : UInt32 := (substitutionTable.getD value.toNat 0).toUInt32

/-- Substitute the four bytes of a word that is put together from bytes of four
words. -/
def substituteAcross (first second third fourth : UInt32) : UInt32 :=
  (lookup (first >>> 24).toUInt8 <<< 24) ||| (lookup (second >>> 16).toUInt8 <<< 16) |||
    (lookup (third >>> 8).toUInt8 <<< 8) ||| lookup fourth.toUInt8

/-- Substitute the four bytes of a word. -/
def substituteWord (word : UInt32) : UInt32 := substituteAcross word word word word

/-- Rotation of a word to the left. -/
def rotateWord (word amount : UInt32) : UInt32 :=
  (word <<< amount) ||| (word >>> (32 - amount))

/-- Append `count` words to the key schedule. -/
def expandKey : (count : Nat) → (factor : UInt8) → Array UInt32 → Array UInt32
  | 0, _, schedule => schedule
  | count + 1, factor, schedule =>
    let size := schedule.size
    let previous := schedule.getD (size - 1) 0
    let earlier := schedule.getD (size - 8) 0
    if size % 8 = 0 then
      let mixed := substituteWord (rotateWord previous 8) ^^^ (factor.toUInt32 <<< 24)
      expandKey count (double factor) (schedule.push (earlier ^^^ mixed))
    else if size % 8 = 4 then
      expandKey count factor (schedule.push (earlier ^^^ substituteWord previous))
    else
      expandKey count factor (schedule.push (earlier ^^^ previous))

/-- The words of a byte string, four bytes each. -/
def words : Bytes → Array UInt32 → Array UInt32
  | first :: second :: third :: fourth :: rest, read =>
    words rest (read.push (wordOfBytes first second third fourth))
  | _, read => read

/-- The sixty words of the key schedule. -/
def keySchedule (key : FixedBytes 32) : Array UInt32 :=
  expandKey 52 1 (words key.toBytes #[])

/-- The four columns of a block. -/
structure Columns where
  (first second third fourth : UInt32)

/-- Add the four schedule words of one round. -/
def addRoundKey (schedule : Array UInt32) (round : Nat) (columns : Columns) : Columns where
  first := columns.first ^^^ schedule.getD (4 * round) 0
  second := columns.second ^^^ schedule.getD (4 * round + 1) 0
  third := columns.third ^^^ schedule.getD (4 * round + 2) 0
  fourth := columns.fourth ^^^ schedule.getD (4 * round + 3) 0

/-- Substitute every byte and rotate the rows. -/
def substituteAndShift (columns : Columns) : Columns where
  first := substituteAcross columns.first columns.second columns.third columns.fourth
  second := substituteAcross columns.second columns.third columns.fourth columns.first
  third := substituteAcross columns.third columns.fourth columns.first columns.second
  fourth := substituteAcross columns.fourth columns.first columns.second columns.third

/-- Multiplication of the four bytes of a column by `x`. -/
def doubleColumn (column : UInt32) : UInt32 :=
  ((column &&& 0x7f7f7f7f) <<< 1) ^^^ (((column >>> 7) &&& 0x01010101) * 0x1b)

/-- Mix one column. -/
def mixColumn (column : UInt32) : UInt32 :=
  let doubled := doubleColumn column
  doubled ^^^ rotateWord (column ^^^ doubled) 8 ^^^ rotateWord column 16 ^^^ rotateWord column 24

/-- Mix all columns. -/
def mixColumns (columns : Columns) : Columns where
  first := mixColumn columns.first
  second := mixColumn columns.second
  third := mixColumn columns.third
  fourth := mixColumn columns.fourth

/-- The full rounds from round `round` on. -/
def fullRounds (schedule : Array UInt32) : (count : Nat) → (round : Nat) → Columns → Columns
  | 0, _, columns => columns
  | count + 1, round, columns =>
    fullRounds schedule count (round + 1)
      (addRoundKey schedule round (mixColumns (substituteAndShift columns)))

/-- Encrypt one block under an expanded key. -/
def encryptBlock (schedule : Array UInt32) (block : Bytes) : FixedBytes 16 :=
  let read := words block #[]
  let start := addRoundKey schedule 0
    ⟨read.getD 0 0, read.getD 1 0, read.getD 2 0, read.getD 3 0⟩
  let last := addRoundKey schedule 14 (substituteAndShift (fullRounds schedule 13 1 start))
  { toBytes :=
      wordToBytes last.first ++ wordToBytes last.second ++ wordToBytes last.third ++
        wordToBytes last.fourth
    length_eq := by simp }

end RatchetMessaging.Cipher.Aes256
