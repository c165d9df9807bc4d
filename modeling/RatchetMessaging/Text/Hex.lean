import RatchetMessaging.Bytes

/-!
Contract: bytes as lower-case hexadecimal text, two digits for each byte, and back.
-/

namespace RatchetMessaging.Text

/-- The lower-case digit for a value below sixteen. -/
def hexDigit (value : UInt8) : Char :=
  if value < 10 then Char.ofNat (48 + value.toNat) else Char.ofNat (87 + value.toNat)

/-- The two digits of every byte, in order. -/
def hex (bytes : Bytes) : String :=
  String.ofList
    (bytes.flatMap (fun (byte : UInt8) => [hexDigit (byte >>> 4), hexDigit (byte &&& 15)]))

/-- The value of a lower-case digit. -/
def hexValue? (digit : Char) : Option UInt8 :=
  if '0' ≤ digit ∧ digit ≤ '9' then some (UInt8.ofNat (digit.toNat - 48))
  else if 'a' ≤ digit ∧ digit ≤ 'f' then some (UInt8.ofNat (digit.toNat - 87))
  else none

/-- Read digits behind the bytes read so far, which stand in reverse order. -/
def readHex : List Char → Bytes → Option Bytes
  | [], bytes => some bytes.reverse
  | [_], _ => none
  | first :: second :: rest, bytes =>
    match hexValue? first, hexValue? second with
    | some high, some low => readHex rest ((high <<< 4 ||| low) :: bytes)
    | _, _ => none

/-- The bytes of lower-case hexadecimal digits. -/
def unhex? (digits : List Char) : Option Bytes := readHex digits []

end RatchetMessaging.Text
