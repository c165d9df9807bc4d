import RatchetMessaging.Bytes

/-!
Contract: bytes as Base64 text with the standard alphabet and padding.

Owns: the writer. Three bytes become four digits of six bits; a rest of one or two
bytes is filled up with equals signs.
-/

namespace RatchetMessaging.Text

/-- The digit for a six-bit value. -/
def base64Digit (value : UInt32) : Char :=
  let digit := value.toNat % 64
  if digit < 26 then Char.ofNat (65 + digit)
  else if digit < 52 then Char.ofNat (97 + (digit - 26))
  else if digit < 62 then Char.ofNat (48 + (digit - 52))
  else if digit = 62 then '+'
  else '/'

/-- The digits of a byte string, three bytes at a time. -/
def base64Digits : Bytes → List Char
  | [] => []
  | [first] =>
    let word := wordOfBytes 0 first 0 0
    [base64Digit (word >>> 18), base64Digit (word >>> 12), '=', '=']
  | [first, second] =>
    let word := wordOfBytes 0 first second 0
    [base64Digit (word >>> 18), base64Digit (word >>> 12), base64Digit (word >>> 6), '=']
  | first :: second :: third :: rest =>
    let word := wordOfBytes 0 first second third
    base64Digit (word >>> 18) :: base64Digit (word >>> 12) :: base64Digit (word >>> 6) ::
      base64Digit word :: base64Digits rest

/-- Base64 text of a byte string. -/
def base64 (bytes : Bytes) : String := String.ofList (base64Digits bytes)

end RatchetMessaging.Text
