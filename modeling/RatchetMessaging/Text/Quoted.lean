import RatchetMessaging.Text.Unprintable

/-!
Contract: text between quotes.

Owns: the escape of each character. Quote, backslash, tabulator, line feed, carriage
return and the zero character have a two-character escape; a character without a
shape of its own is written by its number in hexadecimal between braces; all else
stands for itself.

Does not own: the reading of quoted text, which nothing here needs.
-/

namespace RatchetMessaging.Text

/-- One character as it stands between quotes. -/
def escape (character : Char) : List Char :=
  match character with
  | '\x00' => ['\\', '0']
  | '\t' => ['\\', 't']
  | '\r' => ['\\', 'r']
  | '\n' => ['\\', 'n']
  | '\\' => ['\\', '\\']
  | '"' => ['\\', '"']
  | _ =>
    if isUnprintable character then
      ['\\', 'u', '\x7b'] ++ Nat.toDigits 16 character.toNat ++ ['\x7d']
    else [character]

/-- A text between quotes. -/
def quote (text : String) : String :=
  String.ofList ('"' :: (text.toList.flatMap escape ++ ['"']))

end RatchetMessaging.Text
