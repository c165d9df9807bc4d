import RatchetMessaging.Text.Quoted
import RatchetMessaging.Error

/-!
Contract: the one-line listing of a value for logs: a name, then its parts between
braces, brackets or parentheses.

Owns: the brackets and separators. Parts that must stay out of logs are left out and
stand as two dots.

Does not own: which parts a value shows; each type says so beside its definition.
-/

namespace RatchetMessaging.Text

/-- A name with labelled parts; `hidden` tells that further parts are left out. -/
def listing (name : String) (parts : List (String × String)) (hidden : Bool) : String :=
  let shown := parts.map (fun part => part.1 ++ ": " ++ part.2)
  let shown := if hidden then shown ++ [".."] else shown
  if shown.isEmpty then name
  else name ++ " \x7b " ++ ", ".intercalate shown ++ " \x7d"

/-- A name with one part in parentheses. -/
def wrapped (name part : String) : String := name ++ "(" ++ part ++ ")"

/-- Parts between brackets. -/
def sequence (parts : List String) : String := "[" ++ ", ".intercalate parts ++ "]"

/-- An absent part, or a present one in parentheses. -/
def optional : Option String → String
  | none => "None"
  | some part => wrapped "Some" part

/-- Key and value pairs between braces. -/
def mapping (entries : List (String × String)) : String :=
  "\x7b" ++ ", ".intercalate (entries.map (fun entry => entry.1 ++ ": " ++ entry.2)) ++ "\x7d"

/-- Parts between braces. -/
def collection (parts : List String) : String :=
  "\x7b" ++ ", ".intercalate parts ++ "\x7d"

end RatchetMessaging.Text

namespace RatchetMessaging

/-- The listing of a failure: its kind, with the detail it carries. -/
def Error.listing (failure : Error) : String :=
  match failure with
  | .invalidInput detail | .allocation detail | .keyGeneration detail | .deriveKey detail
  | .peerPublicKey detail | .prepareLocal detail | .handshake detail | .objectDisposed detail
  | .storage detail | .decode detail | .provider detail =>
    Text.wrapped failure.kind (Text.quote detail)
  | .tooManySkipped number | .sessionNotFound number =>
    Text.wrapped failure.kind (toString number)
  | .replayDetected | .decrypt | .notFound | .cancelled => failure.kind

end RatchetMessaging
