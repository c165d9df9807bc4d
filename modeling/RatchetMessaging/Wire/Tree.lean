import RatchetMessaging.Bytes

/-!
Contract: records as trees of named values.

Owns: the trees, which show a record without its wire format, and the schemas, which tell what
trees a record can have.

Does not own: the tree of a particular record; its codec does.
-/

namespace RatchetMessaging.Wire

/-- A value with names instead of field numbers. -/
inductive Tree where
  /-- A part that is not there. -/
  | absent
  | word (value : UInt32)
  | longWord (value : UInt64)
  | count (value : Nat)
  | truth (value : Bool)
  | bytes (value : Bytes)
  | text (value : String)
  | list (elements : List Tree)
  | record (fields : List (String × Tree))
deriving Inhabited

/-- What kind of tree stands at a place. -/
inductive Schema where
  | word
  | longWord
  | count
  | truth
  | bytes
  | text
  | list (element : Schema)
  | record (fields : List (String × Schema))
deriving Inhabited

namespace Tree

/-- The tree of a value that may be absent. -/
def ofOption {α : Type} (view : α → Tree) : Option α → Tree
  | none => absent
  | some value => view value

/-- The tree of a list of values. -/
def ofList {α : Type} (view : α → Tree) (values : List α) : Tree := list (values.map view)

/-- The part of a record that has a name. -/
def part (name : String) : Tree → Tree
  | record fields => (fields.lookup name).getD absent
  | _ => absent

/-- The elements of a list. -/
def elements? : Tree → Option (List Tree)
  | list elements => some elements
  | _ => none

/-- Read every element of a list. -/
def elementsWith? {α : Type} (read : Tree → Option α) (tree : Tree) : Option (List α) := do
  (← tree.elements?).mapM read

end Tree

end RatchetMessaging.Wire
