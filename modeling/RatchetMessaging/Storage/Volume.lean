import RatchetMessaging.OrderedMap
import RatchetMessaging.Record.Session

/-!
Contract: the place where records are kept.

Owns: one identity record and one record per connection; writes that replace a whole record
or fail; and the record's version check on the way out.

Does not own: repeated attempts. Which writes fail, and whether loads do, is part of the
volume, so that everything above can be stated for every pattern of failures.
-/

namespace RatchetMessaging

/-- Which record a write replaces. -/
inductive StoreSlot where
  | identity
  | connection (connectionId : UInt32)
deriving DecidableEq, Repr

/-- The text of a slot in a failure. -/
def StoreSlot.listing : StoreSlot → String
  | .identity => "Identity"
  | .connection connectionId => Text.wrapped "Connection" (toString connectionId)

/-- How many writes were tried, by kind of record. -/
structure WriteCounts where
  identity : Nat := 0
  connection : Nat := 0
deriving DecidableEq, Repr

namespace WriteCounts

/-- All writes tried. -/
def total (counts : WriteCounts) : Nat := counts.identity + counts.connection

/-- Count one more write. -/
def count (counts : WriteCounts) : StoreSlot → WriteCounts
  | .identity => { counts with identity := counts.identity + 1 }
  | .connection _ => { counts with connection := counts.connection + 1 }

end WriteCounts

/-- The records kept, the writes tried, and the failures to come. -/
structure Volume where
  identity : Option Record.SessionRecord := none
  connections : NumberMap Record.SessionRecord := .empty
  writes : WriteCounts := {}
  /-- The failure of a write, from the writes tried before it and the slot it is for. -/
  writeFault : WriteCounts → StoreSlot → Option Error := fun _ _ => none
  /-- The failure of every load. -/
  loadFault : Option Error := none

namespace Volume

/-- Replace the record of a slot. -/
def put (slot : StoreSlot) (record : Record.SessionRecord) (volume : Volume) : Volume :=
  match slot with
  | .identity => { volume with identity := some record }
  | .connection connectionId =>
    { volume with connections := volume.connections.insert connectionId record }

/-- Try to replace the record of a slot. The attempt is counted even if it fails. -/
def write (slot : StoreSlot) (record : Record.SessionRecord) (volume : Volume) :
    Option Error × Volume :=
  let counted := { volume with writes := volume.writes.count slot }
  match volume.writeFault volume.writes slot with
  | some failure => (some failure, counted)
  | none => (none, counted.put slot record)

/-- The record of a slot, if there is one. -/
def find? (slot : StoreSlot) (volume : Volume) : Option Record.SessionRecord :=
  match slot with
  | .identity => volume.identity
  | .connection connectionId => volume.connections.find? connectionId

/-- Load the record of a slot. -/
def load (slot : StoreSlot) (volume : Volume) : Except Error Record.SessionRecord := do
  if let some failure := volume.loadFault then
    throw failure
  match volume.find? slot with
  | none => throw .notFound
  | some record => record.checkVersion

/-- Remove the record of a connection. -/
def erase (connectionId : UInt32) (volume : Volume) : Volume :=
  { volume with connections := volume.connections.erase connectionId }

/-- Which kind of record a failure is limited to. -/
inductive SlotKind where
  | identity
  | connection
deriving DecidableEq, Repr

/-- The writes of a kind among those tried; without a kind, all of them. -/
def countOf (kind : Option SlotKind) (counts : WriteCounts) : Nat :=
  match kind with
  | none => counts.total
  | some .identity => counts.identity
  | some .connection => counts.connection

/-- Whether a slot is of a kind. -/
def isOf (kind : Option SlotKind) (slot : StoreSlot) : Bool :=
  match kind, slot with
  | none, _ => true
  | some .identity, .identity => true
  | some .connection, .connection _ => true
  | _, _ => false

/-- Let the next `count` writes of a kind fail, and all loads if `offline`. Earlier settings
are replaced. -/
def failNext (count : Nat) (kind : Option SlotKind) (offline : Bool) (volume : Volume) : Volume :=
  let limit := countOf kind volume.writes + count
  { volume with
    writeFault := fun counts slot =>
      if isOf kind slot && countOf kind counts < limit then
        some (.storage "volume is read-only")
      else none
    loadFault := if offline then some (.storage "volume is offline") else none }

end Volume

end RatchetMessaging
