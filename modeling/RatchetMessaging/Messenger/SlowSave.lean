import RatchetMessaging.Messenger.Node

/-!
Contract: background saves whose steps take time.

Owns: the save that has left its place in line and is at work beside the operations; the moments at
which it takes the record of its connection, and at which its write reaches the volume; and the
save that a newer one has replaced, which goes on for a while because nobody waits for its end.

Does not own: when these moments come. The saves of `Site` take each step at once.
-/

namespace RatchetMessaging

/-- A background save at work. -/
structure SlowSave where
  connectionId : UInt32
  save : BackgroundSave
  /-- Whether a newer save has taken its place. -/
  replaced : Bool := false
deriving DecidableEq

namespace SlowSave

/-- The record whose write is under way. -/
def record? (slow : SlowSave) : Option Record.SessionRecord :=
  match slow.save.stage with
  | .waiting => none
  | .retrying record => some record

/-- The save beside a process that may have scheduled a newer one. -/
def beside (process : Process) (slow : SlowSave) : SlowSave :=
  { slow with replaced := slow.replaced || process.saves.contains slow.connectionId }

end SlowSave

/-- A process, and its background saves that are at work. -/
structure SlowNode (σ : Type) extends Node σ where
  slow : List SlowSave := []

namespace SlowNode

variable {σ : Type}

/-- The save of a connection goes to work. Its moment may lie within the operation that comes next,
so it is not compared with the clock. -/
def begin (connectionId : UInt32) (node : SlowNode σ) : SlowNode σ :=
  match node.own.saves.find? connectionId with
  | none => node
  | some save =>
    { node with
      own := node.own.settle connectionId none
      slow := node.slow ++ [{ connectionId := connectionId, save := save }] }

/-- The save at a position takes the record that it writes, and its write begins. A save that has
none ends. -/
def take (position : Nat) (node : SlowNode σ) : SlowNode σ :=
  match node.slow[position]? with
  | none => node
  | some slow =>
    match node.own.recordOf slow.connectionId slow.save with
    | none => { node with slow := node.slow.eraseIdx position }
    | some record =>
      { node with slow := node.slow.set position { slow with save.stage := .retrying record } }

/-- The saves at work after the write of a replaced one was refused. It ends with its next wait, but
goes on if that has no length. -/
def leave (position : Nat) (slow : SlowSave) (rest : Option BackgroundSave)
    (saves : List SlowSave) : List SlowSave :=
  match rest with
  | none => saves.eraseIdx position
  | some save =>
    if slow.save.delay = 0 then saves.set position { slow with save := save }
    else saves.eraseIdx position

/-- The write of the save at a position reaches the volume. -/
def land (position : Nat) (node : SlowNode σ) : SlowNode σ :=
  match node.slow[position]? with
  | none => node
  | some slow =>
    match slow.record? with
    | none => node
    | some record =>
      match node.volume.write (.connection slow.connectionId) record with
      | (none, volume) => { node with volume := volume, slow := node.slow.eraseIdx position }
      | (some _, volume) =>
        let rest := { slow.save with due := node.clock }.afterFailure node.own.timer
          node.toSite.nextTurn record
        if slow.replaced then
          { node with volume := volume, slow := leave position slow rest node.slow }
        else
          { node with
            own := node.own.settle slow.connectionId rest
            volume := volume
            slow := node.slow.eraseIdx position }

/-- The save at a position ends, and its write is given up. -/
def stop (position : Nat) (node : SlowNode σ) : SlowNode σ :=
  { node with slow := node.slow.eraseIdx position }

end SlowNode

end RatchetMessaging
