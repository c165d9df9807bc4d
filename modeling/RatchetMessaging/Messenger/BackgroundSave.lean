import RatchetMessaging.Messenger.Basic
import RatchetMessaging.Messenger.Moment

/-!
Contract: saves that may be delayed.

Owns: the save that waits for its moment, exports its connection only then, and repeats a
failed write after ever longer waits; the order in which saves take their steps; and the
process, a party together with its unfinished saves. A step of a save, in which it exports its
connection and writes the record, takes no time.

Does not own: the passage of time, and saves whose steps take some, which are `SlowSave`s.
-/

namespace RatchetMessaging

/-- What a background save still has to do. -/
inductive SaveStage where
  /-- Export the connection, then write. -/
  | waiting
  /-- Write this record again. -/
  | retrying (record : Record.SessionRecord)
deriving DecidableEq

/-- A background save of one live connection. -/
structure BackgroundSave where
  /-- The live connection that is saved. -/
  serial : Nat
  /-- The moment of the next step. -/
  due : Nat
  /-- The save's place in line: of two saves due at the same moment, the one with the lower
  turn goes first. -/
  turn : Nat
  /-- The writes that may still be tried. -/
  attemptsLeft : Nat
  /-- The wait after the next write that fails. -/
  delay : Nat
  stage : SaveStage
deriving DecidableEq

namespace BackgroundSave

/-- Whether a save takes its next step before another one. -/
def precedes (save other : BackgroundSave) : Bool :=
  save.due < other.due || (save.due = other.due && save.turn < other.turn)

/-- The save that takes its step before all others. -/
def foremost? : List BackgroundSave → Option BackgroundSave
  | [] => none
  | save :: rest =>
    match foremost? rest with
    | none => some save
    | some other => if other.precedes save then some other else some save

/-- A turn behind those of some saves. -/
def nextTurn (saves : List BackgroundSave) : Nat :=
  saves.foldl (fun turn save => max turn (save.turn + 1)) 0

/-- What is left of a save after a write that failed. It waits, and then stands in line at
`turn`; without a wait it keeps its place. -/
def afterFailure (save : BackgroundSave) (timer : Timer) (turn : Nat)
    (record : Record.SessionRecord) : Option BackgroundSave :=
  if save.attemptsLeft ≤ 1 then none
  else some { save with
    due := waitEnd save.due save.delay timer
    turn := if save.delay = 0 then save.turn else turn
    attemptsLeft := save.attemptsLeft - 1
    delay := 2 * save.delay
    stage := .retrying record }

end BackgroundSave

/-- The record a save writes at its moment. A connection that was closed or superseded since
has none. -/
def Messenger.recordOf (messenger : Messenger) (connectionId : UInt32) (save : BackgroundSave) :
    Option Record.SessionRecord :=
  match save.stage with
  | .retrying record => some record
  | .waiting =>
    match messenger.connections.find? connectionId with
    | none => none
    | some live =>
      if live.serial = save.serial then
        (live.connection.exportRecord.toOption).map Record.SessionRecord.ofConnection
      else none

/-- A party that is running, with its unfinished background saves by connection number. -/
structure Process where
  messenger : Messenger
  saves : NumberMap BackgroundSave := .empty
  /-- What it waits by. -/
  timer : Timer

namespace Process

/-- The record a save of the process writes at its moment. -/
def recordOf (process : Process) (connectionId : UInt32) (save : BackgroundSave) :
    Option Record.SessionRecord :=
  process.messenger.recordOf connectionId save

/-- Replace a save by what is left of it. -/
def settle (process : Process) (connectionId : UInt32) (rest : Option BackgroundSave) : Process :=
  { process with
    saves := match rest with
      | some save => process.saves.insert connectionId save
      | none => process.saves.erase connectionId }

/-- The step of a save at its moment. If the save has to wait again, it does so at `turn`. -/
def fire (process : Process) (connectionId : UInt32) (save : BackgroundSave) (turn : Nat)
    (volume : Volume) : Process × Volume :=
  match process.recordOf connectionId save with
  | none => (process.settle connectionId none, volume)
  | some record =>
    match volume.write (.connection connectionId) record with
    | (none, volume) => (process.settle connectionId none, volume)
    | (some _, volume) =>
      (process.settle connectionId (save.afterFailure process.timer turn record), volume)

/-- The save that stands in line at a turn. -/
def saveAt? (process : Process) (turn : Nat) : Option (UInt32 × BackgroundSave) :=
  process.saves.entries.find? (fun entry => entry.2.turn = turn)

/-- The writes that all saves may still try. -/
def work (process : Process) : Nat :=
  process.saves.values.foldl (fun total save => total + (save.attemptsLeft + 1)) 0

/-- How many saves are not finished. -/
def pendingSaves (process : Process) : Nat := process.saves.size

end Process

end RatchetMessaging
