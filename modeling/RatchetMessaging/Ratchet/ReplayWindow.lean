import RatchetMessaging.OrderedMap
import RatchetMessaging.Record.Ratchet

/-!
Contract: the memory of accepted positions, bounded in both directions.

Owns: for each tracked generation the accepted positions inside a window below the highest
one, and the floor below which whole generations are refused. What falls off either edge is
refused even if it never arrived.

Does not own: which generation a message belongs to.
-/

namespace RatchetMessaging

/-- The accepted positions of one generation. -/
structure GenerationWindow where
  highest : UInt32 := 0
  seen : NumberMap Unit := .empty
deriving DecidableEq

namespace GenerationWindow

/-- Whether a position lies `window` or more below the highest accepted one. -/
def isBelow (entry : GenerationWindow) (window index : UInt32) : Bool :=
  index < entry.highest && window ≤ entry.highest - index

/-- Record a position and forget those that fall off the window. -/
def record (entry : GenerationWindow) (window index : UInt32) : GenerationWindow :=
  let highest :=
    if entry.seen.size = 0 ∨ entry.highest < index then index else entry.highest
  let recorded : GenerationWindow := ⟨highest, entry.seen.insert index ()⟩
  { recorded with seen := recorded.seen.filter (fun seen _ => !recorded.isBelow window seen) }

/-- The listing shows every part. -/
def listing (entry : GenerationWindow) : String :=
  Text.listing "GenerationWindow"
    [("highest", toString entry.highest),
      ("seen", Text.collection (entry.seen.keys.map toString))] false

end GenerationWindow

/-- The accepted positions of the newest generations. -/
structure ReplayWindow where
  window : UInt32
  maxGenerations : Nat
  generationFloor : UInt32 := 0
  generations : NumberMap GenerationWindow := .empty
deriving DecidableEq

namespace ReplayWindow

/-- A memory of nothing. Both bounds are at least one. -/
def new (window : UInt32) (maxGenerations : Nat) : ReplayWindow where
  window := if window = 0 then 1 else window
  maxGenerations := max 1 maxGenerations

/-- Whether a position would be refused. -/
def isReplay (replay : ReplayWindow) (generation index : UInt32) : Bool :=
  if generation < replay.generationFloor then true
  else
    match replay.generations.find? generation with
    | some entry => entry.isBelow replay.window index || entry.seen.contains index
    | none => false

/-- The number after a generation, or the last number itself. -/
def after (generation : UInt32) : UInt32 :=
  if generation = 0xFFFFFFFF then generation else generation + 1

/-- Forget the oldest generations beyond the bound, and refuse them from now on. -/
def trim (replay : ReplayWindow) : ReplayWindow :=
  let surplus := replay.generations.size - replay.maxGenerations
  { replay with
    generations := replay.generations.drop surplus
    generationFloor := (replay.generations.keys.take surplus).foldl
      (fun floor evicted => max floor (after evicted)) replay.generationFloor }

/-- Record a position unless it is refused; the first part tells whether it was
recorded. -/
def accept (replay : ReplayWindow) (generation index : UInt32) : Bool × ReplayWindow :=
  if replay.isReplay generation index then (false, replay)
  else
    let entry := (replay.generations.find? generation).getD {}
    let generations :=
      replay.generations.insert generation (entry.record replay.window index)
    (true, trim { replay with generations := generations })

/-- How many generations are tracked. -/
def trackedGenerations (replay : ReplayWindow) : Nat := replay.generations.size

/-- The record of a memory. -/
def toRecord (replay : ReplayWindow) : Record.ReplayRecord where
  generationFloor := replay.generationFloor
  generations := replay.generations.entries.map (fun entry =>
    { generation := entry.1, highest := entry.2.highest, seen := entry.2.seen.keys })

/-- The memory of a record, under the bounds of the reader. -/
def ofRecord (record : Record.ReplayRecord) (window : UInt32) (maxGenerations : Nat) :
    ReplayWindow :=
  { new window maxGenerations with
    generationFloor := record.generationFloor
    generations := .ofList (record.generations.map (fun entry =>
      (entry.generation, ⟨entry.highest, .ofList (entry.seen.map (fun index => (index, ())))⟩))) }

/-- The listing shows every part. -/
def listing (replay : ReplayWindow) : String :=
  Text.listing "ReplayWindow"
    [("window", toString replay.window),
      ("max_generations", toString replay.maxGenerations),
      ("generation_floor", toString replay.generationFloor),
      ("generations", Text.mapping (replay.generations.entries.map (fun entry =>
        (toString entry.1, entry.2.listing))))] false

end ReplayWindow

end RatchetMessaging
