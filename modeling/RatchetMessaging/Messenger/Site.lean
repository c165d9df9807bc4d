import RatchetMessaging.Messenger.BackgroundSave

/-!
Contract: background saves as time passes.

Owns: a volume with all the processes that save to it, and the steps of their saves in order
of their moments. Background saves take steps only while the process at work waits: all
steps due at a moment are taken before it goes on, except at the moment that ends its own
wait, where it goes on first.

Does not own: what a process does by itself.
-/

namespace RatchetMessaging

/-- A volume, the process at work, and the other processes that save to the same volume,
running or given up. -/
structure Site where
  volume : Volume
  own : Process
  others : List Process := []

namespace Site

/-- The unfinished saves of all processes. -/
def saves (site : Site) : List BackgroundSave :=
  (site.own :: site.others).flatMap (fun process => process.saves.values)

/-- The save that takes the next step. -/
def next? (site : Site) : Option BackgroundSave := BackgroundSave.foremost? site.saves

/-- A turn behind those of all saves. -/
def nextTurn (site : Site) : Nat := BackgroundSave.nextTurn site.saves

/-- The step of the save at a turn, which waits at `later` if it has to wait again. -/
def fireAmong (turn later : Nat) : List Process → Volume → List Process × Volume
  | [], volume => ([], volume)
  | process :: rest, volume =>
    match process.saveAt? turn with
    | some (connectionId, save) =>
      let (process, volume) := process.fire connectionId save later volume
      (process :: rest, volume)
    | none =>
      let (rest, volume) := fireAmong turn later rest volume
      (process :: rest, volume)

/-- The step of the save at a turn. -/
def fire (turn : Nat) (site : Site) : Site :=
  match site.own.saveAt? turn with
  | some (connectionId, save) =>
    let (own, volume) := site.own.fire connectionId save site.nextTurn site.volume
    { site with own := own, volume := volume }
  | none =>
    let (others, volume) := fireAmong turn site.nextTurn site.others site.volume
    { site with others := others, volume := volume }

/-- A bound on the steps that all saves together can still take. -/
def work (site : Site) : Nat :=
  site.others.foldl (fun total process => total + process.work) site.own.work

/-- Take at most `steps` of the steps due by `clock`, in order. -/
def catchUpWithin (clock : Nat) : (steps : Nat) → Site → Site
  | 0, site => site
  | steps + 1, site =>
    match site.next? with
    | none => site
    | some save =>
      if save.due ≤ clock then catchUpWithin clock steps (site.fire save.turn) else site

/-- Take the steps due by `clock`, in order. -/
def catchUp (clock : Nat) (site : Site) : Site := catchUpWithin clock site.work site

/-- Take the steps due before `limit`, moment by moment. `stop` ends this early, and the
moment at which it does is returned. -/
def runWithin (stop : Volume → Bool) (limit : Nat) :
    (steps : Nat) → (clock : Nat) → Site → Option Nat × Site
  | 0, _, site => (none, site)
  | steps + 1, clock, site =>
    match site.next? with
    | none => (none, site)
    | some save =>
      if save.due < limit then
        let moment := max clock save.due
        let site := site.catchUp moment
        if stop site.volume then (some moment, site)
        else runWithin stop limit steps moment site
      else (none, site)

/-- Let time pass until `limit`, or until `stop` holds of the volume, in which case the
moment is returned. The steps due at `limit` are not taken yet. -/
def run (stop : Volume → Bool) (limit clock : Nat) (site : Site) : Option Nat × Site :=
  runWithin stop limit site.work clock site

/-- Let time pass until the process at work has no unfinished saves. -/
def drainWithin : (steps : Nat) → (clock : Nat) → Site → Nat × Site
  | 0, clock, site => (clock, site)
  | steps + 1, clock, site =>
    if site.own.saves.entries.isEmpty then (clock, site)
    else
      match site.next? with
      | none => (clock, site)
      | some save =>
        let moment := max clock save.due
        drainWithin steps moment (site.catchUp moment)

/-- Let time pass until the process at work has no unfinished saves. -/
def drain (clock : Nat) (site : Site) : Nat × Site := drainWithin site.work clock site

end Site

end RatchetMessaging
