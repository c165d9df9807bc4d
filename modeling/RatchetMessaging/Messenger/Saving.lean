import RatchetMessaging.Messenger.Node

/-!
Contract: records on their way to the volume.

Owns: critical saves, which are awaited and repeated before the change they describe takes
effect; and the schedule of background saves, of which the newest for a connection replaces
the one before. A save that is replaced has no step under way here, and ends at once.

Does not own: which changes are critical, and a save that is at work when it is replaced.
-/

namespace RatchetMessaging.Node

variable {σ : Type}

/-- Try a write once; the result is its failure. -/
def tryWrite (slot : StoreSlot) (record : Record.SessionRecord) :
    Operation σ (Option Error) := fun node =>
  let (failure, volume) := node.volume.write slot record
  .ok failure { node with volume := volume }

/-- All writes of a critical save have failed. -/
def gaveUp (slot : StoreSlot) (attempts : Nat) (reason : String) : Error :=
  .storage s!"critical save of {slot.listing} gave up after {attempts} attempts: {reason}"

/-- Write until a write succeeds, at most `left` times, with a wait after each failure that
is twice as long as the one before. -/
def writeRepeatedly (slot : StoreSlot) (record : Record.SessionRecord) (signal : CancelSignal σ)
    (attempts : Nat) : (left : Nat) → (delay : Nat) → Operation σ Unit
  | 0, _ => throw (gaveUp slot attempts "")
  | left + 1, delay => do
    signal.check
    match ← tryWrite slot record with
    | none => return ()
    | some failure =>
      if left = 0 then
        throw (gaveUp slot attempts failure.message)
      else
        wait signal delay
        writeRepeatedly slot record signal attempts left (2 * delay)

/-- The writes that a save may try. -/
def saveAttempts (config : Config) : Nat := max 1 config.criticalSaveAttempts.toNat

/-- Drop the unfinished background save of a connection. The operation gives way until the
save has ended. -/
def discardSave (connectionId : UInt32) : Operation σ Unit :=
  modify (fun node =>
    if node.own.saves.contains connectionId then
      let own := { node.own with saves := node.own.saves.erase connectionId }
      giveWay { node with own := own }
    else node)

/-- Drop the background save that a critical save for a slot makes superfluous. -/
def discardFor (slot : StoreSlot) : Operation σ Unit :=
  match slot with
  | .identity => pure ()
  | .connection connectionId => discardSave connectionId

/-- Write a record before the change it describes takes effect. -/
def saveCritical (slot : StoreSlot) (record : Record.SessionRecord) (signal : CancelSignal σ) :
    Operation σ Unit := do
  discardFor slot
  let config := (← messenger).config
  let attempts := saveAttempts config
  writeRepeatedly slot record signal attempts attempts config.criticalSaveBackoff

/-- Save a live connection in the background. -/
def scheduleSave (connectionId : UInt32) (serial : Nat) : Operation σ Unit :=
  modify (fun node =>
    let config := node.own.messenger.config
    let save : BackgroundSave :=
      { serial := serial
        due := waitEnd node.clock config.saveDebounce node.own.timer
        turn := node.toSite.nextTurn
        attemptsLeft := saveAttempts config
        delay := config.criticalSaveBackoff
        stage := .waiting }
    { node with own := { node.own with saves := node.own.saves.insert connectionId save } })

/-- Wait until no background save is unfinished. -/
def flush : Operation σ Unit :=
  modify (fun node =>
    if node.own.saves.entries.isEmpty then node
    else
      let (clock, site) := node.toSite.drain node.clock
      { node with toSite := site, clock := clock, gaveWay := true })

end RatchetMessaging.Node
