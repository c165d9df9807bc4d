import RatchetMessaging.Proofs.Messenger.Keeping

/-!
Contract: the writes that are tried while an operation is at work, one by one.

Owns:
- `StoreWrite`, a write that was tried: when, on whose behalf, what, and the answer;
- the journal of steps of background saves, of waits, of critical saves and of discards, read off
  the very run that it is about;
- `Volume.Replays`: a journal is complete. Tried one after the other its writes get the answers that
  it states, and they lead to the volume that the run has left.

Does not own: what the writes of one save have to do with one another.
-/

namespace RatchetMessaging

variable {σ : Type}

/-- On whose behalf a write is tried. -/
inductive WriteAuthor where
  /-- The operation at work, which awaits the answer. -/
  | critical
  /-- A background save of the process at work. -/
  | background
  /-- A background save of another process. -/
  | elsewhere
deriving DecidableEq

/-- A write that was tried. -/
structure StoreWrite where
  moment : Nat
  author : WriteAuthor
  slot : StoreSlot
  record : Record.SessionRecord
  failure : Option Error
deriving DecidableEq

/-! ### Replaying a journal -/

/-- Tried one after the other the writes get their answers, and lead to the later volume. -/
def Volume.Replays : Volume → List StoreWrite → Volume → Prop
  | volume, [], later => volume = later
  | volume, write :: writes, later =>
    (volume.write write.slot write.record).1 = write.failure ∧
      Replays (volume.write write.slot write.record).2 writes later

namespace Volume.Replays

theorem append {volume middle later : Volume} {first second : List StoreWrite}
    (begins : volume.Replays first middle) (ends : middle.Replays second later) :
    volume.Replays (first ++ second) later := by
  induction first generalizing volume with
  | nil =>
    cases begins
    exact ends
  | cons write writes inductionHypothesis =>
    exact ⟨begins.1, inductionHypothesis begins.2⟩

theorem single {volume : Volume} {write : StoreWrite}
    (answers : (volume.write write.slot write.record).1 = write.failure) :
    volume.Replays [write] (volume.write write.slot write.record).2 :=
  ⟨answers, rfl⟩

end Volume.Replays

/-! ### Background saves -/

/-- The write of the step of a save, if its connection is still there. -/
def Process.fireWrites (moment : Nat) (author : WriteAuthor) (process : Process)
    (connectionId : UInt32) (save : BackgroundSave) (volume : Volume) : List StoreWrite :=
  match process.recordOf connectionId save with
  | none => []
  | some record =>
    [⟨moment, author, .connection connectionId, record,
      (volume.write (.connection connectionId) record).1⟩]

theorem Process.author_of_mem_fireWrites {moment : Nat} {author : WriteAuthor} {process : Process}
    {connectionId : UInt32} {save : BackgroundSave} {volume : Volume} {write : StoreWrite}
    (member : write ∈ process.fireWrites moment author connectionId save volume) :
    write.author = author := by
  unfold fireWrites at member
  split at member
  · cases member
  · rw [List.mem_singleton.1 member]

theorem Process.fireWrites_replays (moment : Nat) (author : WriteAuthor) (process : Process)
    (connectionId : UInt32) (save : BackgroundSave) (turn : Nat) (volume : Volume) :
    volume.Replays (process.fireWrites moment author connectionId save volume)
      (process.fire connectionId save turn volume).2 := by
  unfold fireWrites
  rcases process.fire_cases connectionId save turn volume with
    ⟨nothing, fired⟩ | ⟨record, isRecord, ⟨_, fired⟩ | ⟨_, _, fired⟩⟩
  · rw [nothing, fired]
    exact rfl
  · rw [isRecord, fired]
    exact .single rfl
  · rw [isRecord, fired]
    exact .single rfl

namespace Site

/-- The write of the step that the save at a turn takes in one of some processes. -/
def fireAmongWrites (moment turn : Nat) : List Process → Volume → List StoreWrite
  | [], _ => []
  | process :: rest, volume =>
    match process.saveAt? turn with
    | some (connectionId, save) =>
      process.fireWrites moment .elsewhere connectionId save volume
    | none => fireAmongWrites moment turn rest volume

/-- The write of the step of the save at a turn. -/
def fireWrites (moment turn : Nat) (site : Site) : List StoreWrite :=
  match site.own.saveAt? turn with
  | some (connectionId, save) =>
    site.own.fireWrites moment .background connectionId save site.volume
  | none => fireAmongWrites moment turn site.others site.volume

/-- The writes of the steps due by `clock`, of which at most `steps` are taken. -/
def catchUpWritesWithin (clock : Nat) : (steps : Nat) → Site → List StoreWrite
  | 0, _ => []
  | steps + 1, site =>
    match site.next? with
    | none => []
    | some save =>
      if save.due ≤ clock then
        site.fireWrites clock save.turn ++
          catchUpWritesWithin clock steps (site.fire save.turn)
      else []

/-- The writes of the steps due by `clock`. -/
def catchUpWrites (clock : Nat) (site : Site) : List StoreWrite :=
  catchUpWritesWithin clock site.work site

/-- The writes of the steps due before `limit`, unless `stop` ends this early. -/
def runWritesWithin (stop : Volume → Bool) (limit : Nat) :
    (steps : Nat) → (clock : Nat) → Site → List StoreWrite
  | 0, _, _ => []
  | steps + 1, clock, site =>
    match site.next? with
    | none => []
    | some save =>
      if save.due < limit then
        let moment := max clock save.due
        let later := site.catchUp moment
        site.catchUpWrites moment ++
          if stop later.volume then [] else runWritesWithin stop limit steps moment later
      else []

/-- The writes while time passes until `limit`, or until `stop` holds of the volume. -/
def runWrites (stop : Volume → Bool) (limit clock : Nat) (site : Site) : List StoreWrite :=
  runWritesWithin stop limit site.work clock site

theorem author_of_mem_fireAmongWrites {moment turn : Nat} {processes : List Process}
    {volume : Volume} {write : StoreWrite}
    (member : write ∈ fireAmongWrites moment turn processes volume) :
    write.author = .elsewhere := by
  induction processes with
  | nil => cases member
  | cons process rest inductionHypothesis =>
    unfold fireAmongWrites at member
    cases found : process.saveAt? turn with
    | some entry =>
      rw [found] at member
      exact Process.author_of_mem_fireWrites member
    | none =>
      rw [found] at member
      exact inductionHypothesis member

/-- What is written when a save takes its turn is written in the background. -/
theorem author_of_mem_fireWrites {moment turn : Nat} {site : Site} {write : StoreWrite}
    (member : write ∈ site.fireWrites moment turn) : write.author ≠ .critical := by
  unfold fireWrites at member
  cases found : site.own.saveAt? turn with
  | some entry =>
    rw [found] at member
    simp [Process.author_of_mem_fireWrites member]
  | none =>
    rw [found] at member
    simp [author_of_mem_fireAmongWrites member]

theorem fireAmongWrites_replays (moment turn later : Nat) (processes : List Process)
    (volume : Volume) :
    volume.Replays (fireAmongWrites moment turn processes volume)
      (fireAmong turn later processes volume).2 := by
  induction processes with
  | nil => exact rfl
  | cons process rest inductionHypothesis =>
    unfold fireAmongWrites fireAmong
    cases process.saveAt? turn with
    | some entry => exact process.fireWrites_replays _ _ _ _ _ _
    | none => exact inductionHypothesis

theorem fireWrites_replays (moment turn : Nat) (site : Site) :
    site.volume.Replays (site.fireWrites moment turn) (site.fire turn).volume := by
  unfold fireWrites fire
  cases site.own.saveAt? turn with
  | some entry => exact site.own.fireWrites_replays _ _ _ _ _ _
  | none => exact fireAmongWrites_replays _ _ _ _ _

theorem catchUpWrites_replays (clock : Nat) (site : Site) :
    site.volume.Replays (site.catchUpWrites clock) (site.catchUp clock).volume := by
  unfold catchUpWrites catchUp
  generalize site.work = steps
  induction steps generalizing site with
  | zero => exact rfl
  | succ steps inductionHypothesis =>
    unfold catchUpWritesWithin catchUpWithin
    cases site.next? with
    | none => exact rfl
    | some save =>
      by_cases isDue : save.due ≤ clock
      · simp only [if_pos isDue]
        exact (fireWrites_replays clock save.turn site).append (inductionHypothesis _)
      · simp only [if_neg isDue]
        exact rfl

theorem runWrites_replays (stop : Volume → Bool) (limit clock : Nat) (site : Site) :
    site.volume.Replays (site.runWrites stop limit clock)
      (site.run stop limit clock).2.volume := by
  unfold runWrites run
  generalize site.work = steps
  induction steps generalizing site clock with
  | zero => exact rfl
  | succ steps inductionHypothesis =>
    unfold runWritesWithin runWithin
    cases site.next? with
    | none => exact rfl
    | some save =>
      by_cases isDue : save.due < limit
      · simp only [if_pos isDue]
        refine (catchUpWrites_replays _ site).append ?_
        by_cases stopped : stop (site.catchUp (max clock save.due)).volume = true
        · simp only [if_pos stopped]
          exact rfl
        · simp only [if_neg stopped]
          exact inductionHypothesis _ _
      · simp only [if_neg isDue]
        exact rfl

end Site

/-! ### Operations -/

namespace Node

/-- The writes while everything happens that is due at this moment. -/
def giveWayWrites (node : Node σ) : List StoreWrite := node.toSite.catchUpWrites node.clock

/-- The writes while time passes until `target`, or until the signal fires. -/
def waitUntilWrites (signal : CancelSignal σ) (target : Nat) (node : Node σ) : List StoreWrite :=
  node.toSite.runWrites (signal.trigger node.crypto)
    (((signal.wakeUp? target).map (· + 1)).getD target) node.clock

/-- The writes during a wait. -/
def waitWrites (signal : CancelSignal σ) (duration : Nat) (node : Node σ) : List StoreWrite :=
  if signal.isFired node then []
  else if duration = 0 then []
  else waitUntilWrites signal (waitEnd node.clock duration node.own.timer) node

/-- The node after a write was tried. -/
def tried (slot : StoreSlot) (record : Record.SessionRecord) (node : Node σ) : Node σ :=
  { node with volume := (node.volume.write slot record).2 }

/-- The writes while a record is written until a write succeeds. -/
def repeatedWrites (slot : StoreSlot) (record : Record.SessionRecord) (signal : CancelSignal σ) :
    (left : Nat) → (delay : Nat) → Node σ → List StoreWrite
  | 0, _, _ => []
  | left + 1, delay, node =>
    if signal.isFired node then []
    else
      ⟨node.clock, .critical, slot, record, (node.volume.write slot record).1⟩ ::
        match (node.volume.write slot record).1 with
        | none => []
        | some _ =>
          if left = 0 then []
          else
            waitWrites signal delay (node.tried slot record) ++
              match wait signal delay (node.tried slot record) with
              | .ok _ waited => repeatedWrites slot record signal left (2 * delay) waited
              | .error _ _ => []

/-- The writes while the background save of a connection is dropped. -/
def discardWrites (connectionId : UInt32) (node : Node σ) : List StoreWrite :=
  if node.own.saves.contains connectionId then
    let own := { node.own with saves := node.own.saves.erase connectionId }
    giveWayWrites { node with own := own }
  else []

/-- The writes while the background save is dropped that a critical save makes superfluous. -/
def discardForWrites (slot : StoreSlot) (node : Node σ) : List StoreWrite :=
  match slot with
  | .identity => []
  | .connection connectionId => discardWrites connectionId node

/-- The node without its unfinished save of the record of a slot. -/
def dropping (slot : StoreSlot) (node : Node σ) : Node σ :=
  { node with own := node.own.dropping slot }

/-- The writes of a critical save, and of the background saves that go on meanwhile. -/
def criticalWrites (slot : StoreSlot) (record : Record.SessionRecord) (signal : CancelSignal σ)
    (node : Node σ) : List StoreWrite :=
  let ready := leftBy (discardFor slot) node
  let config := ready.own.messenger.config
  discardForWrites slot node ++
    repeatedWrites slot record signal (saveAttempts config) config.criticalSaveBackoff ready

theorem waitUntilWrites_replays (signal : CancelSignal σ) (target : Nat) (node : Node σ) :
    node.volume.Replays (waitUntilWrites signal target node)
      (waitUntil signal target node).volume := by
  have replays := node.toSite.runWrites_replays (signal.trigger node.crypto)
    (((signal.wakeUp? target).map (· + 1)).getD target) node.clock
  unfold waitUntilWrites waitUntil
  simp only
  split
  · rename_i moment site ran
    rw [ran] at replays
    exact replays
  · rename_i site ran
    rw [ran] at replays
    split <;> exact replays

theorem waitWrites_replays (signal : CancelSignal σ) (duration : Nat) (node : Node σ) :
    node.volume.Replays (waitWrites signal duration node)
      (leftBy (wait signal duration) node).volume := by
  unfold waitWrites leftBy wait
  by_cases fired : signal.isFired node = true
  · simp only [if_pos fired]
    exact rfl
  · simp only [if_neg fired]
    by_cases noWait : duration = 0
    · simp only [if_pos noWait]
      exact rfl
    · simp only [if_neg noWait]
      have replays :=
        waitUntilWrites_replays signal (waitEnd node.clock duration node.own.timer) node
      by_cases wokenUp : signal.isFired
          (waitUntil signal (waitEnd node.clock duration node.own.timer) node) = true
      · simp only [if_pos wokenUp]
        exact replays
      · simp only [if_neg wokenUp]
        exact replays

/-- One round of a critical save: the signal is checked, a write is tried, and if it fails and was
not the last one, the next round comes after a wait. -/
theorem writeRepeatedly_succ (slot : StoreSlot) (record : Record.SessionRecord)
    (signal : CancelSignal σ) (attempts left delay : Nat) (node : Node σ) :
    writeRepeatedly slot record signal attempts (left + 1) delay node =
      if signal.isFired node then .error .cancelled node
      else
        match (node.volume.write slot record).1 with
        | none => .ok () (node.tried slot record)
        | some failure =>
          if left = 0 then
            .error (gaveUp slot attempts failure.message) (node.tried slot record)
          else
            match wait signal delay (node.tried slot record) with
            | .ok _ waited =>
              writeRepeatedly slot record signal attempts left (2 * delay) waited
            | .error failure waited => .error failure waited := by
  rw [writeRepeatedly]
  by_cases fired : signal.isFired node = true
  · have withdrawn : signal.check node = .error .cancelled node := if_pos fired
    rw [Crypto.bind_of_error withdrawn, if_pos fired]
  · have passed : signal.check node = .ok () node := if_neg fired
    rw [Crypto.bind_of_ok passed, Crypto.bind_of_ok (tryWrite_eq slot record node), if_neg fired]
    cases (node.volume.write slot record).1 with
    | none => rfl
    | some failure =>
      by_cases isLast : left = 0
      · simp only [if_pos isLast]
        rfl
      · simp only [if_neg isLast]
        change (wait signal delay >>= _) (node.tried slot record) = _
        cases waited : wait signal delay (node.tried slot record) with
        | ok value after => exact Crypto.bind_of_ok waited _
        | error failure after => exact Crypto.bind_of_error waited _

theorem repeatedWrites_replays (slot : StoreSlot) (record : Record.SessionRecord)
    (signal : CancelSignal σ) (attempts left delay : Nat) (node : Node σ) :
    node.volume.Replays (repeatedWrites slot record signal left delay node)
      (leftBy (writeRepeatedly slot record signal attempts left delay) node).volume := by
  induction left generalizing delay node with
  | zero => exact rfl
  | succ left inductionHypothesis =>
    unfold repeatedWrites leftBy
    rw [writeRepeatedly_succ]
    by_cases fired : signal.isFired node = true
    · simp only [if_pos fired]
      exact rfl
    · simp only [if_neg fired]
      cases answer : (node.volume.write slot record).1 with
      | none => exact .single answer
      | some failure =>
        by_cases isLast : left = 0
        · simp only [if_pos isLast]
          exact .single answer
        · simp only [if_neg isLast]
          have replays := waitWrites_replays signal delay (node.tried slot record)
          refine ⟨answer, ?_⟩
          unfold leftBy at replays
          cases waited : wait signal delay (node.tried slot record) with
          | ok value after =>
            rw [waited] at replays
            exact replays.append (inductionHypothesis (2 * delay) after)
          | error failure after =>
            rw [waited] at replays
            exact replays.append rfl

/-- An operation that drops a save gives way if there is one, and else it does nothing. -/
theorem discardFor_cases (slot : StoreSlot) (node : Node σ) :
    (leftBy (discardFor slot) node = node.dropping slot ∧ discardForWrites slot node = []) ∨
      leftBy (discardFor slot) node = (node.dropping slot).giveWay ∧
        discardForWrites slot node = (node.dropping slot).giveWayWrites := by
  cases slot with
  | identity => exact .inl ⟨rfl, rfl⟩
  | connection connectionId =>
    by_cases held : node.own.saves.contains connectionId = true
    · exact .inr ⟨if_pos held, if_pos held⟩
    · have absent : node.own.saves.find? connectionId = none := by
        simpa [OrderedMap.contains] using held
      have unchanged : node.dropping (.connection connectionId) = node := by
        simp only [dropping, Process.dropping, OrderedMap.erase_of_absent absent]
      rw [unchanged]
      exact .inl ⟨if_neg held, if_neg held⟩

theorem discardForWrites_replays (slot : StoreSlot) (node : Node σ) :
    node.volume.Replays (discardForWrites slot node) (leftBy (discardFor slot) node).volume := by
  rcases discardFor_cases slot node with ⟨drops, nothing⟩ | ⟨gives, writes⟩
  · rw [drops, nothing]
    exact rfl
  · rw [gives, writes]
    exact Site.catchUpWrites_replays node.clock (node.dropping slot).toSite

/-- After the background save of its connection is dropped, a critical save writes repeatedly. -/
theorem saveCritical_eq (slot : StoreSlot) (record : Record.SessionRecord)
    (signal : CancelSignal σ) (node : Node σ) :
    saveCritical slot record signal node =
      writeRepeatedly slot record signal
        (saveAttempts (leftBy (discardFor slot) node).own.messenger.config)
        (saveAttempts (leftBy (discardFor slot) node).own.messenger.config)
        (leftBy (discardFor slot) node).own.messenger.config.criticalSaveBackoff
        (leftBy (discardFor slot) node) := by
  obtain ⟨ready, discarded, _⟩ := discardFor_eq slot node
  have isReady : leftBy (discardFor slot) node = ready := by
    unfold leftBy
    rw [discarded]
  unfold saveCritical
  rw [Crypto.bind_of_ok discarded, isReady]
  rfl

theorem criticalWrites_replays (slot : StoreSlot) (record : Record.SessionRecord)
    (signal : CancelSignal σ) (node : Node σ) :
    node.volume.Replays (criticalWrites slot record signal node)
      (leftBy (saveCritical slot record signal) node).volume := by
  rw [leftBy, saveCritical_eq]
  exact (discardForWrites_replays slot node).append (repeatedWrites_replays _ _ _ _ _ _ _)

end Node

end RatchetMessaging
