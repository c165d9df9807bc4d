import RatchetMessaging.Proofs.Messenger.Punctuality

/-!
Contract: saves that are asked for in quick succession come to one write.

Owns:
- `Volume.Accepting`, for a volume whose writes all succeed; then an event takes no time;
- `Process.debounceDelay`, the delay of a background save, which the longest wait of the timer
  bounds;
- `Lands`, for a save that is not dropped or replaced before it is due, and its one write;
- `debounced_saves_coalesce`: the saves of a timeline that land are all that is written, each of
  them once.

Does not own: saves whose writes fail.
-/

namespace RatchetMessaging

variable {σ : Type} {connectionId : UInt32}

/-! ### Writes that succeed -/

namespace Volume

/-- No write fails. -/
def Accepting (volume : Volume) : Prop :=
  ∀ counts slot, volume.writeFault counts slot = none

variable {volume later : Volume} {writes : List StoreWrite}

theorem Accepting.write (accepting : volume.Accepting) (slot : StoreSlot)
    (record : Record.SessionRecord) : (volume.write slot record).1 = none := by
  unfold Volume.write
  rw [accepting]

theorem Accepting.congr (accepting : volume.Accepting)
    (same : later.writeFault = volume.writeFault) : later.Accepting := by
  unfold Accepting
  rw [same]
  exact accepting

theorem Replays.accepting (replays : volume.Replays writes later) (accepting : volume.Accepting) :
    later.Accepting ∧ ∀ write ∈ writes, write.failure = none := by
  induction writes generalizing volume with
  | nil =>
    cases replays
    exact ⟨accepting, by simp⟩
  | cons write rest inductionHypothesis =>
    obtain ⟨answer, replaysRest⟩ := replays
    obtain ⟨stillAccepting, stored⟩ := inductionHypothesis replaysRest
      (accepting.congr (writeFault_write volume write.slot write.record))
    refine ⟨stillAccepting, List.forall_mem_cons.2 ⟨?_, stored⟩⟩
    rw [← answer, accepting.write]

end Volume

/-- How long a background save is delayed, as far as the timer allows it. -/
def Process.debounceDelay (process : Process) : Nat :=
  min process.messenger.config.saveDebounce process.timer.longestWait

/-- The write of a save that is due. -/
def StoreWrite.ofSave (connectionId : UInt32) (due : Nat) (record : Record.SessionRecord) :
    StoreWrite :=
  ⟨due, .background, .connection connectionId, record, none⟩

/-- A save that is due comes to one write, if its connection is still there. -/
theorem SaveRun.of_stored {messenger : Messenger} {timer : Timer} {limit : Nat}
    {save : BackgroundSave} {writes : List StoreWrite} {left : Option BackgroundSave}
    (run : SaveRun messenger timer connectionId limit (some save) writes left)
    (stored : ∀ write ∈ writes, write.failure = none)
    (onTime : ∀ later, left = some later → limit ≤ later.due) (isDue : save.due < limit) :
    left = none ∧ writes = ((messenger.recordOf connectionId save).map
      (StoreWrite.ofSave connectionId save.due)).toList := by
  cases run with
  | rest =>
    have notDue := onTime save rfl
    omega
  | lapse due gone =>
    rw [gone]
    exact ⟨rfl, rfl⟩
  | store due isRecord =>
    rw [isRecord]
    exact ⟨rfl, rfl⟩
  | refuse due isRecord rest => exact absurd (stored _ List.mem_cons_self) (by simp)

namespace Node

variable {node : Node σ}

theorem clock_writeRepeatedly {slot : StoreSlot} {record : Record.SessionRecord}
    {signal : CancelSignal σ} {attempts left delay : Nat} (accepting : node.volume.Accepting) :
    (leftBy (writeRepeatedly slot record signal attempts left delay) node).clock = node.clock := by
  cases left with
  | zero => rfl
  | succ left =>
    unfold leftBy
    rw [writeRepeatedly_succ, accepting.write]
    by_cases fired : signal.isFired node = true
    · simp only [if_pos fired]
    · simp only [if_neg fired]
      rfl

/-- A critical save that need not be repeated takes no time. -/
theorem clock_saveCritical (accepting : node.volume.Accepting) (slot : StoreSlot)
    (record : Record.SessionRecord) (signal : CancelSignal σ) :
    (leftBy (saveCritical slot record signal) node).clock = node.clock := by
  have ready := ((discardForWrites_replays slot node).accepting accepting).1
  rw [leftBy, saveCritical_eq]
  exact (clock_writeRepeatedly ready).trans (clock_discardFor slot node)

/-- A sleep leaves a save as it is that is due later, and brings one that is due before its end to
its write. -/
theorem sleep_cases {moment : Nat} (accepting : node.volume.Accepting) (punctual : node.Punctual)
    (notPast : node.clock ≤ moment) (connectionId : UInt32) :
    ((node.sleepUntil moment).own.saves.find? connectionId =
        node.own.saves.find? connectionId ∧ savesOf connectionId (node.sleepWrites moment) = []) ∨
      ∃ save, node.own.saves.find? connectionId = some save ∧ save.due < moment ∧
        (node.sleepUntil moment).own.saves.find? connectionId = none ∧
        savesOf connectionId (node.sleepWrites moment) =
          ((node.own.messenger.recordOf connectionId save).map
            (StoreWrite.ofSave connectionId save.due)).toList := by
  have ran := (sleepUntil_ran punctual notPast).2
  have stored := ((sleepWrites_replays moment node).accepting accepting).2
  have run := ran.runs connectionId
  cases waits : node.own.saves.find? connectionId with
  | none =>
    rw [waits] at run
    exact .inl run.of_none.symm
  | some save =>
    rw [waits] at run
    by_cases isDue : save.due < moment
    · have comesTo := run.of_stored
        (fun write member => stored write (List.mem_filter.1 member).1) (ran.onTime connectionId)
        isDue
      exact .inr ⟨save, rfl, isDue, comesTo⟩
    · exact .inl (run.of_not_due (Nat.not_lt.1 isDue)).symm

end Node

namespace SaveEvent

variable {node : Node σ}

theorem clock_happen (accepting : node.volume.Accepting) (event : SaveEvent σ) :
    (event.happen node).clock = node.clock := by
  cases event with
  | schedule scheduledId serial => rfl
  | discard dropped =>
    exact Node.clock_discardFor (.connection dropped) { node with gaveWay := false }
  | critical slot record signal =>
    have begins : Volume.Accepting { node with gaveWay := false }.volume := accepting
    exact Node.clock_saveCritical begins slot record signal
  | change update => rfl

/-- An event leaves a save that is to come as it is when the event has begun. -/
theorem happen_saves (accepting : node.volume.Accepting) (punctual : node.Punctual)
    (event : SaveEvent σ)
    (ahead : ∀ save, node.own.saves.find? connectionId = some save → node.clock < save.due) :
    savesOf connectionId (event.writes { node with gaveWay := false }) = [] ∧
      (event.happen node).own.saves.find? connectionId =
        (event.begun node).own.saves.find? connectionId := by
  have elapses := happen_elapses punctual event connectionId
  have run := elapses.run
  rw [clock_happen accepting] at run
  cases event with
  | schedule scheduledId serial => exact ⟨rfl, rfl⟩
  | change update => exact ⟨rfl, rfl⟩
  | discard _ | critical _ _ _ =>
    cases waits : (begun _ node).own.saves.find? connectionId with
    | none =>
      rw [waits] at run
      exact run.of_none
    | some save =>
      rw [waits] at run
      exact run.of_not_due (ahead save (Node.find?_of_dropping waits))

/-- What an event that is about a connection leaves of its save: a new one, or none. -/
theorem find?_saves_begun_of_concerns {event : SaveEvent σ} (concerns : event.Concerns connectionId)
    (node : Node σ) :
    (∃ serial, event = schedule connectionId serial ∧
        (event.begun node).own.saves.find? connectionId = some (node.scheduled serial)) ∨
      (∀ serial, event ≠ schedule connectionId serial) ∧
        (event.begun node).own.saves.find? connectionId = none := by
  cases event with
  | schedule scheduledId serial =>
    obtain rfl : scheduledId = connectionId := concerns
    exact .inl ⟨serial, rfl, OrderedMap.find?_insert_self _ _ _⟩
  | discard dropped =>
    obtain rfl : dropped = connectionId := concerns
    exact .inr ⟨by simp, Node.find?_saves_dropping_self _ _⟩
  | critical slot record signal =>
    obtain rfl : slot = .connection connectionId := concerns
    exact .inr ⟨by simp, Node.find?_saves_dropping_self _ _⟩
  | change update => cases concerns

/-! ### What is to be written -/

/-- The live connections at a moment, as the events before it have left them. -/
def connectionsAt (moment : Nat) :
    List (Nat × SaveEvent σ) → NumberMap LiveConnection → NumberMap LiveConnection
  | [], connections => connections
  | (happens, event) :: later, connections =>
    connectionsAt moment later (if happens < moment then event.update connections else connections)

variable {moment due : Nat} {event : SaveEvent σ} {events later : List (Nat × SaveEvent σ)}

theorem connectionsAt_cons_of_lt (before : moment < due) (event : SaveEvent σ)
    (later : List (Nat × SaveEvent σ)) (connections : NumberMap LiveConnection) :
    connectionsAt due ((moment, event) :: later) connections =
      connectionsAt due later (event.update connections) := by
  rw [connectionsAt, if_pos before]

/-- Events that come later do not matter. -/
theorem connectionsAt_of_le (notBefore : ∀ event ∈ events, due ≤ event.1)
    (connections : NumberMap LiveConnection) :
    connectionsAt due events connections = connections := by
  induction events with
  | nil => rfl
  | cons first later inductionHypothesis =>
    obtain ⟨ofFirst, ofLater⟩ := List.forall_mem_cons.1 notBefore
    rw [connectionsAt, if_neg (Nat.not_lt.2 ofFirst)]
    exact inductionHypothesis ofLater

end SaveEvent

/-- The save of a connection that is due at a moment before `last` is followed by `later` events,
none of which drops or replaces it before, and it writes the connection as it is among the live ones
when it is due. -/
structure Lands (connectionId : UInt32) (serial due last : Nat) (later : List (Nat × SaveEvent σ))
    (connections : NumberMap LiveConnection) (write : StoreWrite) : Prop where
  undisturbed : ∀ event ∈ later, event.2.Concerns connectionId → due ≤ event.1
  inTime : due < last
  isWrite : ∃ record, LiveConnection.recordIn connections connectionId serial = some record ∧
    write = .ofSave connectionId due record

theorem lands_cons_iff {serial due last moment : Nat} {event : SaveEvent σ}
    {later : List (Nat × SaveEvent σ)} {connections : NumberMap LiveConnection} {write : StoreWrite}
    (before : moment < due) :
    Lands connectionId serial due last ((moment, event) :: later) connections write ↔
      ¬ event.Concerns connectionId ∧
        Lands connectionId serial due last later connections write := by
  constructor
  · rintro ⟨undisturbed, inTime, isWrite⟩
    obtain ⟨ofFirst, ofLater⟩ := List.forall_mem_cons.1 undisturbed
    exact ⟨fun concerns => absurd (ofFirst concerns) (Nat.not_le.2 before), ofLater, inTime,
      isWrite⟩
  · rintro ⟨elsewhere, undisturbed, inTime, isWrite⟩
    exact ⟨List.forall_mem_cons.2 ⟨fun concerns => absurd concerns elsewhere, undisturbed⟩, inTime,
      isWrite⟩

/-- The save that waits at the start of a timeline lands. -/
def PendingLands (connectionId : UInt32) (pending : Option BackgroundSave) (last : Nat)
    (events : List (Nat × SaveEvent σ)) (connections : NumberMap LiveConnection)
    (write : StoreWrite) : Prop :=
  ∃ save, pending = some save ∧ Lands connectionId save.serial save.due last events
    (SaveEvent.connectionsAt save.due events connections) write

/-- A save that a timeline schedules lands. -/
def ScheduledLands (connectionId : UInt32) (debounce last : Nat) (events : List (Nat × SaveEvent σ))
    (connections : NumberMap LiveConnection) (write : StoreWrite) : Prop :=
  ∃ moment serial later, (moment, .schedule connectionId serial) :: later <:+ events ∧
    Lands connectionId serial (moment + debounce) last later
      (SaveEvent.connectionsAt (moment + debounce) events connections) write

/-- The events of a timeline come one after the other, from `start` on and before `last`, and no two
of them are exactly a debounce delay apart. -/
structure Timed (debounce start last : Nat) (events : List (Nat × SaveEvent σ)) : Prop where
  inTime : start ≤ last
  starts : ∀ event ∈ events, start ≤ event.1
  ends : ∀ event ∈ events, event.1 < last
  sorted : events.Pairwise fun earlier later => earlier.1 ≤ later.1
  apart : events.Pairwise fun earlier later => later.1 ≠ earlier.1 + debounce

theorem Timed.tail {debounce start last moment : Nat} {event : SaveEvent σ}
    {later : List (Nat × SaveEvent σ)}
    (timed : Timed debounce start last ((moment, event) :: later)) :
    Timed debounce moment last later where
  inTime := Nat.le_of_lt (timed.ends _ List.mem_cons_self)
  starts := (List.pairwise_cons.1 timed.sorted).1
  ends := (List.forall_mem_cons.1 timed.ends).2
  sorted := (List.pairwise_cons.1 timed.sorted).2
  apart := (List.pairwise_cons.1 timed.apart).2

variable {debounce last moment : Nat} {event : SaveEvent σ} {later : List (Nat × SaveEvent σ)}
  {connections : NumberMap LiveConnection} {write : StoreWrite}

/-- What lands of the schedules of a timeline is its first event, or one of the later ones. -/
theorem scheduledLands_cons_iff {start : Nat}
    (timed : Timed debounce start last ((moment, event) :: later)) :
    ScheduledLands connectionId debounce last ((moment, event) :: later) connections write ↔
      (∃ serial, event = .schedule connectionId serial ∧
        Lands connectionId serial (moment + debounce) last later
          (SaveEvent.connectionsAt (moment + debounce) later connections) write) ∨
      ScheduledLands connectionId debounce last later (event.update connections) write := by
  have isBefore : ∀ other serial rest,
      (other, SaveEvent.schedule connectionId serial) :: rest <:+ later →
        moment < other + debounce := by
    intro other serial rest isSuffix
    have member := isSuffix.mem List.mem_cons_self
    have notBefore : moment ≤ other := timed.tail.starts _ member
    have notApart : other ≠ moment + debounce := (List.pairwise_cons.1 timed.apart).1 _ member
    omega
  unfold ScheduledLands
  constructor
  · rintro ⟨other, serial, rest, isSuffix, lands⟩
    rcases List.suffix_cons_iff.1 isSuffix with same | isLater
    · cases same
      refine .inl ⟨serial, rfl, ?_⟩
      rw [SaveEvent.connectionsAt, SaveEvent.update, id, ite_self] at lands
      exact lands
    · rw [SaveEvent.connectionsAt_cons_of_lt (isBefore _ _ _ isLater)] at lands
      exact .inr ⟨other, serial, rest, isLater, lands⟩
  · rintro (⟨serial, rfl, lands⟩ | ⟨other, serial, rest, isLater, lands⟩)
    · refine ⟨moment, serial, later, List.suffix_refl _, ?_⟩
      rw [SaveEvent.connectionsAt, SaveEvent.update, id, ite_self]
      exact lands
    · refine ⟨other, serial, rest, isLater.trans (List.suffix_cons _ _), ?_⟩
      rw [SaveEvent.connectionsAt_cons_of_lt (isBefore _ _ _ isLater)]
      exact lands

namespace Node

variable {node : Node σ}

/-- A save that waits either comes to its write in a sleep, or it is still to land. -/
theorem sleep_lands (events : List (Nat × SaveEvent σ)) (last : Nat)
    (accepting : node.volume.Accepting) (punctual : node.Punctual) (notPast : node.clock ≤ moment)
    (starts : ∀ event ∈ events, moment ≤ event.1) (inTime : moment ≤ last)
    (waits : ∀ save, node.own.saves.find? connectionId = some save → save.stage = .waiting)
    (write : StoreWrite) :
    write ∈ savesOf connectionId (node.sleepWrites moment) ∨
        PendingLands connectionId ((node.sleepUntil moment).own.saves.find? connectionId) last
          events node.own.messenger.connections write ↔
      PendingLands connectionId (node.own.saves.find? connectionId) last events
        node.own.messenger.connections write := by
  rcases sleep_cases accepting punctual notPast connectionId with
    ⟨same, nothing⟩ | ⟨save, pending, isDue, noneLeft, writes⟩
  · rw [same, nothing]
    simp
  · have notBefore : ∀ event ∈ events, save.due ≤ event.1 := fun event member =>
      Nat.le_trans (Nat.le_of_lt isDue) (starts event member)
    rw [noneLeft, writes, pending, Messenger.recordOf_of_waiting (waits save pending)]
    unfold PendingLands
    simp only [Option.mem_toList, Option.map_eq_some_iff, reduceCtorEq, false_and, exists_false,
      or_false, Option.some.injEq, exists_eq_left', SaveEvent.connectionsAt_of_le notBefore]
    constructor
    · rintro ⟨record, isRecord, rfl⟩
      exact ⟨fun event member _ => notBefore event member, Nat.lt_of_lt_of_le isDue inTime,
        record, isRecord, rfl⟩
    · rintro ⟨_, _, record, isRecord, rfl⟩
      exact ⟨record, isRecord, rfl⟩

/-- An event drops the save that waits, schedules one, or leaves it to the later events. -/
theorem begun_lands (isNow : node.clock = moment)
    (isDebounce : debounce = node.own.debounceDelay)
    (ahead : ∀ save, node.own.saves.find? connectionId = some save → moment < save.due)
    (write : StoreWrite) :
    PendingLands connectionId ((event.begun node).own.saves.find? connectionId) last later
        (event.update connections) write ↔
      PendingLands connectionId (node.own.saves.find? connectionId) last
          ((moment, event) :: later) connections write ∨
        ∃ serial, event = .schedule connectionId serial ∧
          Lands connectionId serial (moment + debounce) last later
            (SaveEvent.connectionsAt (moment + debounce) later connections) write := by
  by_cases concerns : event.Concerns connectionId
  · have dropped : ¬ PendingLands connectionId (node.own.saves.find? connectionId) last
        ((moment, event) :: later) connections write := by
      rintro ⟨save, pending, lands⟩
      exact ((lands_cons_iff (ahead save pending)).1 lands).1 concerns
    rcases SaveEvent.find?_saves_begun_of_concerns concerns node with
      ⟨serial, rfl, isNew⟩ | ⟨noSchedule, noneLeft⟩
    · have due : (node.scheduled serial).due = moment + debounce := by
        rw [isDebounce, ← isNow]
        rfl
      rw [isNew, or_iff_right dropped]
      unfold PendingLands
      simp only [Option.some.injEq, exists_eq_left', due, SaveEvent.schedule.injEq, true_and]
      exact Iff.rfl
    · rw [noneLeft, or_iff_right dropped]
      unfold PendingLands
      simp [noSchedule]
  · have noSchedule : ∀ serial, event ≠ .schedule connectionId serial := by
      rintro serial rfl
      exact concerns rfl
    rw [SaveEvent.find?_saves_begun concerns node]
    simp only [noSchedule, false_and, exists_false, or_false]
    unfold PendingLands
    refine exists_congr fun save => and_congr_right fun pending => ?_
    rw [lands_cons_iff (ahead save pending),
      SaveEvent.connectionsAt_cons_of_lt (ahead save pending)]
    exact (and_iff_right concerns).symm

/-- The write of a save that lands comes when the save is due. -/
theorem moment_le_of_pendingLands {pending : Option BackgroundSave}
    {events : List (Nat × SaveEvent σ)} (onTime : ∀ save, pending = some save → moment ≤ save.due)
    (lands : PendingLands connectionId pending last events connections write) :
    moment ≤ write.moment := by
  obtain ⟨save, isPending, _, _, record, _, rfl⟩ := lands
  exact onTime save isPending

theorem moment_le_of_scheduledLands {events : List (Nat × SaveEvent σ)}
    (starts : ∀ event ∈ events, moment ≤ event.1)
    (lands : ScheduledLands connectionId debounce last events connections write) :
    moment ≤ write.moment := by
  obtain ⟨other, serial, later, isSuffix, _, _, record, _, rfl⟩ := lands
  have notBefore : moment ≤ other := starts _ (isSuffix.mem List.mem_cons_self)
  exact Nat.le_trans notBefore (Nat.le_add_right _ _)

/-- One sleep comes to one write at most, and before it ends. -/
theorem sleep_saves_sorted (accepting : node.volume.Accepting) (punctual : node.Punctual)
    (notPast : node.clock ≤ moment) (connectionId : UInt32) :
    (savesOf connectionId (node.sleepWrites moment)).Pairwise
        (fun first second => first.moment < second.moment) ∧
      ∀ write ∈ savesOf connectionId (node.sleepWrites moment), write.moment < moment := by
  rcases sleep_cases accepting punctual notPast connectionId with
    ⟨_, nothing⟩ | ⟨save, _, isDue, _, writes⟩
  · rw [nothing]
    exact ⟨.nil, by simp⟩
  · rw [writes]
    cases node.own.messenger.recordOf connectionId save with
    | none => exact ⟨.nil, by simp⟩
    | some record => exact ⟨List.pairwise_singleton _ _, by simpa [StoreWrite.ofSave] using isDue⟩

theorem find?_saves_of_sleep {save : BackgroundSave} (accepting : node.volume.Accepting)
    (punctual : node.Punctual) (notPast : node.clock ≤ moment)
    (stays : (node.sleepUntil moment).own.saves.find? connectionId = some save) :
    node.own.saves.find? connectionId = some save := by
  rcases sleep_cases accepting punctual notPast connectionId with
    ⟨same, _⟩ | ⟨_, _, _, noneLeft, _⟩
  · rwa [same] at stays
  · rw [noneLeft] at stays
    cases stays

/-- After an event the save of a connection waits that the event has scheduled, or the one that
waited before. -/
theorem waiting_of_begun {save : BackgroundSave} (isNow : node.clock = moment)
    (isDebounce : debounce = node.own.debounceDelay)
    (waits : (event.begun node).own.saves.find? connectionId = some save) :
    node.own.saves.find? connectionId = some save ∨
      save.stage = .waiting ∧ save.due = moment + debounce := by
  by_cases concerns : event.Concerns connectionId
  · rcases SaveEvent.find?_saves_begun_of_concerns concerns node with
      ⟨serial, _, isNew⟩ | ⟨_, noneLeft⟩
    · rw [isNew] at waits
      cases waits
      rw [isDebounce, ← isNow]
      exact .inr ⟨rfl, rfl⟩
    · rw [noneLeft] at waits
      cases waits
  · rw [SaveEvent.find?_saves_begun concerns node] at waits
    exact .inl waits

/-- Between two events of a timeline: no write fails, every save is on time, and the one of the
connection waits until a moment at which nothing is to happen. -/
structure Coalescing (connectionId : UInt32) (debounce : Nat) (events : List (Nat × SaveEvent σ))
    (node : Node σ) : Prop where
  accepting : node.volume.Accepting
  punctual : node.Punctual
  settings : debounce = node.own.debounceDelay
  waiting : ∀ save, node.own.saves.find? connectionId = some save → save.stage = .waiting
  apart : ∀ save, node.own.saves.find? connectionId = some save →
    ∀ event ∈ events, event.1 ≠ save.due

namespace Coalescing

variable {events : List (Nat × SaveEvent σ)}

theorem sleep (coalescing : node.Coalescing connectionId debounce events)
    (notPast : node.clock ≤ moment) :
    (node.sleepUntil moment).Coalescing connectionId debounce events := by
  obtain ⟨accepting, punctual, settings, waiting, apart⟩ := coalescing
  have ran := (sleepUntil_ran punctual notPast).2
  have stays : ∀ save, (node.sleepUntil moment).own.saves.find? connectionId = some save →
      node.own.saves.find? connectionId = some save :=
    fun _ left => find?_saves_of_sleep accepting punctual notPast left
  refine ⟨((sleepWrites_replays moment node).accepting accepting).1,
    (sleepUntil_elapses moment punctual 0).punctual, ?_,
    fun save left => waiting save (stays save left), fun save left => apart save (stays save left)⟩
  unfold Process.debounceDelay
  rw [ran.messenger, ran.timer]
  exact settings

/-- When an event happens, the save is still ahead. -/
theorem ahead (coalescing : node.Coalescing connectionId debounce ((moment, event) :: later))
    (isNow : node.clock = moment) (save : BackgroundSave)
    (waits : node.own.saves.find? connectionId = some save) : moment < save.due := by
  have onTime : node.clock ≤ save.due := coalescing.punctual.onTime connectionId save waits
  have notNow : moment ≠ save.due := coalescing.apart save waits _ List.mem_cons_self
  omega

theorem happen (coalescing : node.Coalescing connectionId debounce ((moment, event) :: later))
    (isNow : node.clock = moment) (apart : ∀ other ∈ later, other.1 ≠ moment + debounce) :
    (event.happen node).Coalescing connectionId debounce later := by
  have settled := (SaveEvent.happen_saves coalescing.accepting coalescing.punctual event
    (fun save waits => by rw [isNow]; exact coalescing.ahead isNow save waits)).2
  have sameParty := SaveEvent.messenger_happen coalescing.punctual event
  have left : ∀ save, (event.happen node).own.saves.find? connectionId = some save →
      save.stage = .waiting ∧ ∀ other ∈ later, other.1 ≠ save.due := by
    intro save waits
    rw [settled] at waits
    rcases waiting_of_begun isNow coalescing.settings waits with earlier | ⟨isWaiting, due⟩
    · exact ⟨coalescing.waiting save earlier,
        (List.forall_mem_cons.1 (coalescing.apart save earlier)).2⟩
    · rw [due]
      exact ⟨isWaiting, apart⟩
  refine ⟨((event.happen_replays node).accepting coalescing.accepting).1,
    SaveEvent.punctual_happen coalescing.punctual event, ?_, fun save waits => (left save waits).1,
    fun save waits => (left save waits).2⟩
  unfold Process.debounceDelay
  rw [sameParty, SaveEvent.timer_happen coalescing.punctual event]
  exact coalescing.settings

end Coalescing

/-- The writes for a connection during a timeline are those of the saves that land, one after the
other: the one that waits at the start, and those that the events schedule. -/
theorem timeline_lands {events : List (Nat × SaveEvent σ)}
    (coalescing : node.Coalescing connectionId debounce events)
    (timed : Timed debounce node.clock last events) :
    (savesOf connectionId (timelineWrites last events node)).Pairwise
        (fun first second => first.moment < second.moment) ∧
      ∀ write, write ∈ savesOf connectionId (timelineWrites last events node) ↔
        PendingLands connectionId (node.own.saves.find? connectionId) last events
            node.own.messenger.connections write ∨
          ScheduledLands connectionId debounce last events node.own.messenger.connections
            write := by
  induction events generalizing node with
  | nil =>
    obtain ⟨accepting, punctual, _, waiting, _⟩ := coalescing
    have notPast := timed.inTime
    refine ⟨(sleep_saves_sorted accepting punctual notPast connectionId).1, fun write => ?_⟩
    have onTime := (sleepUntil_ran punctual notPast).2.onTime connectionId
    have slept := sleep_lands [] last accepting punctual notPast (by simp) (Nat.le_refl _) waiting
      write
    have nothingPending : ¬ PendingLands connectionId
        ((node.sleepUntil last).own.saves.find? connectionId) last
        ([] : List (Nat × SaveEvent σ)) node.own.messenger.connections write := by
      rintro ⟨save, pending, _, isDue, _⟩
      exact absurd isDue (Nat.not_lt.2 (onTime save pending))
    have nothingScheduled : ¬ ScheduledLands connectionId debounce last
        ([] : List (Nat × SaveEvent σ)) node.own.messenger.connections write := by
      rintro ⟨_, _, _, isSuffix, _⟩
      cases List.suffix_nil.1 isSuffix
    rw [or_iff_left nothingPending] at slept
    rw [or_iff_left nothingScheduled]
    exact slept
  | cons first later inductionHypothesis =>
    obtain ⟨moment, event⟩ := first
    have notPast : node.clock ≤ moment := timed.starts _ List.mem_cons_self
    have notLast : moment < last := timed.ends _ List.mem_cons_self
    have notBefore : ∀ other ∈ (moment, event) :: later, moment ≤ other.1 :=
      List.forall_mem_cons.2 ⟨Nat.le_refl _, timed.tail.starts⟩
    -- The sleep until the event.
    obtain ⟨reached, ran⟩ := sleepUntil_ran coalescing.punctual notPast
    have slept := coalescing.sleep notPast
    obtain ⟨sleptSorted, sleptBefore⟩ :=
      sleep_saves_sorted coalescing.accepting coalescing.punctual notPast connectionId
    -- The event.
    have happened := slept.happen reached (List.pairwise_cons.1 timed.apart).1
    obtain ⟨silent, settled⟩ := SaveEvent.happen_saves slept.accepting slept.punctual event
      (fun save stays => by rw [reached]; exact slept.ahead reached save stays)
    have isNow := (SaveEvent.clock_happen slept.accepting event).trans reached
    have sameParty := SaveEvent.messenger_happen slept.punctual event
    rw [ran.messenger] at sameParty
    -- The later events.
    have rest := inductionHypothesis happened
    rw [isNow, sameParty, settled] at rest
    obtain ⟨sorted, isLater⟩ := rest timed.tail
    simp only [timelineWrites, savesOf_append, silent, List.append_nil]
    constructor
    · refine List.pairwise_append.2 ⟨sleptSorted, sorted, fun first isFirst second isSecond => ?_⟩
      refine Nat.lt_of_lt_of_le (sleptBefore first isFirst) ?_
      rcases (isLater second).1 isSecond with lands | lands
      · refine moment_le_of_pendingLands (fun save pending => ?_) lands
        rw [← isNow]
        exact happened.punctual.onTime connectionId save (settled.trans pending)
      · exact moment_le_of_scheduledLands timed.tail.starts lands
    · intro write
      rw [List.mem_append, isLater, begun_lands reached slept.settings (slept.ahead reached),
        scheduledLands_cons_iff timed,
        ← sleep_lands _ last coalescing.accepting coalescing.punctual notPast notBefore
          (Nat.le_of_lt notLast) coalescing.waiting write]
      simp only [or_assoc]

/-- If every write succeeds, the saves of a connection coalesce: what is written in the background
is the connection at the moments at which a schedule has been left alone for the debounce delay, as
it is then, one write for each such schedule. -/
theorem debounced_saves_coalesce {events : List (Nat × SaveEvent σ)}
    (accepting : node.volume.Accepting) (punctual : node.Punctual)
    (idle : node.own.saves.find? connectionId = none)
    (timed : Timed node.own.debounceDelay node.clock last events) :
    node.volume.Replays (timelineWrites last events node) (timelineUntil last events node).volume ∧
      (savesOf connectionId (timelineWrites last events node)).Pairwise
        (fun first second => first.moment < second.moment) ∧
      ∀ write, write ∈ savesOf connectionId (timelineWrites last events node) ↔
        ScheduledLands connectionId node.own.debounceDelay last events
          node.own.messenger.connections write := by
  have coalescing : node.Coalescing connectionId node.own.debounceDelay events := by
    refine ⟨accepting, punctual, rfl, ?_, ?_⟩ <;> rw [idle] <;> exact nofun
  obtain ⟨sorted, lands⟩ := timeline_lands coalescing timed
  refine ⟨timelineWrites_replays last events node, sorted, fun write => (lands write).trans ?_⟩
  rw [idle]
  unfold PendingLands
  simp

theorem sampleConnected_accepting (config : Config) :
    (sampleConnected config 0).volume.Accepting := by
  intro counts slot
  simp [sampleConnected, Volume.failNext, Volume.countOf, WriteCounts.total]

/-- The live connections after the next message of one was made to start a new chain. -/
def sampleTurn (connections : NumberMap LiveConnection) : NumberMap LiveConnection :=
  match connections.find? 1 with
  | none => connections
  | some live =>
    match live.connection.forceRatchet with
    | .error _ => connections
    | .ok turned => connections.insert 1 { live with connection := turned }

/-- A session is saved twice in a row, then changed; later it is saved critically while a save
waits, and closed while another one waits. -/
def sampleEvents : List (Nat × SaveEvent Nat) :=
  [(0, .schedule 1 0), (100, .schedule 1 0), (200, .change sampleTurn), (1000, .schedule 1 0),
    (1100, .critical (.connection 1) {} .never), (2000, .schedule 1 0), (2100, .change (·.erase 1))]

/-- Of all this only one write comes in the background, and it writes the change. -/
theorem debounced_saves_coalesce_sample :
    (sampleConnected {} 0).volume.Accepting ∧ (sampleConnected {} 0).Punctual ∧
      (sampleConnected {} 0).own.saves.find? 1 = none ∧
      Timed (sampleConnected {} 0).own.debounceDelay (sampleConnected {} 0).clock 3000
        sampleEvents ∧
      (∀ write, write ∈ savesOf 1 (timelineWrites 3000 sampleEvents (sampleConnected {} 0)) ↔
        ScheduledLands 1 (sampleConnected {} 0).own.debounceDelay 3000 sampleEvents
          (sampleConnected {} 0).own.messenger.connections write) ∧
      (savesOf 1 (timelineWrites 3000 sampleEvents (sampleConnected {} 0))).map
          (fun write => (write.moment, some write.record)) =
        [(350, LiveConnection.recordIn
          (sampleTurn (sampleConnected {} 0).own.messenger.connections) 1 0)] := by
  have accepting := sampleConnected_accepting {}
  have punctual := sampleConnected_punctual {} 0
  have idle : (sampleConnected {} 0).own.saves.find? 1 = none := by decide +kernel
  have settings : (sampleConnected {} 0).own.debounceDelay = 250 ∧
      (sampleConnected {} 0).clock = 0 := by
    decide +kernel
  have timed : Timed (sampleConnected {} 0).own.debounceDelay (sampleConnected {} 0).clock 3000
      sampleEvents := by
    rw [settings.1, settings.2]
    exact ⟨by decide, by simp [sampleEvents], by simp [sampleEvents], by simp [sampleEvents],
      by simp [sampleEvents]⟩
  exact ⟨accepting, punctual, idle, timed,
    (debounced_saves_coalesce accepting punctual idle timed).2.2, by decide +kernel⟩

/-- A debounce delay that would be longer than the longest wait is cut to it, so a save may be
written before its delay is over. -/
theorem long_debounce_is_cut :
    ¬ ∀ connectionId last (events : List (Nat × SaveEvent Nat)) (node : Node Nat),
      node.volume.Accepting → node.Punctual → node.own.saves.find? connectionId = none →
      Timed node.own.messenger.config.saveDebounce node.clock last events →
      ∀ write, write ∈ savesOf connectionId (timelineWrites last events node) ↔
        ScheduledLands connectionId node.own.messenger.config.saveDebounce last events
          node.own.messenger.connections write := by
  intro lands
  let node := sampleConnected { saveDebounce := 946080000005 } 0
  let events : List (Nat × SaveEvent Nat) := [(0, .schedule 1 0)]
  have settings : node.own.messenger.config.saveDebounce = 946080000005 ∧ node.clock = 0 ∧
      node.own.saves.find? 1 = none := by
    decide +kernel
  have timed : Timed node.own.messenger.config.saveDebounce node.clock 1000000000000 events := by
    rw [settings.1, settings.2.1]
    exact ⟨by decide, by simp, by simp [events], by simp [events], by simp [events]⟩
  have moments : (savesOf 1 (timelineWrites 1000000000000 events node)).map StoreWrite.moment =
      [946080000000] := by
    decide +kernel
  obtain ⟨write, member, isMoment⟩ :=
    List.mem_map.1 (moments ▸ List.mem_singleton_self 946080000000)
  have landed := (lands 1 1000000000000 events node (sampleConnected_accepting _)
    (sampleConnected_punctual _ 0) settings.2.2 timed write).1 member
  obtain ⟨moment, serial, later, _, _, _, record, _, rfl⟩ := landed
  rw [settings.1] at isMoment
  simp only [StoreWrite.ofSave] at isMoment
  omega

end Node

end RatchetMessaging
