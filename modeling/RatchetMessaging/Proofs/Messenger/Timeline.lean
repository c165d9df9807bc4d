import RatchetMessaging.Proofs.Messenger.SaveRun

/-!
Contract: saves as they are asked for, one moment after the other.

Owns:
- `SaveEvent`, what can be asked of the saves of a party: to schedule one, to drop one, to save
  critically, and a change of the live connections;
- a timeline of such events, the node that it leads to, and the journal of its writes;
- `Node.Elapses`, for whatever leaves the save of one connection to its run: the passage of time,
  and every event once it has begun.

Does not own: the writes of a whole timeline.
-/

namespace RatchetMessaging

variable {σ : Type} {connectionId : UInt32}

/-! ### Events -/

/-- What can be asked of the saves of a party. -/
inductive SaveEvent (σ : Type) where
  /-- A live connection is to be saved in the background. -/
  | schedule (connectionId : UInt32) (serial : Nat)
  /-- The background save of a connection is dropped. -/
  | discard (connectionId : UInt32)
  /-- A record is saved critically. -/
  | critical (slot : StoreSlot) (record : Record.SessionRecord) (signal : CancelSignal σ)
  /-- Live connections come, change and go. -/
  | change (update : NumberMap LiveConnection → NumberMap LiveConnection)

namespace SaveEvent

/-- The operation that carries an event out. -/
def operation : SaveEvent σ → Operation σ Unit
  | schedule connectionId serial => Node.scheduleSave connectionId serial
  | discard connectionId => Node.discardSave connectionId
  | critical slot record signal => Node.saveCritical slot record signal
  | change update => Node.modifyMessenger fun messenger =>
    { messenger with connections := update messenger.connections }

/-- The writes while an event is carried out. -/
def writes : SaveEvent σ → Node σ → List StoreWrite
  | schedule _ _, _ => []
  | discard connectionId, node => Node.discardWrites connectionId node
  | critical slot record signal, node => Node.criticalWrites slot record signal node
  | change _, _ => []

/-- Whether an event is about the background save of a connection: it schedules the save anew,
drops it, or makes it superfluous. -/
def Concerns (connectionId : UInt32) : SaveEvent σ → Prop
  | schedule scheduled _ => scheduled = connectionId
  | discard dropped => dropped = connectionId
  | critical slot _ _ => slot = .connection connectionId
  | change _ => False

/-- What an event makes of the live connections. -/
def update : SaveEvent σ → NumberMap LiveConnection → NumberMap LiveConnection
  | change update => update
  | schedule _ _ | discard _ | critical _ _ _ => id

/-- The node after an event. It begins like every operation: nothing has given way yet. -/
def happen (event : SaveEvent σ) (node : Node σ) : Node σ :=
  Node.leftBy event.operation { node with gaveWay := false }

end SaveEvent

namespace Node

/-- Let time pass until a moment, unless it has been reached. -/
def sleepUntil (moment : Nat) (node : Node σ) : Node σ :=
  if node.clock < moment then waitUntil .never moment node else node

/-- The writes while time passes until a moment. -/
def sleepWrites (moment : Nat) (node : Node σ) : List StoreWrite :=
  if node.clock < moment then waitUntilWrites .never moment node else []

/-- The node after a list of events, each at its moment. -/
def timeline : List (Nat × SaveEvent σ) → Node σ → Node σ
  | [], node => node
  | (moment, event) :: later, node => timeline later (event.happen (node.sleepUntil moment))

/-- The node when a timeline has reached a moment after its events. -/
def timelineUntil (last : Nat) (events : List (Nat × SaveEvent σ)) (node : Node σ) : Node σ :=
  (timeline events node).sleepUntil last

/-- The writes during a list of events and up to a moment after them. -/
def timelineWrites (last : Nat) : List (Nat × SaveEvent σ) → Node σ → List StoreWrite
  | [], node => node.sleepWrites last
  | (moment, event) :: later, node =>
    node.sleepWrites moment ++
      event.writes { node.sleepUntil moment with gaveWay := false } ++
        timelineWrites last later (event.happen (node.sleepUntil moment))

/-- Every save of the process at work has a turn of its own, and none is overdue. So it is from the
start of a process on, when it has no unfinished saves. -/
structure Punctual (node : Node σ) : Prop where
  inLine : node.toSite.InLine
  onTime : node.toSite.OnTime node.clock

/-- The save of a connection is left to its run. -/
structure Elapses (connectionId : UInt32) (node after : Node σ) (writes : List StoreWrite) :
    Prop where
  messenger : after.own.messenger = node.own.messenger
  timer : after.own.timer = node.own.timer
  punctual : after.Punctual
  clock : node.clock ≤ after.clock
  run : SaveRun node.own.messenger node.own.timer connectionId (after.clock + 1)
    (node.own.saves.find? connectionId) (savesOf connectionId writes)
    (after.own.saves.find? connectionId)

end Node

namespace Node

variable {node middle after : Node σ} {first second writes : List StoreWrite}

namespace Elapses

theorem refl (connectionId : UInt32) (punctual : node.Punctual) :
    Elapses connectionId node node [] :=
  ⟨rfl, rfl, punctual, Nat.le_refl _, .rest _⟩

theorem trans (begins : Elapses connectionId node middle first)
    (ends : Elapses connectionId middle after second) :
    Elapses connectionId node after (first ++ second) where
  messenger := ends.messenger.trans begins.messenger
  timer := ends.timer.trans begins.timer
  punctual := ends.punctual
  clock := Nat.le_trans begins.clock ends.clock
  run := by
    have rest := ends.run
    rw [begins.messenger, begins.timer] at rest
    rw [savesOf_append]
    exact (begins.run.mono (Nat.succ_le_succ ends.clock)).trans rest

/-- Whatever the site has gone through up to the clock leaves every save to its run. -/
theorem of_ran (after : Node σ) {limit : Nat} (ran : node.toSite.Ran after.toSite limit writes)
    (later : node.clock ≤ after.clock) (reached : after.clock ≤ limit)
    (within : limit ≤ after.clock + 1) (connectionId : UInt32) :
    Elapses connectionId node after writes where
  messenger := ran.messenger
  timer := ran.timer
  punctual := ⟨ran.inLine, ran.onTime.mono reached⟩
  clock := later
  run := (ran.runs connectionId).mono within

end Elapses

/-! ### The passage of time -/

theorem giveWay_elapses (punctual : node.Punctual) (connectionId : UInt32) :
    Elapses connectionId node node.giveWay node.giveWayWrites :=
  .of_ran node.giveWay (Site.catchUp_ran punctual.inLine punctual.onTime)
    (Nat.le_refl _) (Nat.le_succ _) (Nat.le_refl _) connectionId

theorem waitUntil_elapses (signal : CancelSignal σ) {target : Nat} (punctual : node.Punctual)
    (ahead : node.clock < target)
    (notFired : ∀ moment, signal.deadline = some moment → node.clock ≤ moment)
    (connectionId : UInt32) :
    Elapses connectionId node (waitUntil signal target node)
      (waitUntilWrites signal target node) := by
  have wakesLater : ∀ moment, signal.wakeUp? target = some moment →
      node.clock ≤ moment ∧ moment < target := by
    intro moment wakes
    obtain ⟨isDeadline, before⟩ := Option.filter_eq_some_iff.1 wakes
    exact ⟨notFired moment isDeadline, of_decide_eq_true before⟩
  have limitAhead : node.clock < ((signal.wakeUp? target).map (· + 1)).getD target := by
    cases wakes : signal.wakeUp? target with
    | none => exact ahead
    | some moment => exact Nat.lt_succ_of_le (wakesLater moment wakes).1
  have ran := Site.run_ran (signal.trigger node.crypto) punctual.inLine punctual.onTime
    limitAhead
  unfold waitUntil waitUntilWrites
  simp only
  split
  · rename_i moment site isRun
    rw [isRun] at ran
    obtain ⟨later, _, ran⟩ := ran
    exact .of_ran _ ran later (Nat.le_succ _) (Nat.le_refl _) connectionId
  · rename_i site isRun
    rw [isRun] at ran
    cases wakes : signal.wakeUp? target with
    | none =>
      rw [wakes] at ran
      exact .of_ran _ ran (Nat.le_of_lt ahead) (Nat.le_refl _) (Nat.le_succ _) connectionId
    | some moment =>
      have later := (wakesLater moment wakes).1
      rw [wakes] at ran
      refine .of_ran _ ran (Nat.le_max_left _ _) ?_ ?_ connectionId
      · simp only [Nat.max_eq_right later]
        exact Nat.le_succ _
      · simp only [Nat.max_eq_right later]
        exact Nat.le_refl _

theorem lt_waitEnd (clock : Nat) {duration : Nat} (someTime : duration ≠ 0) (timer : Timer) :
    clock < waitEnd clock duration timer := by
  have longest := timer.positive
  unfold waitEnd
  omega

theorem le_of_not_fired {signal : CancelSignal σ} (notFired : ¬ signal.isFired node = true)
    {moment : Nat} (isDeadline : signal.deadline = some moment) : node.clock ≤ moment := by
  have horizon : node.clock ≤ node.horizon := by
    unfold Node.horizon
    split <;> omega
  simp only [CancelSignal.isFired, isDeadline, Option.any_some, Bool.or_eq_true,
    decide_eq_true_eq, not_or] at notFired
  omega

theorem wait_elapses (signal : CancelSignal σ) (duration : Nat) (punctual : node.Punctual)
    (connectionId : UInt32) :
    Elapses connectionId node (leftBy (wait signal duration) node)
      (waitWrites signal duration node) := by
  unfold leftBy wait waitWrites
  by_cases fired : signal.isFired node = true
  · simp only [if_pos fired]
    exact .refl connectionId punctual
  · simp only [if_neg fired]
    by_cases noWait : duration = 0
    · simp only [if_pos noWait]
      exact .refl connectionId punctual
    · simp only [if_neg noWait]
      have waits := waitUntil_elapses signal punctual
        (lt_waitEnd node.clock noWait node.own.timer) (fun _ => le_of_not_fired fired) connectionId
      by_cases wokenUp : signal.isFired
          (waitUntil signal (waitEnd node.clock duration node.own.timer) node) = true
      · simp only [if_pos wokenUp]
        exact waits
      · simp only [if_neg wokenUp]
        exact waits

theorem sleepUntil_elapses (moment : Nat) (punctual : node.Punctual) (connectionId : UInt32) :
    Elapses connectionId node (node.sleepUntil moment) (node.sleepWrites moment) := by
  unfold sleepUntil sleepWrites
  by_cases ahead : node.clock < moment
  · rw [if_pos ahead, if_pos ahead]
    exact waitUntil_elapses .never punctual ahead (fun _ isSome => by cases isSome) connectionId
  · rw [if_neg ahead, if_neg ahead]
    exact .refl connectionId punctual

/-- Nothing ends a run that nobody stops. -/
theorem run_unstopped (limit clock : Nat) (site : Site) :
    (site.run (fun _ => false) limit clock).1 = none := by
  unfold Site.run
  generalize site.work = steps
  induction steps generalizing site clock with
  | zero => rfl
  | succ steps inductionHypothesis =>
    unfold Site.runWithin
    cases site.next? with
    | none => rfl
    | some save =>
      by_cases isDue : save.due < limit
      · simp only [if_pos isDue]
        exact inductionHypothesis _ _
      · simp only [if_neg isDue]

/-- Without a signal a wait ends at its moment, and nothing at it has happened yet. -/
theorem waitUntil_never (target : Nat) (node : Node σ) :
    waitUntil .never target node = { node with
      toSite := (node.toSite.run (fun _ => false) target node.clock).2
      clock := target
      gaveWay := false } := by
  have unstopped := run_unstopped target node.clock node.toSite
  unfold waitUntil
  simp only
  split
  · rename_i moment site ran
    change node.toSite.run (fun _ => false) target node.clock = _ at ran
    rw [ran] at unstopped
    cases unstopped
  · rename_i site ran
    change node.toSite.run (fun _ => false) target node.clock = _ at ran
    rw [ran]
    rfl

theorem sleepUntil_of_ahead {moment : Nat} (ahead : node.clock < moment) :
    node.sleepUntil moment = { node with
      toSite := (node.toSite.run (fun _ => false) moment node.clock).2
      clock := moment
      gaveWay := false } := by
  unfold sleepUntil
  rw [if_pos ahead, waitUntil_never]

/-- A sleep ends when everything before its moment has happened. -/
theorem sleepUntil_ran {moment : Nat} (punctual : node.Punctual) (notPast : node.clock ≤ moment) :
    (node.sleepUntil moment).clock = moment ∧
      node.toSite.Ran (node.sleepUntil moment).toSite moment (node.sleepWrites moment) := by
  rcases Nat.lt_or_eq_of_le notPast with ahead | reached
  · have ran := Site.run_ran (fun _ => false) punctual.inLine punctual.onTime ahead
    have unstopped := run_unstopped moment node.clock node.toSite
    rw [sleepUntil_of_ahead ahead]
    unfold sleepWrites
    rw [if_pos ahead]
    split at ran
    · rename_i stopped site isRun
      rw [isRun] at unstopped
      cases unstopped
    · rename_i site isRun
      rw [isRun]
      exact ⟨rfl, ran⟩
  · subst reached
    unfold sleepUntil sleepWrites
    rw [if_neg (Nat.lt_irrefl _), if_neg (Nat.lt_irrefl _)]
    exact ⟨rfl, rfl, rfl, punctual.inLine, punctual.onTime, fun _ => .rest _⟩

/-! ### Critical saves -/

theorem tried_elapses (punctual : node.Punctual) (slot : StoreSlot) (record : Record.SessionRecord)
    (connectionId : UInt32) :
    Elapses connectionId node (node.tried slot record)
      [⟨node.clock, .critical, slot, record, (node.volume.write slot record).1⟩] where
  messenger := rfl
  timer := rfl
  punctual := ⟨⟨punctual.inLine.own, punctual.inLine.others⟩, punctual.onTime⟩
  clock := Nat.le_refl _
  run := by
    rw [savesOf_cons_other [] (.inl (by simp))]
    exact .rest _

theorem writeRepeatedly_elapses {signal : CancelSignal σ} {attempts left delay : Nat}
    (punctual : node.Punctual) (slot : StoreSlot) (record : Record.SessionRecord)
    (connectionId : UInt32) :
    Elapses connectionId node
      (leftBy (writeRepeatedly slot record signal attempts left delay) node)
      (repeatedWrites slot record signal left delay node) := by
  induction left generalizing delay node with
  | zero => exact .refl connectionId punctual
  | succ left inductionHypothesis =>
    unfold leftBy repeatedWrites
    rw [writeRepeatedly_succ]
    by_cases fired : signal.isFired node = true
    · simp only [if_pos fired]
      exact .refl connectionId punctual
    · simp only [if_neg fired]
      have tries := tried_elapses punctual slot record connectionId
      cases answer : (node.volume.write slot record).1 with
      | none =>
        rw [answer] at tries
        exact tries
      | some failure =>
        rw [answer] at tries
        by_cases isLast : left = 0
        · simp only [if_pos isLast]
          exact tries
        · simp only [if_neg isLast]
          have waits := wait_elapses signal delay tries.punctual connectionId
          unfold leftBy at waits
          cases waited : wait signal delay (node.tried slot record) with
          | ok value later =>
            rw [waited] at waits
            exact tries.trans (waits.trans (inductionHypothesis waits.punctual))
          | error reason later =>
            rw [waited] at waits
            simp only [List.append_nil]
            exact tries.trans waits

theorem find?_saves_dropping_self (node : Node σ) (connectionId : UInt32) :
    (node.dropping (.connection connectionId)).own.saves.find? connectionId = none :=
  OrderedMap.find?_erase_self _ _

theorem find?_saves_dropping_other {slot : StoreSlot} (other : slot ≠ .connection connectionId)
    (node : Node σ) :
    (node.dropping slot).own.saves.find? connectionId = node.own.saves.find? connectionId := by
  cases slot with
  | identity => rfl
  | connection dropped =>
    exact OrderedMap.find?_erase_other _ fun same => other (congrArg StoreSlot.connection same)

theorem find?_of_dropping {slot : StoreSlot} {save : BackgroundSave}
    (found : (node.dropping slot).own.saves.find? connectionId = some save) :
    node.own.saves.find? connectionId = some save := by
  cases slot with
  | identity => exact found
  | connection dropped => exact OrderedMap.find?_of_find?_erase found

theorem Punctual.dropping (punctual : node.Punctual) (slot : StoreSlot) :
    (node.dropping slot).Punctual where
  inLine := by
    refine ⟨fun first second firstSave secondSave isFirst isSecond => ?_,
      fun connectionId save found process isOther other member => ?_⟩
    · exact punctual.inLine.own first second firstSave secondSave (find?_of_dropping isFirst)
        (find?_of_dropping isSecond)
    · have others : (node.dropping slot).others = node.others := rfl
      rw [others] at isOther
      exact punctual.inLine.others connectionId save (find?_of_dropping found) process isOther
        other member
  onTime connectionId save found :=
    punctual.onTime connectionId save (find?_of_dropping found)

theorem messenger_nodeDropping (node : Node σ) (slot : StoreSlot) :
    (node.dropping slot).own.messenger = node.own.messenger :=
  node.own.messenger_dropping slot

theorem timer_nodeDropping (node : Node σ) (slot : StoreSlot) :
    (node.dropping slot).own.timer = node.own.timer := by
  cases slot <;> rfl

theorem messenger_discardFor (slot : StoreSlot) (node : Node σ) :
    (leftBy (discardFor slot) node).own.messenger = node.own.messenger := by
  rcases discardFor_cases slot node with ⟨drops, _⟩ | ⟨gives, _⟩
  · rw [drops, messenger_nodeDropping]
  · rw [gives, ← node.messenger_nodeDropping slot]
    exact (Site.catchUp_lapses _ _).messenger

theorem timer_discardFor (slot : StoreSlot) (node : Node σ) :
    (leftBy (discardFor slot) node).own.timer = node.own.timer := by
  rcases discardFor_cases slot node with ⟨drops, _⟩ | ⟨gives, _⟩
  · rw [drops, timer_nodeDropping]
  · rw [gives, ← node.timer_nodeDropping slot]
    exact (Site.catchUp_lapses _ _).timer

theorem clock_discardFor (slot : StoreSlot) (node : Node σ) :
    (leftBy (discardFor slot) node).clock = node.clock := by
  rcases discardFor_cases slot node with ⟨drops, _⟩ | ⟨gives, _⟩
  · rw [drops]
    rfl
  · rw [gives]
    rfl

/-- Once the save for the slot is dropped, what the operation gives way to is the passage of
time. -/
theorem discardFor_elapses (punctual : node.Punctual) (slot : StoreSlot) (connectionId : UInt32) :
    Elapses connectionId (node.dropping slot) (leftBy (discardFor slot) node)
      (discardForWrites slot node) := by
  have dropped := punctual.dropping slot
  rcases discardFor_cases slot node with ⟨drops, nothing⟩ | ⟨gives, writes⟩
  · rw [drops, nothing]
    exact .refl connectionId dropped
  · rw [gives, writes]
    exact giveWay_elapses dropped connectionId

theorem saveCritical_elapses {signal : CancelSignal σ} (punctual : node.Punctual)
    (slot : StoreSlot) (record : Record.SessionRecord) (connectionId : UInt32) :
    Elapses connectionId (node.dropping slot) (leftBy (saveCritical slot record signal) node)
      (criticalWrites slot record signal node) := by
  rw [leftBy, saveCritical_eq]
  have discards := discardFor_elapses punctual slot connectionId
  exact discards.trans (writeRepeatedly_elapses discards.punctual slot record connectionId)

/-! ### Schedules -/

/-- The save of a live connection that is scheduled now. -/
def scheduled (node : Node σ) (serial : Nat) : BackgroundSave where
  serial := serial
  due := waitEnd node.clock node.own.messenger.config.saveDebounce node.own.timer
  turn := node.toSite.nextTurn
  attemptsLeft := saveAttempts node.own.messenger.config
  delay := node.own.messenger.config.criticalSaveBackoff
  stage := .waiting

/-- The node after a save was scheduled. -/
def scheduling (scheduledId : UInt32) (serial : Nat) (node : Node σ) : Node σ :=
  { node with own.saves := node.own.saves.insert scheduledId (node.scheduled serial) }

/-- The node after its live connections have changed. -/
def changing (update : NumberMap LiveConnection → NumberMap LiveConnection) (node : Node σ) :
    Node σ :=
  { node with own.messenger.connections := update node.own.messenger.connections }

theorem Punctual.scheduling (punctual : node.Punctual) (scheduledId : UInt32) (serial : Nat) :
    (node.scheduling scheduledId serial).Punctual := by
  -- The new turn is behind every other one.
  have newTurn : ∀ {save : BackgroundSave}, save.turn < node.toSite.nextTurn →
      (node.scheduled serial).turn ≠ save.turn := fun below => Nat.ne_of_gt below
  refine ⟨⟨fun first second firstSave secondSave isFirst isSecond sameTurn => ?_,
    fun connectionId save found process isOther other member => ?_⟩,
    fun connectionId save found => ?_⟩
  · by_cases firstNew : scheduledId = first
    · subst firstNew
      rw [Node.scheduling, OrderedMap.find?_insert_self] at isFirst
      by_cases same : scheduledId = second
      · exact same
      · rw [Node.scheduling, OrderedMap.find?_insert_other _ same] at isSecond
        cases isFirst
        exact absurd sameTurn (newTurn (Site.lt_nextTurn_of_own isSecond))
    · rw [Node.scheduling, OrderedMap.find?_insert_other _ firstNew] at isFirst
      by_cases secondNew : scheduledId = second
      · subst secondNew
        rw [Node.scheduling, OrderedMap.find?_insert_self] at isSecond
        cases isSecond
        exact absurd sameTurn.symm (newTurn (Site.lt_nextTurn_of_own isFirst))
      · rw [Node.scheduling, OrderedMap.find?_insert_other _ secondNew] at isSecond
        exact punctual.inLine.own first second firstSave secondSave isFirst isSecond sameTurn
  · have others : (node.scheduling scheduledId serial).others = node.others := rfl
    rw [others] at isOther
    by_cases isNew : scheduledId = connectionId
    · subst isNew
      rw [Node.scheduling, OrderedMap.find?_insert_self] at found
      cases found
      exact newTurn (Site.lt_nextTurn_of_other isOther member)
    · rw [Node.scheduling, OrderedMap.find?_insert_other _ isNew] at found
      exact punctual.inLine.others connectionId save found process isOther other member
  · by_cases isNew : scheduledId = connectionId
    · subst isNew
      rw [Node.scheduling, OrderedMap.find?_insert_self] at found
      cases found
      exact Nat.le_add_right _ _
    · rw [Node.scheduling, OrderedMap.find?_insert_other _ isNew] at found
      exact punctual.onTime connectionId save found

/-! ### What events do -/

theorem Punctual.beginning (punctual : node.Punctual) :
    Punctual { node with gaveWay := false } :=
  ⟨⟨punctual.inLine.own, punctual.inLine.others⟩, punctual.onTime⟩

theorem Punctual.changing (punctual : node.Punctual)
    (update : NumberMap LiveConnection → NumberMap LiveConnection) :
    (node.changing update).Punctual :=
  ⟨⟨punctual.inLine.own, punctual.inLine.others⟩, punctual.onTime⟩

end Node

namespace SaveEvent

variable {node : Node σ} {event : SaveEvent σ}

/-- The node when an event has begun: what it does at once is done, and time has not passed. -/
def begun (event : SaveEvent σ) (node : Node σ) : Node σ :=
  let node := { node with gaveWay := false }
  match event with
  | schedule connectionId serial => node.scheduling connectionId serial
  | discard connectionId => node.dropping (.connection connectionId)
  | critical slot _ _ => node.dropping slot
  | change update => node.changing update

@[simp] theorem clock_begun (event : SaveEvent σ) (node : Node σ) :
    (event.begun node).clock = node.clock := by
  cases event <;> rfl

theorem messenger_begun (event : SaveEvent σ) (node : Node σ) :
    (event.begun node).own.messenger =
      { node.own.messenger with connections := event.update node.own.messenger.connections } := by
  cases event with
  | schedule connectionId serial => rfl
  | discard connectionId => exact Node.messenger_nodeDropping _ _
  | critical slot record signal => exact Node.messenger_nodeDropping _ _
  | change update => rfl

theorem timer_begun (event : SaveEvent σ) (node : Node σ) :
    (event.begun node).own.timer = node.own.timer := by
  cases event with
  | schedule connectionId serial => rfl
  | discard connectionId => rfl
  | critical slot record signal => exact Node.timer_nodeDropping _ _
  | change update => rfl

theorem punctual_begun (punctual : node.Punctual) (event : SaveEvent σ) :
    (event.begun node).Punctual := by
  cases event with
  | schedule connectionId serial => exact punctual.beginning.scheduling connectionId serial
  | discard connectionId => exact punctual.beginning.dropping (.connection connectionId)
  | critical slot record signal => exact punctual.beginning.dropping slot
  | change update => exact punctual.beginning.changing update

/-- An event touches no save but that of the connection it is about. -/
theorem find?_saves_begun (elsewhere : ¬ event.Concerns connectionId) (node : Node σ) :
    (event.begun node).own.saves.find? connectionId = node.own.saves.find? connectionId := by
  cases event with
  | schedule scheduledId serial =>
    have other : scheduledId ≠ connectionId := elsewhere
    exact OrderedMap.find?_insert_other node.own.saves other _
  | discard dropped =>
    exact Node.find?_saves_dropping_other (fun same => elsewhere (StoreSlot.connection.inj same))
      { node with gaveWay := false }
  | critical slot record signal =>
    exact Node.find?_saves_dropping_other elsewhere { node with gaveWay := false }
  | change update => rfl

/-- Once an event has begun, what is left of it is the passage of time. -/
theorem happen_elapses (punctual : node.Punctual) (event : SaveEvent σ) (connectionId : UInt32) :
    (event.begun node).Elapses connectionId (event.happen node)
      (event.writes { node with gaveWay := false }) := by
  cases event with
  | schedule scheduledId serial =>
    exact .refl connectionId (punctual_begun punctual (.schedule scheduledId serial))
  | discard dropped =>
    exact Node.discardFor_elapses punctual.beginning (.connection dropped) connectionId
  | critical slot record signal =>
    exact Node.saveCritical_elapses punctual.beginning slot record connectionId
  | change update => exact .refl connectionId (punctual_begun punctual (.change update))

theorem punctual_happen (punctual : node.Punctual) (event : SaveEvent σ) :
    (event.happen node).Punctual :=
  (happen_elapses punctual event 0).punctual

theorem clock_le_happen (punctual : node.Punctual) (event : SaveEvent σ) :
    node.clock ≤ (event.happen node).clock := by
  rw [← event.clock_begun node]
  exact (happen_elapses punctual event 0).clock

theorem messenger_happen (punctual : node.Punctual) (event : SaveEvent σ) :
    (event.happen node).own.messenger =
      { node.own.messenger with connections := event.update node.own.messenger.connections } :=
  (happen_elapses punctual event 0).messenger.trans (event.messenger_begun node)

theorem timer_happen (punctual : node.Punctual) (event : SaveEvent σ) :
    (event.happen node).own.timer = node.own.timer :=
  (happen_elapses punctual event 0).timer.trans (event.timer_begun node)

/-- An event that is not about a connection leaves its save to its run. -/
theorem happen_run (punctual : node.Punctual) (elsewhere : ¬ event.Concerns connectionId) :
    SaveRun node.own.messenger node.own.timer connectionId ((event.happen node).clock + 1)
      (node.own.saves.find? connectionId)
      (savesOf connectionId (event.writes { node with gaveWay := false }))
      ((event.happen node).own.saves.find? connectionId) := by
  have run := (happen_elapses punctual event connectionId).run
  rw [find?_saves_begun elsewhere node, event.messenger_begun node, event.timer_begun node] at run
  cases event with
  | schedule _ _ | discard _ | critical _ _ _ => exact run
  | change update => exact .rest _

/-- The writes of an event get their answers. -/
theorem happen_replays (event : SaveEvent σ) (node : Node σ) :
    node.volume.Replays (event.writes { node with gaveWay := false })
      (event.happen node).volume := by
  cases event with
  | schedule scheduledId serial => exact rfl
  | discard dropped =>
    exact Node.discardForWrites_replays (.connection dropped) { node with gaveWay := false }
  | critical slot record signal =>
    exact Node.criticalWrites_replays slot record signal { node with gaveWay := false }
  | change update => exact rfl

end SaveEvent

/-! ### Timelines -/

namespace Node

variable {node : Node σ}

theorem sleepWrites_replays (moment : Nat) (node : Node σ) :
    node.volume.Replays (node.sleepWrites moment) (node.sleepUntil moment).volume := by
  unfold sleepWrites sleepUntil
  split
  · exact waitUntilWrites_replays .never moment node
  · exact rfl

/-- The journal of a timeline is complete. -/
theorem timelineWrites_replays (last : Nat) (events : List (Nat × SaveEvent σ)) (node : Node σ) :
    node.volume.Replays (timelineWrites last events node)
      (timelineUntil last events node).volume := by
  induction events generalizing node with
  | nil => exact node.sleepWrites_replays last
  | cons first later inductionHypothesis =>
    obtain ⟨moment, event⟩ := first
    exact ((node.sleepWrites_replays moment).append (event.happen_replays _)).append
      (inductionHypothesis _)

theorem Punctual.timeline (punctual : node.Punctual) (events : List (Nat × SaveEvent σ)) :
    (timeline events node).Punctual := by
  induction events generalizing node with
  | nil => exact punctual
  | cons first later inductionHypothesis =>
    exact inductionHypothesis
      (SaveEvent.punctual_happen (sleepUntil_elapses first.1 punctual 0).punctual first.2)

theorem clock_le_timeline (punctual : node.Punctual) (events : List (Nat × SaveEvent σ)) :
    node.clock ≤ (timeline events node).clock := by
  induction events generalizing node with
  | nil => exact Nat.le_refl _
  | cons first later inductionHypothesis =>
    have sleeps := sleepUntil_elapses first.1 punctual 0
    have happens := SaveEvent.clock_le_happen sleeps.punctual first.2
    have rest := inductionHypothesis (SaveEvent.punctual_happen sleeps.punctual first.2)
    exact Nat.le_trans sleeps.clock (Nat.le_trans happens rest)

theorem timer_sleepThenHappen {moment : Nat} {event : SaveEvent σ} (punctual : node.Punctual) :
    (event.happen (node.sleepUntil moment)).own.timer = node.own.timer :=
  have sleeps := sleepUntil_elapses moment punctual 0
  (SaveEvent.timer_happen sleeps.punctual event).trans sleeps.timer

/-- Until an event that is not about a connection is over, its save is left to its run. -/
theorem sleepThenHappen_run (moment : Nat) {event : SaveEvent σ} (punctual : node.Punctual)
    (elsewhere : ¬ event.Concerns connectionId) :
    SaveRun node.own.messenger node.own.timer connectionId
      ((event.happen (node.sleepUntil moment)).clock + 1)
      (node.own.saves.find? connectionId)
      (savesOf connectionId (node.sleepWrites moment ++
        event.writes { node.sleepUntil moment with gaveWay := false }))
      ((event.happen (node.sleepUntil moment)).own.saves.find? connectionId) := by
  have sleeps := sleepUntil_elapses moment punctual connectionId
  have happens := SaveEvent.happen_run sleeps.punctual elsewhere
  rw [sleeps.messenger, sleeps.timer] at happens
  rw [savesOf_append]
  exact (sleeps.run.mono
    (Nat.succ_le_succ (SaveEvent.clock_le_happen sleeps.punctual event))).trans happens

end Node

end RatchetMessaging
