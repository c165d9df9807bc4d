import RatchetMessaging.Proofs.Messenger.Punctuality
import RatchetMessaging.Proofs.Messenger.SaveSchedule

/-!
Contract: every save retries by the same schedule.

Owns:
- a background save that nobody drops or replaces runs its whole course, and exports its connection
  as it is at the moment at which the save is due;
- that run is on schedule;
- `saves_retry_on_schedule`: so is every critical save, until it is withdrawn.

Does not own: saves that are dropped or replaced.
-/

namespace RatchetMessaging

variable {σ : Type} {connectionId : UInt32}

/-! ### The course of a background save -/

theorem BackgroundSave.rest_afterFailure {save left : BackgroundSave} {timer : Timer} {turn : Nat}
    {record : Record.SessionRecord} (isLeft : save.afterFailure timer turn record = some left) :
    left.due = save.due + min save.delay timer.longestWait ∧ left.delay = 2 * save.delay ∧
      0 < left.attemptsLeft := by
  unfold afterFailure at isLeft
  split at isLeft
  · cases isLeft
  · rename_i moreThanOne
    cases isLeft
    exact ⟨rfl, rfl, Nat.sub_pos_of_lt (Nat.not_le.1 moreThanOne)⟩

/-- The writes of a save that runs its course are on schedule, and they all write the record that it
has exported. -/
theorem SaveRun.onSchedule {messenger : Messenger} {timer : Timer} {limit : Nat}
    {save left : Option BackgroundSave} {writes : List StoreWrite}
    (run : SaveRun messenger timer connectionId limit save writes left)
    (onTime : ∀ later, left = some later → limit ≤ later.due) :
    ∀ waits, save = some waits → 0 < waits.attemptsLeft →
      OnSchedule timer waits.attemptsLeft waits.delay waits.due
          (fun number => (messenger.recordOf connectionId waits).isSome = true ∧
            waits.due + retryOffset timer waits.delay number < limit) writes ∧
        ∀ write ∈ writes, write.slot = .connection connectionId ∧
          messenger.recordOf connectionId waits = some write.record := by
  induction run with
  | rest save =>
    intro waits isSave _
    have notDue := onTime waits isSave
    exact ⟨.nil fun number _ goes => by omega, by simp⟩
  | lapse due gone =>
    rintro _ ⟨⟩ _
    exact ⟨.nil fun number _ goes => by simp [gone] at goes, by simp⟩
  | store due isRecord =>
    rintro _ ⟨⟩ mayTry
    exact ⟨.single_of_success rfl rfl ⟨by simp [isRecord], due⟩ mayTry, by simp [isRecord]⟩
  | @refuse save record failure turn writes left due isRecord rest inductionHypothesis =>
    rintro _ ⟨⟩ mayTry
    obtain ⟨attempts, isAttempts⟩ := Nat.exists_eq_succ_of_ne_zero (Nat.ne_of_gt mayTry)
    have begins : (messenger.recordOf connectionId save).isSome = true ∧
        save.due + retryOffset timer save.delay 0 < limit := ⟨by simp [isRecord], due⟩
    rw [isAttempts]
    cases isLeft : save.afterFailure timer turn record with
    | none =>
      have noneLeft := BackgroundSave.afterFailure_eq_none isLeft
      obtain rfl : attempts = 0 := by omega
      rw [isLeft] at rest
      obtain ⟨rfl, -⟩ := rest.of_none
      refine ⟨.cons rfl (by simp) begins (fun _ => Iff.rfl) (.nil fun number within => ?_), ?_⟩
      · exact absurd within (Nat.not_lt_zero _)
      · simp [isRecord]
    | some next =>
      obtain ⟨retries, fewer⟩ := BackgroundSave.afterFailure_eq_some isLeft
      obtain ⟨nextDue, nextDelay, mayTryNext⟩ := BackgroundSave.rest_afterFailure isLeft
      have nextRecord := Messenger.recordOf_of_retrying retries messenger connectionId
      obtain ⟨schedule, records⟩ := inductionHypothesis onTime next isLeft mayTryNext
      obtain rfl : next.attemptsLeft = attempts := by omega
      rw [nextRecord, nextDue, nextDelay] at schedule
      rw [nextRecord] at records
      refine ⟨.cons rfl (by simp) begins (fun number => ?_) schedule, ?_⟩
      · rw [retryOffset_succ, isRecord, Nat.add_assoc]
      · rw [isRecord]
        exact List.forall_mem_cons.2 ⟨⟨rfl, rfl⟩, records⟩

namespace Node

variable {node : Node σ} {last : Nat} {events : List (Nat × SaveEvent σ)} {save : BackgroundSave}

/-- No save is overdue when a timeline has reached its end. -/
theorem timelineUntil_onTime (punctual : node.Punctual)
    (ahead : (timeline events node).clock < last) :
    (timelineUntil last events node).toSite.OnTime last :=
  (sleepUntil_ran (punctual.timeline events) (Nat.le_of_lt ahead)).2.onTime

/-- A save that has exported its connection goes on over a timeline in which nobody drops or
replaces it. -/
theorem timeline_run_of_retrying (punctual : node.Punctual)
    (elsewhere : ∀ event ∈ events, ¬ event.2.Concerns connectionId)
    (ahead : (timeline events node).clock < last)
    (retries : ∀ save, node.own.saves.find? connectionId = some save → save.Retrying)
    (messenger : Messenger) :
    SaveRun messenger node.own.timer connectionId last (node.own.saves.find? connectionId)
      (savesOf connectionId (timelineWrites last events node))
      ((timelineUntil last events node).own.saves.find? connectionId) := by
  induction events generalizing node with
  | nil =>
    have run := (sleepUntil_ran punctual (Nat.le_of_lt ahead)).2.runs connectionId
    exact run.of_retrying retries messenger
  | cons first later inductionHypothesis =>
    obtain ⟨moment, event⟩ := first
    obtain ⟨notFirst, notLater⟩ := List.forall_mem_cons.1 elsewhere
    have slept := (sleepUntil_elapses moment punctual connectionId).punctual
    have happened := SaveEvent.punctual_happen slept event
    have begins := sleepThenHappen_run moment punctual notFirst
    have reached : (event.happen (node.sleepUntil moment)).clock < last :=
      Nat.lt_of_le_of_lt (clock_le_timeline happened later) ahead
    have rest := inductionHypothesis happened notLater ahead (begins.left_retrying retries)
    rw [timer_sleepThenHappen punctual] at rest
    rw [timelineWrites, savesOf_append]
    exact ((begins.of_retrying retries messenger).mono reached).trans rest

/-- A save that nobody drops or replaces runs its whole course over a timeline. It exports its
connection as some of the events have left it: those that are over when the save is due. -/
theorem timeline_run (punctual : node.Punctual)
    (elsewhere : ∀ event ∈ events, ¬ event.2.Concerns connectionId)
    (ahead : (timeline events node).clock < last)
    (waits : node.own.saves.find? connectionId = some save) :
    ∃ count ≤ events.length,
      (timeline (events.take count) node).clock ≤ save.due ∧
      (count < events.length → save.due ≤ (timeline (events.take (count + 1)) node).clock) ∧
      SaveRun (timeline (events.take count) node).own.messenger node.own.timer connectionId last
        (some save) (savesOf connectionId (timelineWrites last events node))
        ((timelineUntil last events node).own.saves.find? connectionId) := by
  induction events generalizing node with
  | nil =>
    have run := (sleepUntil_ran punctual (Nat.le_of_lt ahead)).2.runs connectionId
    rw [waits] at run
    exact ⟨0, Nat.le_refl _, punctual.onTime connectionId save waits, by simp, run⟩
  | cons first later inductionHypothesis =>
    obtain ⟨moment, event⟩ := first
    obtain ⟨notFirst, notLater⟩ := List.forall_mem_cons.1 elsewhere
    have slept := (sleepUntil_elapses moment punctual connectionId).punctual
    have happened := SaveEvent.punctual_happen slept event
    have begins := sleepThenHappen_run moment punctual notFirst
    rw [waits] at begins
    rw [timelineWrites, savesOf_append]
    rcases begins.rests_or_begins with ⟨nothing, waitsOn⟩ | ⟨isDue, retries⟩
    · obtain ⟨count, within, before, after, run⟩ :=
        inductionHypothesis happened notLater ahead waitsOn
      rw [timer_sleepThenHappen punctual] at run
      rw [nothing, List.nil_append]
      exact ⟨count + 1, Nat.succ_le_succ within, before,
        fun more => after (Nat.lt_of_succ_lt_succ more), run⟩
    · have reached : (event.happen (node.sleepUntil moment)).clock < last :=
        Nat.lt_of_le_of_lt (clock_le_timeline happened later) ahead
      have rest := timeline_run_of_retrying happened notLater ahead retries node.own.messenger
      rw [timer_sleepThenHappen punctual] at rest
      exact ⟨0, Nat.zero_le _, punctual.onTime connectionId save waits,
        fun _ => Nat.le_of_lt_succ isDue, (begins.mono reached).trans rest⟩

/-! ### Critical saves -/

theorem awaitedOf_criticalWrites (slot : StoreSlot) (record : Record.SessionRecord)
    (signal : CancelSignal σ) (node : Node σ) :
    awaitedOf (criticalWrites slot record signal node) =
      awaitedOf (repeatedWrites slot record signal (saveAttempts node.own.messenger.config)
        node.own.messenger.config.criticalSaveBackoff (leftBy (discardFor slot) node)) := by
  unfold criticalWrites
  rw [awaitedOf_append, awaitedOf_discardForWrites, messenger_discardFor, List.nil_append]

/-- A critical save writes nothing but its record. -/
theorem mem_awaitedOf_repeatedWrites {slot : StoreSlot} {record : Record.SessionRecord}
    {signal : CancelSignal σ} {left delay : Nat} {node : Node σ} {write : StoreWrite}
    (member : write ∈ awaitedOf (repeatedWrites slot record signal left delay node)) :
    write.slot = slot ∧ write.record = record := by
  induction left generalizing delay node with
  | zero => cases member
  | succ left inductionHypothesis =>
    unfold repeatedWrites at member
    split at member
    · cases member
    · rw [awaitedOf_cons] at member
      rcases List.mem_cons.1 member with rfl | isLater
      · exact ⟨rfl, rfl⟩
      · split at isLater
        · cases isLater
        · split at isLater
          · cases isLater
          · rw [awaitedOf_append, awaitedOf_waitWrites, List.nil_append] at isLater
            split at isLater
            · exact inductionHypothesis isLater
            · cases isLater

/-- A signal that fires at a moment, if ever, lets a critical save go on with the writes that come
before. -/
theorem goesOn_iff (deadline : Option Nat) (slot : StoreSlot) (record : Record.SessionRecord)
    (delay number : Nat) (node : Node σ) :
    node.GoesOn slot record { deadline := deadline } delay number ↔
      ∀ moment, deadline = some moment →
        node.horizon ≤ moment ∧ node.clock + retryOffset node.own.timer delay number ≤ moment := by
  cases deadline with
  | none => exact ⟨fun _ => nofun, fun _ => goesOn_never slot record delay number node⟩
  | some moment =>
    refine (goesOn_atMoment_iff moment slot record delay number node).trans ?_
    simp only [Option.some.injEq, forall_eq']

theorem gaveUp_eq_storage (slot : StoreSlot) (attempts : Nat) (reason : String) :
    ∃ text, gaveUp slot attempts reason = .storage text :=
  ⟨_, rfl⟩

namespace ComesTo

variable {slot : StoreSlot} {attempts left : Nat} {writes : List StoreWrite}
  {result : EStateM.Result Error (Node σ) Unit}

theorem ok_iff (comesTo : ComesTo slot attempts left writes result) :
    (∃ after, result = .ok () after) ↔ ∃ write ∈ writes, write.failure = none := by
  cases result with
  | ok value after => exact ⟨fun _ => comesTo, fun _ => ⟨after, rfl⟩⟩
  | error failure after =>
    constructor
    · rintro ⟨_, isOk⟩
      cases isOk
    · rintro ⟨write, member, succeeds⟩
      exact absurd succeeds (comesTo.1 write member)

theorem storage_iff (comesTo : ComesTo slot attempts left writes result) :
    (∃ reason after, result = .error (.storage reason) after) ↔
      writes.length = left ∧ ∀ write ∈ writes, write.failure ≠ none := by
  cases result with
  | ok value after =>
    obtain ⟨write, member, succeeds⟩ := comesTo
    constructor
    · rintro ⟨_, _, isError⟩
      cases isError
    · rintro ⟨_, allFail⟩
      exact absurd succeeds (allFail write member)
  | error failure after =>
    obtain ⟨allFail, ⟨isAll, reason, gives⟩ | ⟨isEarly, withdrawn⟩⟩ := comesTo
    · obtain ⟨text, isText⟩ := gaveUp_eq_storage slot attempts reason
      rw [gives, isText]
      exact ⟨fun _ => ⟨isAll, allFail⟩, fun _ => ⟨text, after, rfl⟩⟩
    · rw [withdrawn]
      constructor
      · rintro ⟨_, _, isStorage⟩
        cases isStorage
      · rintro ⟨isAll, _⟩
        exact absurd isAll (Nat.ne_of_lt isEarly)

theorem cancelled_iff {timer : Timer} {delay start : Nat} {goesOn : Nat → Prop}
    (comesTo : ComesTo slot attempts left writes result)
    (schedule : OnSchedule timer left delay start goesOn writes) :
    (∃ after, result = .error .cancelled after) ↔
      writes.length < left ∧ (∀ write ∈ writes, write.failure ≠ none) ∧
        ¬ goesOn writes.length := by
  cases result with
  | ok value after =>
    obtain ⟨write, member, succeeds⟩ := comesTo
    constructor
    · rintro ⟨_, isError⟩
      cases isError
    · rintro ⟨_, allFail, _⟩
      exact absurd succeeds (allFail write member)
  | error failure after =>
    obtain ⟨allFail, ⟨isAll, reason, gives⟩ | ⟨isEarly, withdrawn⟩⟩ := comesTo
    · obtain ⟨text, isText⟩ := gaveUp_eq_storage slot attempts reason
      rw [gives, isText]
      constructor
      · rintro ⟨_, isCancelled⟩
        cases isCancelled
      · rintro ⟨isEarly, _⟩
        exact absurd isAll (Nat.ne_of_lt isEarly)
    · rw [withdrawn]
      refine ⟨fun _ => ⟨isEarly, allFail, fun goes => ?_⟩, fun _ => ⟨after, rfl⟩⟩
      -- A further write would have been tried.
      refine absurd ((schedule.tried writes.length).2 ⟨isEarly, ?_, goes⟩) (Nat.lt_irrefl _)
      rw [List.take_length]
      exact allFail

end ComesTo

/-- How a critical save goes: its writes are those on the schedule, up to the one that succeeds, the
last one, or the one before which the signal fires, and which of these it was is its outcome. -/
structure CriticalSchedule (slot : StoreSlot) (record : Record.SessionRecord)
    (signal : CancelSignal σ) (node : Node σ) : Prop where
  /-- Nothing is missing in the journal. -/
  complete : node.volume.Replays (criticalWrites slot record signal node)
    (leftBy (saveCritical slot record signal) node).volume
  content : ∀ write ∈ awaitedOf (criticalWrites slot record signal node),
    write.slot = slot ∧ write.record = record
  schedule : OnSchedule node.own.timer (saveAttempts node.own.messenger.config)
    node.own.messenger.config.criticalSaveBackoff node.clock
    ((leftBy (discardFor slot) node).GoesOn slot record signal
      node.own.messenger.config.criticalSaveBackoff)
    (awaitedOf (criticalWrites slot record signal node))
  succeeds : (∃ after, saveCritical slot record signal node = .ok () after) ↔
    ∃ write ∈ awaitedOf (criticalWrites slot record signal node), write.failure = none
  givesUp : (∃ reason after, saveCritical slot record signal node =
      .error (.storage reason) after) ↔
    (awaitedOf (criticalWrites slot record signal node)).length =
        saveAttempts node.own.messenger.config ∧
      ∀ write ∈ awaitedOf (criticalWrites slot record signal node), write.failure ≠ none
  withdraws : (∃ after, saveCritical slot record signal node = .error .cancelled after) ↔
    (awaitedOf (criticalWrites slot record signal node)).length <
        saveAttempts node.own.messenger.config ∧
      (∀ write ∈ awaitedOf (criticalWrites slot record signal node), write.failure ≠ none) ∧
      ¬ (leftBy (discardFor slot) node).GoesOn slot record signal
        node.own.messenger.config.criticalSaveBackoff
        (awaitedOf (criticalWrites slot record signal node)).length

theorem criticalSchedule (slot : StoreSlot) (record : Record.SessionRecord)
    (signal : CancelSignal σ) (node : Node σ) : node.CriticalSchedule slot record signal := by
  have schedule := repeatedWrites_onSchedule slot record signal
    (saveAttempts node.own.messenger.config) node.own.messenger.config.criticalSaveBackoff
    (leftBy (discardFor slot) node)
  have comesTo := writeRepeatedly_comesTo slot record signal
    (saveAttempts node.own.messenger.config) (saveAttempts node.own.messenger.config)
    node.own.messenger.config.criticalSaveBackoff (leftBy (discardFor slot) node)
  have content : ∀ write ∈ awaitedOf (criticalWrites slot record signal node),
      write.slot = slot ∧ write.record = record := by
    rw [awaitedOf_criticalWrites]
    exact fun write => mem_awaitedOf_repeatedWrites
  have saved := saveCritical_eq slot record signal node
  rw [messenger_discardFor] at saved
  rw [← awaitedOf_criticalWrites, clock_discardFor, timer_discardFor] at schedule
  rw [← awaitedOf_criticalWrites, ← saved] at comesTo
  exact ⟨criticalWrites_replays slot record signal node, content, schedule, comesTo.ok_iff,
    comesTo.storage_iff, comesTo.cancelled_iff schedule⟩

/-- How a background save goes that is scheduled now, with `events` to follow of which none drops or
replaces it. It exports its connection as some of the events have left it, those that are over when
the save is due; if there is such a connection its writes are on the schedule of a critical save. -/
structure BackgroundSchedule (connectionId : UInt32) (serial : Nat)
    (events : List (Nat × SaveEvent σ)) (last : Nat) (node : Node σ) : Prop where
  /-- Nothing is missing in the journal. -/
  complete : ((SaveEvent.schedule connectionId serial).happen node).volume.Replays
    (timelineWrites last events ((SaveEvent.schedule connectionId serial).happen node))
    (timelineUntil last events ((SaveEvent.schedule connectionId serial).happen node)).volume
  schedule : ∃ count ≤ events.length,
    let due := waitEnd node.clock node.own.messenger.config.saveDebounce node.own.timer
    let begun := (SaveEvent.schedule connectionId serial).happen node
    let writes := savesOf connectionId (timelineWrites last events begun)
    let record := LiveConnection.recordIn
      (timeline (events.take count) begun).own.messenger.connections connectionId serial
    (timeline (events.take count) begun).clock ≤ due ∧
      (count < events.length → due ≤ (timeline (events.take (count + 1)) begun).clock) ∧
      (∀ write ∈ writes, write.slot = .connection connectionId ∧ record = some write.record) ∧
      OnSchedule node.own.timer (saveAttempts node.own.messenger.config)
        node.own.messenger.config.criticalSaveBackoff due
        (fun number => record.isSome = true ∧ due + retryOffset node.own.timer
          node.own.messenger.config.criticalSaveBackoff number < last)
        writes

theorem backgroundSchedule (punctual : node.Punctual) (serial : Nat)
    (elsewhere : ∀ event ∈ events, ¬ event.2.Concerns connectionId)
    (ahead :
      (timeline events ((SaveEvent.schedule connectionId serial).happen node)).clock < last) :
    node.BackgroundSchedule connectionId serial events last := by
  have begun := SaveEvent.punctual_happen punctual (.schedule connectionId serial)
  have waits : ((SaveEvent.schedule connectionId serial).happen node).own.saves.find? connectionId =
      some (node.scheduled serial) := OrderedMap.find?_insert_self _ _ _
  obtain ⟨count, within, before, after, run⟩ := timeline_run begun elsewhere ahead waits
  have onTime := timelineUntil_onTime begun ahead connectionId
  obtain ⟨schedule, records⟩ := run.onSchedule onTime _ rfl (saveAttempts_pos _)
  rw [Messenger.recordOf_of_waiting rfl] at schedule records
  exact ⟨timelineWrites_replays last events _, count, within, before, after, records, schedule⟩

/-- Every save tries its writes by one schedule: the first at once, or when the save is due, each
further one after the wait behind the failed one before, where the waits double up to the longest
wait, and at most so many as the configuration allows. A critical save succeeds exactly with one of
its writes, gives up when all of them have failed, and is withdrawn when its signal fires in time,
and then it writes no more. A background save writes its connection as it is when it is due, and is
on time in every process, whatever was asked of it (`run_punctual`). -/
theorem saves_retry_on_schedule :
    (∀ slot record signal (node : Node σ), node.CriticalSchedule slot record signal) ∧
      (∀ deadline slot record number (node : Node σ),
        (leftBy (discardFor slot) node).GoesOn slot record { deadline := deadline }
            node.own.messenger.config.criticalSaveBackoff number ↔
          ∀ moment, deadline = some moment →
            (leftBy (discardFor slot) node).horizon ≤ moment ∧
              node.clock + retryOffset node.own.timer
                node.own.messenger.config.criticalSaveBackoff number ≤ moment) ∧
      ∀ connectionId serial events last (node : Node σ), node.Punctual →
        (∀ event ∈ events, ¬ event.2.Concerns connectionId) →
        (timeline events ((SaveEvent.schedule connectionId serial).happen node)).clock < last →
        node.BackgroundSchedule connectionId serial events last :=
  ⟨criticalSchedule,
    fun deadline slot record number node => by
      rw [goesOn_iff, clock_discardFor, timer_discardFor],
    fun _ serial _ _ _ punctual elsewhere ahead =>
      backgroundSchedule punctual serial elsewhere ahead⟩

/-- While a save of a session waits and retries, the identity is saved too, and another save is
dropped. Five writes are refused. -/
theorem saves_retry_on_schedule_sample :
    let node := sampleConnected { criticalSaveAttempts := 3 } 5
    let begun := (SaveEvent.schedule 1 0).happen node
    let events : List (Nat × SaveEvent Nat) :=
      [(10, .critical .identity {} .never), (20, .discard 2)]
    node.Punctual ∧ (∀ event ∈ events, ¬ event.2.Concerns 1) ∧
      (timeline events begun).clock < 1000 ∧ node.BackgroundSchedule 1 0 events 1000 ∧
      (savesOf 1 (timelineWrites 1000 events begun)).map
          (fun write => (write.moment, decide (write.failure = none))) =
        [(250, false), (300, false), (400, true)] := by
  have punctual := sampleConnected_punctual { criticalSaveAttempts := 3 } 5
  have elsewhere : ∀ event ∈ ([(10, .critical .identity {} .never), (20, .discard 2)] :
      List (Nat × SaveEvent Nat)), ¬ event.2.Concerns 1 := by
    simp [SaveEvent.Concerns]
  have ahead : (timeline [(10, .critical .identity {} .never), (20, .discard 2)]
      ((SaveEvent.schedule 1 0).happen
        (sampleConnected { criticalSaveAttempts := 3 } 5))).clock < 1000 := by
    decide +kernel
  exact ⟨punctual, elsewhere, ahead,
    saves_retry_on_schedule.2.2 1 0 _ 1000 _ punctual elsewhere ahead, by decide +kernel⟩

/-- A wait that would be longer than the longest one is cut to it, so the waits of a save need not
double. -/
theorem retry_wait_is_cut :
    ¬ ∀ slot record signal number first second (node : Node Nat),
      (awaitedOf (criticalWrites slot record signal node))[number]? = some first →
      (awaitedOf (criticalWrites slot record signal node))[number + 1]? = some second →
      second.moment = first.moment +
        node.own.messenger.config.criticalSaveBackoff * 2 ^ number := by
  intro doubles
  let node := sampleConnected { criticalSaveBackoff := 473040000001 } 2
  have moments : (awaitedOf (criticalWrites .identity {} .never node)).map StoreWrite.moment =
      [0, 473040000001, 1419120000001] := by
    decide +kernel
  have backoff : node.own.messenger.config.criticalSaveBackoff = 473040000001 := by decide +kernel
  have isSecond : (awaitedOf (criticalWrites .identity {} .never node))[1]?.map
      StoreWrite.moment = some 473040000001 := by
    rw [← List.getElem?_map, moments]
    rfl
  have isThird : (awaitedOf (criticalWrites .identity {} .never node))[2]?.map
      StoreWrite.moment = some 1419120000001 := by
    rw [← List.getElem?_map, moments]
    rfl
  obtain ⟨second, foundSecond, secondMoment⟩ := Option.map_eq_some_iff.1 isSecond
  obtain ⟨third, foundThird, thirdMoment⟩ := Option.map_eq_some_iff.1 isThird
  have doubled := doubles .identity {} .never 1 second third node foundSecond foundThird
  rw [secondMoment, thirdMoment, backoff] at doubled
  omega

end Node

end RatchetMessaging
