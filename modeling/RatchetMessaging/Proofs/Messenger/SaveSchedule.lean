import RatchetMessaging.Messenger.Trigger
import RatchetMessaging.Proofs.Messenger.Timeline

/-!
Contract: when a save tries its writes.

Owns:
- `retryOffset`, the doubling waits of a save added up, none of them longer than the longest wait
  of the timer;
- `OnSchedule`, the writes of one save: which of them are tried, and when;
- critical saves are on schedule until they are withdrawn, and their outcome is that of their
  writes;
- background saves that nobody cancels are on the same schedule.

Does not own: what the saves write.
-/

namespace RatchetMessaging

variable {σ : Type} {connectionId : UInt32}

/-! ### The schedule -/

/-- How long after its first write a save tries its write number `count`, the first one being number
zero: the waits double from `delay` on, up to the longest wait. -/
def retryOffset (timer : Timer) (delay : Nat) : Nat → Nat
  | 0 => 0
  | count + 1 => retryOffset timer delay count + min (delay * 2 ^ count) timer.longestWait

theorem retryOffset_succ (timer : Timer) (delay count : Nat) :
    retryOffset timer delay (count + 1) =
      min delay timer.longestWait + retryOffset timer (2 * delay) count := by
  induction count with
  | zero => simp [retryOffset]
  | succ count inductionHypothesis =>
    have doubled : delay * 2 ^ (count + 1) = 2 * delay * 2 ^ count := by
      rw [Nat.pow_succ, Nat.mul_comm (2 ^ count), Nat.mul_comm 2 delay, Nat.mul_assoc]
    rw [retryOffset, inductionHypothesis, doubled, retryOffset, Nat.add_assoc]

theorem retryOffset_mono (timer : Timer) (delay : Nat) {first second : Nat}
    (ordered : first ≤ second) :
    retryOffset timer delay first ≤ retryOffset timer delay second := by
  induction ordered with
  | refl => exact Nat.le_refl _
  | step _ inductionHypothesis => exact Nat.le_trans inductionHypothesis (Nat.le_add_right _ _)

/-- The writes of a save that begins at `start` and may try `attempts` writes: they come at their
moments, and one is tried exactly if the ones before it have failed and the save goes on until
then. -/
structure OnSchedule (timer : Timer) (attempts delay start : Nat) (goesOn : Nat → Prop)
    (writes : List StoreWrite) : Prop where
  moments : ∀ number write, writes[number]? = some write →
    write.moment = start + retryOffset timer delay number
  tried : ∀ number, number < writes.length ↔
    number < attempts ∧ (∀ write ∈ writes.take number, write.failure ≠ none) ∧ goesOn number

namespace OnSchedule

variable {timer : Timer} {attempts delay start : Nat} {goesOn : Nat → Prop}
  {writes : List StoreWrite} {write : StoreWrite}

/-- Nothing is written by a save that does not begin. -/
theorem nil (never : ∀ number, number < attempts → ¬ goesOn number) :
    OnSchedule timer attempts delay start goesOn [] := by
  refine ⟨fun number write isWrite => by simp at isWrite, fun number => ?_⟩
  refine ⟨fun below => absurd below (Nat.not_lt_zero _), fun ⟨within, _, goes⟩ => ?_⟩
  exact absurd goes (never number within)

/-- After a write that succeeds there is none. -/
theorem single_of_success (isFirst : write.moment = start) (succeeds : write.failure = none)
    (begins : goesOn 0) (someAttempt : 0 < attempts) :
    OnSchedule timer attempts delay start goesOn [write] := by
  refine ⟨fun number other isOther => ?_, fun number => ?_⟩
  · cases number with
    | zero =>
      cases isOther
      exact isFirst
    | succ number => cases isOther
  · cases number with
    | zero => exact ⟨fun _ => ⟨someAttempt, by simp, begins⟩, fun _ => Nat.one_pos⟩
    | succ number =>
      refine ⟨fun below => absurd below (by simp), fun ⟨_, fails, _⟩ => ?_⟩
      exact absurd succeeds (fails write (by simp))

/-- After a write that fails the schedule goes on with the wait doubled. -/
theorem cons {left : Nat} {goesOnNext : Nat → Prop} (isFirst : write.moment = start)
    (fails : write.failure ≠ none) (begins : goesOn 0)
    (goes : ∀ number, goesOn (number + 1) ↔ goesOnNext number)
    (rest : OnSchedule timer left (2 * delay) (start + min delay timer.longestWait) goesOnNext
      writes) :
    OnSchedule timer (left + 1) delay start goesOn (write :: writes) := by
  refine ⟨fun number other isOther => ?_, fun number => ?_⟩
  · cases number with
    | zero =>
      cases isOther
      exact isFirst
    | succ number =>
      rw [rest.moments number other isOther, retryOffset_succ, Nat.add_assoc]
  · cases number with
    | zero => exact ⟨fun _ => ⟨Nat.succ_pos _, by simp, begins⟩, fun _ => Nat.succ_pos _⟩
    | succ number =>
      rw [List.length_cons, Nat.succ_lt_succ_iff, rest.tried number, goes number,
        Nat.succ_lt_succ_iff, List.take_succ_cons, List.forall_mem_cons]
      simp only [fails, ne_eq, not_false_eq_true, true_and]

end OnSchedule

/-! ### Waits -/

/-- What ends a run is that it is to be stopped. -/
theorem Site.stopped_of_run {stop : Volume → Bool} {limit clock moment : Nat} {site after : Site}
    (ran : site.run stop limit clock = (some moment, after)) : stop after.volume = true := by
  unfold run at ran
  generalize site.work = steps at ran
  induction steps generalizing site clock with
  | zero => cases ran
  | succ steps inductionHypothesis =>
    unfold runWithin at ran
    cases isNext : site.next? with
    | none =>
      rw [isNext] at ran
      cases ran
    | some save =>
      rw [isNext] at ran
      by_cases isDue : save.due < limit
      · simp only [if_pos isDue] at ran
        by_cases stopped : stop (site.catchUp (max clock save.due)).volume = true
        · rw [if_pos stopped] at ran
          cases ran
          exact stopped
        · rw [if_neg stopped] at ran
          exact inductionHypothesis ran
      · simp only [if_neg isDue] at ran
        cases ran

namespace Node

variable {signal : CancelSignal σ} {node after : Node σ} {duration : Nat}

/-- A wait that no signal ends reaches its target. -/
theorem clock_waitUntil {target : Nat}
    (notFired : ¬ signal.isFired (waitUntil signal target node) = true) :
    (waitUntil signal target node).clock = target := by
  revert notFired
  unfold waitUntil
  simp only
  split
  · rename_i moment site ran
    intro notFired
    refine absurd ?_ notFired
    unfold CancelSignal.isFired
    rw [Bool.or_eq_true]
    exact .inr (Site.stopped_of_run ran)
  · cases wakes : signal.wakeUp? target with
    | none => exact fun _ => rfl
    | some moment =>
      intro notFired
      refine absurd ?_ notFired
      have isDeadline := (Option.filter_eq_some_iff.1 wakes).1
      have passed : moment < max node.clock moment + 1 :=
        Nat.lt_succ_of_le (Nat.le_max_right _ _)
      simp only [CancelSignal.isFired, isDeadline, Option.any_some, Node.horizon, if_true,
        decide_eq_true passed, Bool.true_or]

theorem wait_eq_ok (waited : wait signal duration node = .ok () after) :
    ¬ signal.isFired node = true ∧ ¬ signal.isFired after = true ∧
      after.clock = node.clock + min duration node.own.timer.longestWait := by
  unfold wait at waited
  by_cases fired : signal.isFired node = true
  · rw [if_pos fired] at waited
    cases waited
  · rw [if_neg fired] at waited
    by_cases noWait : duration = 0
    · rw [if_pos noWait] at waited
      cases waited
      refine ⟨fired, fired, ?_⟩
      rw [noWait, Nat.zero_min, Nat.add_zero]
    · rw [if_neg noWait] at waited
      by_cases wokenUp : signal.isFired
          (waitUntil signal (waitEnd node.clock duration node.own.timer) node) = true
      · simp only [if_pos wokenUp] at waited
        cases waited
      · simp only [if_neg wokenUp] at waited
        cases waited
        exact ⟨fired, wokenUp, clock_waitUntil wokenUp⟩

theorem timer_of_wait (waited : wait signal duration node = .ok () after) :
    after.own.timer = node.own.timer := by
  obtain ⟨_, lapses, ended | ended⟩ := wait_cases signal duration node
  · cases waited.symm.trans ended
    exact lapses.timer
  · cases waited.symm.trans ended

/-- Only the signal makes a wait fail. -/
theorem wait_eq_error {failure : Error} (ended : wait signal duration node = .error failure after) :
    failure = .cancelled ∧ signal.isFired after = true := by
  unfold wait at ended
  by_cases fired : signal.isFired node = true
  · rw [if_pos fired] at ended
    cases ended
    exact ⟨rfl, fired⟩
  · rw [if_neg fired] at ended
    by_cases noWait : duration = 0
    · rw [if_pos noWait] at ended
      cases ended
    · rw [if_neg noWait] at ended
      by_cases wokenUp : signal.isFired
          (waitUntil signal (waitEnd node.clock duration node.own.timer) node) = true
      · simp only [if_pos wokenUp] at ended
        cases ended
        exact ⟨rfl, wokenUp⟩
      · simp only [if_neg wokenUp] at ended
        cases ended

end Node

/-! ### The writes that an operation awaits -/

/-- The writes of a journal that the operation at work has awaited. -/
def awaitedOf (writes : List StoreWrite) : List StoreWrite :=
  writes.filter fun write => decide (write.author = .critical)

@[simp] theorem awaitedOf_nil : awaitedOf [] = [] := rfl

@[simp] theorem awaitedOf_append (first second : List StoreWrite) :
    awaitedOf (first ++ second) = awaitedOf first ++ awaitedOf second :=
  List.filter_append ..

theorem awaitedOf_cons (moment : Nat) (slot : StoreSlot) (record : Record.SessionRecord)
    (failure : Option Error) (writes : List StoreWrite) :
    awaitedOf (⟨moment, .critical, slot, record, failure⟩ :: writes) =
      ⟨moment, .critical, slot, record, failure⟩ :: awaitedOf writes :=
  List.filter_cons_of_pos (by simp)

namespace Site

theorem awaitedOf_fireWrites (moment turn : Nat) (site : Site) :
    awaitedOf (site.fireWrites moment turn) = [] :=
  List.filter_eq_nil_iff.2 fun write member => by simp [author_of_mem_fireWrites member]

theorem awaitedOf_catchUpWrites (clock : Nat) (site : Site) :
    awaitedOf (site.catchUpWrites clock) = [] := by
  unfold catchUpWrites
  generalize site.work = steps
  induction steps generalizing site with
  | zero => rfl
  | succ steps inductionHypothesis =>
    unfold catchUpWritesWithin
    cases site.next? with
    | none => rfl
    | some save =>
      by_cases isDue : save.due ≤ clock
      · simp only [if_pos isDue, awaitedOf_append, awaitedOf_fireWrites, inductionHypothesis,
          List.append_nil]
      · simp only [if_neg isDue, awaitedOf_nil]

theorem awaitedOf_runWrites (stop : Volume → Bool) (limit clock : Nat) (site : Site) :
    awaitedOf (site.runWrites stop limit clock) = [] := by
  unfold runWrites
  generalize site.work = steps
  induction steps generalizing site clock with
  | zero => rfl
  | succ steps inductionHypothesis =>
    unfold runWritesWithin
    cases site.next? with
    | none => rfl
    | some save =>
      by_cases isDue : save.due < limit
      · simp only [if_pos isDue, awaitedOf_append, awaitedOf_catchUpWrites, List.nil_append]
        split
        · rfl
        · exact inductionHypothesis _ _
      · simp only [if_neg isDue, awaitedOf_nil]

end Site

namespace Node

variable {signal : CancelSignal σ} {node : Node σ} {duration : Nat}

theorem awaitedOf_waitWrites (signal : CancelSignal σ) (duration : Nat) (node : Node σ) :
    awaitedOf (waitWrites signal duration node) = [] := by
  unfold waitWrites
  split
  · rfl
  · split
    · rfl
    · exact Site.awaitedOf_runWrites _ _ _ _

theorem awaitedOf_discardForWrites (slot : StoreSlot) (node : Node σ) :
    awaitedOf (discardForWrites slot node) = [] := by
  rcases discardFor_cases slot node with ⟨_, nothing⟩ | ⟨_, writes⟩
  · rw [nothing, awaitedOf_nil]
  · rw [writes]
    exact Site.awaitedOf_catchUpWrites _ _

/-! ### Critical saves -/

/-- The node when write number `number` is to be tried, if none before it has succeeded. -/
def awaiting (slot : StoreSlot) (record : Record.SessionRecord) (signal : CancelSignal σ) :
    (delay : Nat) → (number : Nat) → Node σ → Node σ
  | _, 0, node => node
  | delay, number + 1, node =>
    awaiting slot record signal (2 * delay) number
      (leftBy (wait signal delay) (node.tried slot record))

/-- The signal has not fired before write number `number` is to be tried. -/
def GoesOn (slot : StoreSlot) (record : Record.SessionRecord) (signal : CancelSignal σ)
    (delay : Nat) (node : Node σ) (number : Nat) : Prop :=
  ∀ earlier ≤ number, ¬ signal.isFired (node.awaiting slot record signal delay earlier) = true

variable {slot : StoreSlot} {record : Record.SessionRecord} {delay number left : Nat}

theorem goesOn_zero (notFired : ¬ signal.isFired node = true) :
    node.GoesOn slot record signal delay 0 := by
  intro earlier within
  rw [Nat.le_zero.1 within]
  exact notFired

theorem not_goesOn_of_fired (fired : signal.isFired node = true) :
    ¬ node.GoesOn slot record signal delay number :=
  fun goes => goes 0 (Nat.zero_le _) fired

theorem goesOn_succ (notFired : ¬ signal.isFired node = true) :
    node.GoesOn slot record signal delay (number + 1) ↔
      (leftBy (wait signal delay) (node.tried slot record)).GoesOn slot record signal (2 * delay)
        number := by
  constructor
  · exact fun goes earlier within => goes (earlier + 1) (Nat.succ_le_succ within)
  · intro goes earlier within
    cases earlier with
    | zero => exact notFired
    | succ earlier => exact goes earlier (Nat.le_of_succ_le_succ within)

/-- The writes of a critical save are on schedule until the signal fires. -/
theorem repeatedWrites_onSchedule (slot : StoreSlot) (record : Record.SessionRecord)
    (signal : CancelSignal σ) (left delay : Nat) (node : Node σ) :
    OnSchedule node.own.timer left delay node.clock (node.GoesOn slot record signal delay)
      (awaitedOf (repeatedWrites slot record signal left delay node)) := by
  induction left generalizing delay node with
  | zero => exact .nil fun number within => absurd within (Nat.not_lt_zero _)
  | succ left inductionHypothesis =>
    unfold repeatedWrites
    by_cases fired : signal.isFired node = true
    · rw [if_pos fired]
      exact .nil fun _ _ => not_goesOn_of_fired fired
    · rw [if_neg fired, awaitedOf_cons]
      cases answer : (node.volume.write slot record).1 with
      | none => exact .single_of_success rfl rfl (goesOn_zero fired) (Nat.succ_pos _)
      | some failure =>
        refine .cons rfl (by simp) (goesOn_zero fired) (fun _ => goesOn_succ fired) ?_
        by_cases isLast : left = 0
        · subst isLast
          exact .nil fun number within => absurd within (Nat.not_lt_zero _)
        · simp only [if_neg isLast, awaitedOf_append, awaitedOf_waitWrites, List.nil_append]
          unfold leftBy
          cases waited : wait signal delay (node.tried slot record) with
          | ok value later =>
            have sameTimer : later.own.timer = node.own.timer := (timer_of_wait waited).trans rfl
            have reached : later.clock = node.clock + min delay node.own.timer.longestWait :=
              (wait_eq_ok waited).2.2
            rw [← reached, ← sameTimer]
            exact inductionHypothesis (2 * delay) later
          | error reason later =>
            exact .nil fun _ _ => not_goesOn_of_fired (wait_eq_error waited).2

/-- What a critical save comes to, in terms of its writes: it succeeds with a write, it gives up
when every write that it may try has failed, or it is withdrawn before. -/
def ComesTo (slot : StoreSlot) (attempts left : Nat) (writes : List StoreWrite) :
    EStateM.Result Error (Node σ) Unit → Prop
  | .ok _ _ => ∃ write ∈ writes, write.failure = none
  | .error failure _ => (∀ write ∈ writes, write.failure ≠ none) ∧
    (writes.length = left ∧ (∃ reason, failure = gaveUp slot attempts reason) ∨
      writes.length < left ∧ failure = .cancelled)

theorem ComesTo.cons {attempts : Nat} {write : StoreWrite} {writes : List StoreWrite}
    {result : EStateM.Result Error (Node σ) Unit} (fails : write.failure ≠ none)
    (rest : ComesTo slot attempts left writes result) :
    ComesTo slot attempts (left + 1) (write :: writes) result := by
  cases result with
  | ok value after =>
    obtain ⟨stored, member, succeeds⟩ := rest
    exact ⟨stored, List.mem_cons_of_mem _ member, succeeds⟩
  | error failure after =>
    obtain ⟨allFail, outcome⟩ := rest
    refine ⟨List.forall_mem_cons.2 ⟨fails, allFail⟩, ?_⟩
    rw [List.length_cons]
    exact outcome.imp (And.imp_left (congrArg Nat.succ)) (And.imp_left Nat.succ_lt_succ)

theorem writeRepeatedly_comesTo (slot : StoreSlot) (record : Record.SessionRecord)
    (signal : CancelSignal σ) (attempts left delay : Nat) (node : Node σ) :
    ComesTo slot attempts left (awaitedOf (repeatedWrites slot record signal left delay node))
      (writeRepeatedly slot record signal attempts left delay node) := by
  induction left generalizing delay node with
  | zero => exact ⟨by simp [repeatedWrites], .inl ⟨rfl, "", rfl⟩⟩
  | succ left inductionHypothesis =>
    rw [writeRepeatedly_succ]
    unfold repeatedWrites
    by_cases fired : signal.isFired node = true
    · simp only [if_pos fired]
      exact ⟨by simp, .inr ⟨Nat.succ_pos _, rfl⟩⟩
    · simp only [if_neg fired, awaitedOf_cons]
      cases answer : (node.volume.write slot record).1 with
      | none => exact ⟨_, List.mem_cons_self, rfl⟩
      | some failure =>
        by_cases isLast : left = 0
        · subst isLast
          exact ⟨by simp, .inl ⟨rfl, failure.message, rfl⟩⟩
        · simp only [if_neg isLast, awaitedOf_append, awaitedOf_waitWrites, List.nil_append]
          cases waited : wait signal delay (node.tried slot record) with
          | ok value later => exact (inductionHypothesis (2 * delay) later).cons (by simp)
          | error reason later =>
            refine ⟨by simp, .inr ⟨?_, (wait_eq_error waited).1⟩⟩
            exact Nat.succ_lt_succ (Nat.pos_of_ne_zero isLast)

/-! ### Signals that fire at a moment -/

theorem isFired_atMoment_iff {moment : Nat} :
    (CancelSignal.atMoment moment).isFired node = true ↔ moment < node.horizon := by
  simp [CancelSignal.isFired, CancelSignal.atMoment]

theorem not_isFired_never : ¬ CancelSignal.never.isFired node = true := by
  simp [CancelSignal.isFired, CancelSignal.never]

theorem clock_le_horizon (node : Node σ) : node.clock ≤ node.horizon := by
  unfold horizon
  split <;> omega

/-- A wait ends with its signal, or with everything before its end having happened. -/
theorem waitUntil_atMoment (moment target : Nat) (node : Node σ) :
    let waited := waitUntil (.atMoment moment) target node
    moment < target ∧ waited.horizon = max node.clock moment + 1 ∨
      target ≤ moment ∧ waited.clock = target ∧ waited.horizon = target := by
  have unstopped : ∀ limit, (node.toSite.run (fun _ => false) limit node.clock).1 = none :=
    fun limit => run_unstopped limit node.clock node.toSite
  unfold waitUntil
  simp only
  split
  · rename_i stopped site ran
    have never := unstopped ((((CancelSignal.atMoment (σ := σ) moment).wakeUp? target).map
      (· + 1)).getD target)
    change node.toSite.run (fun _ => false) _ node.clock = _ at ran
    rw [ran] at never
    cases never
  · by_cases early : moment < target
    · have wakes : (CancelSignal.atMoment (σ := σ) moment).wakeUp? target = some moment := by
        simp [CancelSignal.wakeUp?, CancelSignal.atMoment, early]
      rw [wakes]
      exact .inl ⟨early, rfl⟩
    · have sleeps : (CancelSignal.atMoment (σ := σ) moment).wakeUp? target = none := by
        simp [CancelSignal.wakeUp?, CancelSignal.atMoment, Nat.not_lt.1 early]
      rw [sleeps]
      exact .inr ⟨Nat.not_lt.1 early, rfl, rfl⟩

theorem leftBy_wait_of_not_fired (notFired : ¬ signal.isFired node = true)
    (someTime : duration ≠ 0) :
    leftBy (wait signal duration) node =
      waitUntil signal (waitEnd node.clock duration node.own.timer) node := by
  unfold leftBy wait
  simp only [if_neg notFired, if_neg someTime]
  by_cases wokenUp : signal.isFired
      (waitUntil signal (waitEnd node.clock duration node.own.timer) node) = true
  · simp only [if_pos wokenUp]
  · simp only [if_neg wokenUp]

theorem leftBy_wait_of_still (still : signal.isFired node = true ∨ duration = 0) :
    leftBy (wait signal duration) node = node := by
  unfold leftBy wait
  by_cases fired : signal.isFired node = true
  · simp only [if_pos fired]
  · simp only [if_neg fired, if_pos (still.resolve_left fired)]

theorem timer_leftBy_wait (signal : CancelSignal σ) (duration : Nat) (node : Node σ) :
    (leftBy (wait signal duration) node).own.timer = node.own.timer := by
  obtain ⟨_, lapses, waited | waited⟩ := wait_cases signal duration node <;>
    simp only [leftBy, waited, lapses.timer]

/-- Whether the signal fires until some time after a wait does not depend on who waits. -/
theorem lt_horizon_wait_iff (moment duration rest : Nat) (node : Node σ) :
    moment < max (leftBy (wait (.atMoment moment) duration) node).horizon
        ((leftBy (wait (.atMoment moment) duration) node).clock + rest) ↔
      moment < max node.horizon
        (node.clock + (min duration node.own.timer.longestWait + rest)) := by
  have reached := clock_le_horizon node
  by_cases fired : (CancelSignal.atMoment moment).isFired node = true
  · have already := isFired_atMoment_iff.1 fired
    rw [leftBy_wait_of_still (.inl fired)]
    omega
  · have notYet := mt isFired_atMoment_iff.2 fired
    by_cases noWait : duration = 0
    · rw [leftBy_wait_of_still (.inr noWait)]
      omega
    · rw [leftBy_wait_of_not_fired fired noWait]
      have waits := waitUntil_atMoment moment (waitEnd node.clock duration node.own.timer) node
      unfold waitEnd at waits ⊢
      rcases waits with ⟨early, horizon⟩ | ⟨late, clock, horizon⟩ <;> omega

/-- A signal that fires at a moment has fired before a write exactly if its moment comes before the
one that the schedule gives the write. What has happened at the start is not waited for. -/
theorem isFired_awaiting_iff (moment : Nat) (slot : StoreSlot) (record : Record.SessionRecord)
    (delay number : Nat) (node : Node σ) :
    (CancelSignal.atMoment moment).isFired
        (node.awaiting slot record (.atMoment moment) delay number) = true ↔
      moment < max node.horizon (node.clock + retryOffset node.own.timer delay number) := by
  induction number generalizing delay node with
  | zero =>
    have reached := clock_le_horizon node
    rw [awaiting, isFired_atMoment_iff, retryOffset]
    omega
  | succ number inductionHypothesis =>
    rw [awaiting, inductionHypothesis, timer_leftBy_wait, lt_horizon_wait_iff, retryOffset_succ]
    exact Iff.rfl

/-- A signal that fires at a moment lets a save go on with the writes that come before. -/
theorem goesOn_atMoment_iff (moment : Nat) (slot : StoreSlot) (record : Record.SessionRecord)
    (delay number : Nat) (node : Node σ) :
    node.GoesOn slot record (.atMoment moment) delay number ↔
      node.horizon ≤ moment ∧ node.clock + retryOffset node.own.timer delay number ≤ moment := by
  unfold GoesOn
  simp only [isFired_awaiting_iff, Nat.not_lt, Nat.max_le]
  constructor
  · exact fun goes => goes number (Nat.le_refl _)
  · rintro ⟨begins, reaches⟩ earlier within
    have sooner := retryOffset_mono node.own.timer delay within
    exact ⟨begins, by omega⟩

theorem goesOn_never (slot : StoreSlot) (record : Record.SessionRecord) (delay number : Nat)
    (node : Node σ) : node.GoesOn slot record .never delay number :=
  fun _ _ => not_isFired_never

end Node

end RatchetMessaging
