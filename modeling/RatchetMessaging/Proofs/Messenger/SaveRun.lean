import RatchetMessaging.Proofs.Messenger.Journal
import RatchetMessaging.Proofs.Messenger.SaveOrder

/-!
Contract: what time makes of the background save of one connection.

Owns:
- `SaveRun`, the steps of one save: what it writes, when, with which answer, and what is left of it;
- while time passes at a site, the writes for a connection in the journal and what is left of its
  save are such a run, and afterwards no save is overdue.

Does not own: saves that are scheduled or dropped.
-/

namespace RatchetMessaging

/-- The record of a live connection, told from others by its serial number. One that was closed or
superseded has none. -/
def LiveConnection.recordIn (connections : NumberMap LiveConnection) (connectionId : UInt32)
    (serial : Nat) : Option Record.SessionRecord :=
  match connections.find? connectionId with
  | none => none
  | some live =>
    if live.serial = serial then
      live.connection.exportRecord.toOption.map Record.SessionRecord.ofConnection
    else none

/-- The save has exported its connection. -/
def BackgroundSave.Retrying (save : BackgroundSave) : Prop :=
  ∃ record, save.stage = .retrying record

/-- A save that waits exports its connection as it is. -/
theorem Messenger.recordOf_of_waiting {save : BackgroundSave} (waits : save.stage = .waiting)
    (messenger : Messenger) (connectionId : UInt32) :
    messenger.recordOf connectionId save =
      LiveConnection.recordIn messenger.connections connectionId save.serial := by
  unfold recordOf
  rw [waits]
  rfl

/-- A save that has exported its connection keeps the record. -/
theorem Messenger.recordOf_of_retrying {save : BackgroundSave} {record : Record.SessionRecord}
    (retries : save.stage = .retrying record) (messenger : Messenger) (connectionId : UInt32) :
    messenger.recordOf connectionId save = some record := by
  unfold recordOf
  rw [retries]

theorem BackgroundSave.retrying_afterFailure {save left : BackgroundSave} {timer : Timer}
    {turn : Nat} {record : Record.SessionRecord}
    (isLeft : save.afterFailure timer turn record = some left) : left.Retrying :=
  ⟨record, (afterFailure_eq_some isLeft).1⟩

/-- The writes of a journal that the background save of a connection has tried. -/
def savesOf (connectionId : UInt32) (writes : List StoreWrite) : List StoreWrite :=
  writes.filter fun write =>
    decide (write.author = .background) && decide (write.slot = .connection connectionId)

@[simp] theorem savesOf_nil (connectionId : UInt32) : savesOf connectionId [] = [] := rfl

@[simp] theorem savesOf_append (connectionId : UInt32) (first second : List StoreWrite) :
    savesOf connectionId (first ++ second) =
      savesOf connectionId first ++ savesOf connectionId second :=
  List.filter_append ..

theorem savesOf_cons_self (connectionId : UInt32) (moment : Nat) (record : Record.SessionRecord)
    (failure : Option Error) (writes : List StoreWrite) :
    savesOf connectionId
        (⟨moment, .background, .connection connectionId, record, failure⟩ :: writes) =
      ⟨moment, .background, .connection connectionId, record, failure⟩ ::
        savesOf connectionId writes :=
  List.filter_cons_of_pos (by simp)

theorem savesOf_cons_other {connectionId : UInt32} {write : StoreWrite} (writes : List StoreWrite)
    (other : write.author ≠ .background ∨ write.slot ≠ .connection connectionId) :
    savesOf connectionId (write :: writes) = savesOf connectionId writes := by
  refine List.filter_cons_of_neg ?_
  simp only [Bool.and_eq_true, decide_eq_true_eq]
  rintro ⟨isBackground, isSlot⟩
  exact other.elim (fun differs => differs isBackground) (fun differs => differs isSlot)

/-! ### The run of a save -/

/-- The steps that a save takes before `limit`, the writes that they try, and what is left of it. A
step comes exactly when the save is due. -/
inductive SaveRun (messenger : Messenger) (timer : Timer) (connectionId : UInt32) (limit : Nat) :
    Option BackgroundSave → List StoreWrite → Option BackgroundSave → Prop
  /-- No step is taken. -/
  | rest (save : Option BackgroundSave) : SaveRun messenger timer connectionId limit save [] save
  /-- The connection is gone, and the save with it. -/
  | lapse {save : BackgroundSave} (due : save.due < limit)
      (gone : messenger.recordOf connectionId save = none) :
      SaveRun messenger timer connectionId limit (some save) [] none
  /-- The record is written. -/
  | store {save : BackgroundSave} {record : Record.SessionRecord} (due : save.due < limit)
      (isRecord : messenger.recordOf connectionId save = some record) :
      SaveRun messenger timer connectionId limit (some save)
        [⟨save.due, .background, .connection connectionId, record, none⟩] none
  /-- The write fails, and the rest of the save goes on. -/
  | refuse {save : BackgroundSave} {record : Record.SessionRecord} {failure : Error} {turn : Nat}
      {writes : List StoreWrite} {left : Option BackgroundSave} (due : save.due < limit)
      (isRecord : messenger.recordOf connectionId save = some record)
      (rest : SaveRun messenger timer connectionId limit (save.afterFailure timer turn record)
        writes left) :
      SaveRun messenger timer connectionId limit (some save)
        (⟨save.due, .background, .connection connectionId, record, some failure⟩ :: writes) left

namespace SaveRun

variable {messenger : Messenger} {timer : Timer} {connectionId : UInt32} {limit later : Nat}
  {save middle left : Option BackgroundSave} {first second : List StoreWrite}

theorem mono (run : SaveRun messenger timer connectionId limit save first left)
    (ordered : limit ≤ later) : SaveRun messenger timer connectionId later save first left := by
  induction run with
  | rest save => exact .rest save
  | lapse due gone => exact .lapse (Nat.lt_of_lt_of_le due ordered) gone
  | store due isRecord => exact .store (Nat.lt_of_lt_of_le due ordered) isRecord
  | refuse due isRecord _ inductionHypothesis =>
    exact .refuse (Nat.lt_of_lt_of_le due ordered) isRecord inductionHypothesis

theorem trans (begins : SaveRun messenger timer connectionId limit save first middle)
    (ends : SaveRun messenger timer connectionId limit middle second left) :
    SaveRun messenger timer connectionId limit save (first ++ second) left := by
  induction begins with
  | rest save => exact ends
  | lapse due gone =>
    cases ends
    exact .lapse due gone
  | store due isRecord =>
    cases ends
    exact .store due isRecord
  | refuse due isRecord _ inductionHypothesis =>
    exact .refuse due isRecord (inductionHypothesis ends)

/-- Nothing comes of a save that is not due. -/
theorem of_not_due {waits : BackgroundSave}
    (run : SaveRun messenger timer connectionId limit (some waits) first left)
    (notDue : limit ≤ waits.due) : first = [] ∧ left = some waits := by
  cases run with
  | rest => exact ⟨rfl, rfl⟩
  | lapse due => omega
  | store due => omega
  | refuse due => omega

theorem of_none (run : SaveRun messenger timer connectionId limit none first left) :
    first = [] ∧ left = none := by
  cases run
  exact ⟨rfl, rfl⟩

/-- Once the connection is exported, it does not matter what becomes of it. -/
theorem of_retrying (run : SaveRun messenger timer connectionId limit save first left)
    (retries : ∀ waits, save = some waits → waits.Retrying) (other : Messenger) :
    SaveRun other timer connectionId limit save first left := by
  induction run with
  | rest save => exact .rest save
  | lapse due gone =>
    obtain ⟨record, stage⟩ := retries _ rfl
    rw [Messenger.recordOf_of_retrying stage] at gone
    cases gone
  | store due isRecord =>
    obtain ⟨record, stage⟩ := retries _ rfl
    rw [Messenger.recordOf_of_retrying stage] at isRecord
    exact .store due ((Messenger.recordOf_of_retrying stage other connectionId).trans isRecord)
  | refuse due isRecord _ inductionHypothesis =>
    obtain ⟨record, stage⟩ := retries _ rfl
    rw [Messenger.recordOf_of_retrying stage] at isRecord
    exact .refuse due ((Messenger.recordOf_of_retrying stage other connectionId).trans isRecord)
      (inductionHypothesis fun waits => BackgroundSave.retrying_afterFailure)

theorem left_retrying (run : SaveRun messenger timer connectionId limit save first left)
    (retries : ∀ waits, save = some waits → waits.Retrying) :
    ∀ waits, left = some waits → waits.Retrying := by
  induction run with
  | rest save => exact retries
  | lapse due gone => exact nofun
  | store due isRecord => exact nofun
  | refuse due isRecord _ inductionHypothesis =>
    exact inductionHypothesis fun waits => BackgroundSave.retrying_afterFailure

/-- Either no step is taken, or the first one was due, and exports the connection. -/
theorem rests_or_begins {waits : BackgroundSave}
    (run : SaveRun messenger timer connectionId limit (some waits) first left) :
    first = [] ∧ left = some waits ∨
      waits.due < limit ∧ ∀ later, left = some later → later.Retrying := by
  cases run with
  | rest => exact .inl ⟨rfl, rfl⟩
  | lapse due => exact .inr ⟨due, nofun⟩
  | store due => exact .inr ⟨due, nofun⟩
  | refuse due _ rest =>
    exact .inr ⟨due, rest.left_retrying fun later => BackgroundSave.retrying_afterFailure⟩

end SaveRun

/-! ### Steps -/

namespace Site

variable {site : Site} {save : BackgroundSave} {clock : Nat}

/-- No save of the process at work is overdue. -/
def OnTime (clock : Nat) (site : Site) : Prop :=
  ∀ connectionId save, site.own.saves.find? connectionId = some save → clock ≤ save.due

theorem savesOf_fireAmongWrites (connectionId : UInt32) (moment turn : Nat)
    (processes : List Process) (volume : Volume) :
    savesOf connectionId (fireAmongWrites moment turn processes volume) = [] :=
  List.filter_eq_nil_iff.2 fun write member => by simp [author_of_mem_fireAmongWrites member]

theorem messenger_fire (turn : Nat) (site : Site) :
    (site.fire turn).own.messenger = site.own.messenger :=
  (List.cons.inj (fire_passes turn site).messengers).1

theorem timer_fire (turn : Nat) (site : Site) : (site.fire turn).own.timer = site.own.timer :=
  (List.cons.inj (fire_passes turn site).timers).1

theorem OnTime.fire (onTime : site.OnTime clock) (turn : Nat) : (site.fire turn).OnTime clock := by
  unfold Site.fire
  cases found : site.own.saveAt? turn with
  | none => exact onTime
  | some entry =>
    obtain ⟨firedId, fired⟩ := entry
    obtain ⟨rest, settled, leaves⟩ := site.own.fire_settles firedId fired site.nextTurn site.volume
    have wasOnTime := onTime firedId fired (Process.found_of_saveAt? found).1
    simp only [settled]
    intro connectionId save isOwn
    by_cases same : firedId = connectionId
    · subst same
      rw [Process.find?_saves_settle_self] at isOwn
      exact Nat.le_trans wasOnTime (leaves save isOwn).due
    · rw [Process.find?_saves_settle_other same] at isOwn
      exact onTime connectionId save isOwn

/-- The step of the foremost save, as every connection sees it. -/
theorem fire_run (inLine : site.InLine) (onTime : site.OnTime clock)
    (isNext : site.next? = some save) (isDue : save.due ≤ clock) (connectionId : UInt32) :
    SaveRun site.own.messenger site.own.timer connectionId (clock + 1)
      (site.own.saves.find? connectionId)
      (savesOf connectionId (site.fireWrites clock save.turn))
      ((site.fire save.turn).own.saves.find? connectionId) := by
  unfold fireWrites fire
  cases found : site.own.saveAt? save.turn with
  | none =>
    simp only [savesOf_fireAmongWrites]
    exact .rest _
  | some entry =>
    obtain ⟨firedId, fired⟩ := entry
    obtain rfl := inLine.saveAt?_eq isNext found
    have isFired := (Process.found_of_saveAt? found).1
    have punctual : clock = fired.due := Nat.le_antisymm (onTime firedId fired isFired) isDue
    subst punctual
    by_cases same : firedId = connectionId
    · subst same
      rw [isFired]
      simp only [Process.fireWrites]
      rcases site.own.fire_cases firedId fired site.nextTurn site.volume with
        ⟨gone, stepped⟩ | ⟨record, isRecord, ⟨accepted, stepped⟩ | ⟨failure, refused, stepped⟩⟩
      · rw [gone, stepped, Process.find?_saves_settle_self]
        exact .lapse (Nat.lt_succ_self _) gone
      · simp only [isRecord, stepped, Process.find?_saves_settle_self, accepted,
          savesOf_cons_self, savesOf_nil]
        exact .store (Nat.lt_succ_self _) isRecord
      · simp only [isRecord, stepped, Process.find?_saves_settle_self, refused,
          savesOf_cons_self, savesOf_nil]
        exact .refuse (Nat.lt_succ_self _) isRecord (.rest _)
    · have elsewhere : savesOf connectionId
          (site.own.fireWrites fired.due .background firedId fired site.volume) = [] := by
        unfold Process.fireWrites
        split
        · rfl
        · exact savesOf_cons_other [] (.inr fun equal => same (StoreSlot.connection.inj equal))
      simp only [Process.find?_saves_fire_other same, elsewhere]
      exact .rest _

/-! ### Time -/

theorem due_le_of_next? (isNext : site.next? = some save) {connectionId : UInt32}
    {own : BackgroundSave} (found : site.own.saves.find? connectionId = some own) :
    save.due ≤ own.due :=
  BackgroundSave.due_le_of_foremost? isNext own (mem_saves_iff.2
    ⟨site.own, List.mem_cons_self, Process.mem_values_iff.2 ⟨connectionId, found⟩⟩)

/-- No save is overdue if the foremost one is not. -/
theorem onTime_of_next? {limit : Nat} (notDue : ∀ save, site.next? = some save → limit ≤ save.due) :
    site.OnTime limit := by
  intro connectionId save found
  cases isNext : site.next? with
  | none =>
    have member : save ∈ site.saves :=
      mem_saves_iff.2 ⟨site.own, List.mem_cons_self, Process.mem_values_iff.2 ⟨connectionId, found⟩⟩
    rw [BackgroundSave.foremost?_eq_none isNext] at member
    cases member
  | some next => exact Nat.le_trans (notDue next isNext) (due_le_of_next? isNext found)

theorem OnTime.mono {earlier : Nat} (onTime : site.OnTime clock) (ordered : earlier ≤ clock) :
    site.OnTime earlier :=
  fun connectionId save found => Nat.le_trans ordered (onTime connectionId save found)

theorem work_catchUpWithin_le (clock steps : Nat) (site : Site) :
    (site.catchUpWithin clock steps).work ≤ site.work := by
  induction steps generalizing site with
  | zero => exact Nat.le_refl _
  | succ steps inductionHypothesis =>
    unfold catchUpWithin
    cases isNext : site.next? with
    | none => exact Nat.le_refl _
    | some save =>
      by_cases isDue : save.due ≤ clock
      · simp only [if_pos isDue]
        exact Nat.le_trans (inductionHypothesis _) (Nat.le_of_lt (work_fire_lt isNext))
      · simp only [if_neg isDue]
        exact Nat.le_refl _

/-- A moment at which a save is due reduces the work. -/
theorem work_catchUp_lt (isNext : site.next? = some save) (isDue : save.due ≤ clock) :
    (site.catchUp clock).work < site.work := by
  obtain ⟨steps, isWork⟩ := Nat.exists_eq_succ_of_ne_zero
    (Nat.ne_of_gt (Nat.lt_of_le_of_lt (Nat.zero_le _) (work_fire_lt isNext)))
  unfold catchUp
  rw [isWork]
  simp only [catchUpWithin, isNext, if_pos isDue]
  rw [← isWork]
  exact Nat.lt_of_le_of_lt (work_catchUpWithin_le _ _ _) (work_fire_lt isNext)

/-- Everything due before a limit has happened between two sites, to every connection as its save
has it, and nothing is overdue afterwards. -/
structure Ran (before after : Site) (limit : Nat) (writes : List StoreWrite) : Prop where
  messenger : after.own.messenger = before.own.messenger
  timer : after.own.timer = before.own.timer
  inLine : after.InLine
  onTime : after.OnTime limit
  runs : ∀ connectionId, SaveRun before.own.messenger before.own.timer connectionId limit
    (before.own.saves.find? connectionId) (savesOf connectionId writes)
    (after.own.saves.find? connectionId)

theorem Ran.trans {before middle after : Site} {limit later : Nat} {first second : List StoreWrite}
    (begins : before.Ran middle limit first) (ends : middle.Ran after later second)
    (ordered : limit ≤ later) : before.Ran after later (first ++ second) where
  messenger := ends.messenger.trans begins.messenger
  timer := ends.timer.trans begins.timer
  inLine := ends.inLine
  onTime := ends.onTime
  runs connectionId := by
    rw [savesOf_append]
    have rest := ends.runs connectionId
    rw [begins.messenger, begins.timer] at rest
    exact ((begins.runs connectionId).mono ordered).trans rest

/-- Nothing happens if nothing is due. -/
theorem Ran.refl {limit : Nat} (inLine : site.InLine)
    (notDue : ∀ save, site.next? = some save → limit ≤ save.due) : site.Ran site limit [] :=
  ⟨rfl, rfl, inLine, onTime_of_next? notDue, fun _ => .rest _⟩

theorem catchUpWithin_ran {steps : Nat} (inLine : site.InLine) (onTime : site.OnTime clock)
    (enough : site.work ≤ steps) :
    site.Ran (site.catchUpWithin clock steps) (clock + 1)
      (site.catchUpWritesWithin clock steps) := by
  induction steps generalizing site with
  | zero =>
    refine .refl inLine fun save isNext => ?_
    cases (next?_eq_none_of_work (Nat.le_zero.1 enough)).symm.trans isNext
  | succ steps inductionHypothesis =>
    unfold catchUpWithin catchUpWritesWithin
    cases isNext : site.next? with
    | none => exact .refl inLine fun save isSome => by cases isNext.symm.trans isSome
    | some save =>
      by_cases isDue : save.due ≤ clock
      · simp only [if_pos isDue]
        have fewer := work_fire_lt isNext
        have rest := inductionHypothesis (inLine.fire save.turn) (onTime.fire save.turn) (by omega)
        refine ⟨rest.messenger.trans (messenger_fire _ _), rest.timer.trans (timer_fire _ _),
          rest.inLine, rest.onTime, fun connectionId => ?_⟩
        have runs := rest.runs connectionId
        rw [messenger_fire, timer_fire] at runs
        rw [savesOf_append]
        exact (fire_run inLine onTime isNext isDue connectionId).trans runs
      · simp only [if_neg isDue]
        refine .refl inLine fun next isSome => ?_
        cases isNext.symm.trans isSome
        exact Nat.not_le.1 isDue

/-- Everything due at a moment happens at it. -/
theorem catchUp_ran (inLine : site.InLine) (onTime : site.OnTime clock) :
    site.Ran (site.catchUp clock) (clock + 1) (site.catchUpWrites clock) :=
  catchUpWithin_ran inLine onTime (Nat.le_refl _)

theorem runWithin_ran {stop : Volume → Bool} {limit steps : Nat} (inLine : site.InLine)
    (onTime : site.OnTime clock) (enough : site.work ≤ steps) (ahead : clock < limit) :
    match site.runWithin stop limit steps clock with
    | (some moment, after) => clock ≤ moment ∧ moment < limit ∧
      site.Ran after (moment + 1) (site.runWritesWithin stop limit steps clock)
    | (none, after) => site.Ran after limit (site.runWritesWithin stop limit steps clock) := by
  induction steps generalizing site clock with
  | zero =>
    refine .refl inLine fun save isNext => ?_
    cases (next?_eq_none_of_work (Nat.le_zero.1 enough)).symm.trans isNext
  | succ steps inductionHypothesis =>
    unfold runWithin runWritesWithin
    cases isNext : site.next? with
    | none => exact .refl inLine fun save isSome => by cases isNext.symm.trans isSome
    | some save =>
      by_cases isDue : save.due < limit
      · simp only [if_pos isDue]
        have within : max clock save.due < limit := Nat.max_lt.2 ⟨ahead, isDue⟩
        have later := Nat.le_max_left clock save.due
        have reached : site.OnTime (max clock save.due) := fun connectionId own found =>
          Nat.max_le.2 ⟨onTime connectionId own found, due_le_of_next? isNext found⟩
        have caughtUp := catchUp_ran inLine reached
        have fewer := work_catchUp_lt isNext (Nat.le_max_right clock save.due)
        by_cases stopped : stop (site.catchUp (max clock save.due)).volume = true
        · simp only [if_pos stopped, List.append_nil]
          exact ⟨later, within, caughtUp⟩
        · simp only [if_neg stopped]
          have rest := inductionHypothesis caughtUp.inLine
            (caughtUp.onTime.mono (Nat.le_succ _)) (by omega) within
          split
          · rename_i moment after ran
            rw [ran] at rest
            obtain ⟨reachedMoment, beforeLimit, restRan⟩ := rest
            exact ⟨Nat.le_trans later reachedMoment, beforeLimit,
              caughtUp.trans restRan (Nat.succ_le_succ reachedMoment)⟩
          · rename_i after ran
            rw [ran] at rest
            exact caughtUp.trans rest within
      · simp only [if_neg isDue]
        refine .refl inLine fun next isSome => ?_
        cases isNext.symm.trans isSome
        exact Nat.not_lt.1 isDue

/-- While time passes everything happens that is due, up to the moment at which it is stopped, or
up to the limit. -/
theorem run_ran (stop : Volume → Bool) {limit : Nat} (inLine : site.InLine)
    (onTime : site.OnTime clock) (ahead : clock < limit) :
    match site.run stop limit clock with
    | (some moment, after) => clock ≤ moment ∧ moment < limit ∧
      site.Ran after (moment + 1) (site.runWrites stop limit clock)
    | (none, after) => site.Ran after limit (site.runWrites stop limit clock) :=
  runWithin_ran inLine onTime (Nat.le_refl _) ahead

end Site

end RatchetMessaging
