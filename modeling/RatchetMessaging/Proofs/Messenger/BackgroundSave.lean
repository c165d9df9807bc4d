import Mathlib.Logic.Relation
import RatchetMessaging.Messenger.Site
import RatchetMessaging.Proofs.Storage.Volume

/-!
Contract: what background saves change while time passes.

Owns:
- `Passes`, for processes and a volume to which nothing happens but steps of background saves:
  no party changes, no new save appears, and a record changes only if a save of it was unfinished;
- `Site.Lapses`, the steps themselves one after another, with the writes that come to nothing
  between them; every way in which a site lets time pass is of this kind, and passes;
- what one step of a save can come to.

Does not own: the order of the steps.
-/

namespace RatchetMessaging

variable {process : Process} {processes later : List Process} {volume laterVolume : Volume}
  {site : Site} {slot : StoreSlot} {connectionId : UInt32} {save : BackgroundSave}

/-- The process has an unfinished save of the record of a slot. -/
def Process.Saving (process : Process) (slot : StoreSlot) : Prop :=
  ∃ connectionId, slot = .connection connectionId ∧ process.saves.contains connectionId = true

/-- The process without its unfinished save of the record of a slot. -/
def Process.dropping (process : Process) : StoreSlot → Process
  | .identity => process
  | .connection connectionId => { process with saves := process.saves.erase connectionId }

/-- Nothing happens but steps of background saves. -/
structure Passes (processes : List Process) (volume : Volume) (later : List Process)
    (laterVolume : Volume) : Prop where
  messengers : later.map Process.messenger = processes.map Process.messenger
  timers : later.map Process.timer = processes.map Process.timer
  saving : ∀ slot, (∃ process ∈ later, process.Saving slot) →
    ∃ process ∈ processes, process.Saving slot
  record : ∀ slot, (∀ process ∈ processes, ¬ process.Saving slot) →
    laterVolume.find? slot = volume.find? slot
  writeFault : laterVolume.writeFault = volume.writeFault

namespace Passes

theorem refl (processes : List Process) (volume : Volume) :
    Passes processes volume processes volume :=
  ⟨rfl, rfl, fun _ saving => saving, fun _ _ => rfl, rfl⟩

theorem trans {middle : List Process} {middleVolume : Volume}
    (first : Passes processes volume middle middleVolume)
    (second : Passes middle middleVolume later laterVolume) :
    Passes processes volume later laterVolume where
  messengers := second.messengers.trans first.messengers
  timers := second.timers.trans first.timers
  saving slot saving := first.saving slot (second.saving slot saving)
  record slot unsaved := by
    have still : ∀ process ∈ middle, ¬ process.Saving slot := by
      intro process member saving
      obtain ⟨earlier, wasMember, wasSaving⟩ := first.saving slot ⟨process, member, saving⟩
      exact unsaved earlier wasMember wasSaving
    exact (second.record slot still).trans (first.record slot unsaved)
  writeFault := second.writeFault.trans first.writeFault

/-- A further process to which nothing happens. -/
theorem cons (process : Process) (passes : Passes processes volume later laterVolume) :
    Passes (process :: processes) volume (process :: later) laterVolume where
  messengers := congrArg (process.messenger :: ·) passes.messengers
  timers := congrArg (process.timer :: ·) passes.timers
  saving slot := by
    rintro ⟨saver, member, saving⟩
    rcases List.mem_cons.1 member with rfl | isLater
    · exact ⟨saver, List.mem_cons_self, saving⟩
    · obtain ⟨earlier, wasMember, wasSaving⟩ := passes.saving slot ⟨saver, isLater, saving⟩
      exact ⟨earlier, List.mem_cons_of_mem _ wasMember, wasSaving⟩
  record slot unsaved := passes.record slot (fun saver member =>
    unsaved saver (List.mem_cons_of_mem _ member))
  writeFault := passes.writeFault

end Passes

/-! ### Steps of one process -/

namespace BackgroundSave

/-- What is left of a save tries the same record again, one time less. -/
theorem afterFailure_eq_some {timer : Timer} {turn : Nat} {record : Record.SessionRecord}
    {rest : BackgroundSave} (left : save.afterFailure timer turn record = some rest) :
    rest.stage = .retrying record ∧ rest.attemptsLeft + 1 = save.attemptsLeft := by
  unfold afterFailure at left
  split at left
  · cases left
  · rename_i moreThanOne
    cases left
    exact ⟨rfl, Nat.sub_add_cancel (Nat.le_of_lt (Nat.not_le.1 moreThanOne))⟩

theorem afterFailure_eq_none {timer : Timer} {turn : Nat} {record : Record.SessionRecord}
    (ended : save.afterFailure timer turn record = none) : save.attemptsLeft ≤ 1 := by
  unfold afterFailure at ended
  split at ended
  · assumption
  · cases ended

end BackgroundSave

namespace Process

theorem not_saving_identity (process : Process) : ¬ process.Saving .identity := by
  rintro ⟨_, same, _⟩
  cases same

theorem not_saving_dropping (process : Process) (slot : StoreSlot) :
    ¬ (process.dropping slot).Saving slot := by
  rintro ⟨connectionId, rfl, contained⟩
  rw [dropping, OrderedMap.contains, OrderedMap.find?_erase_self] at contained
  cases contained

@[simp] theorem messenger_dropping (process : Process) (slot : StoreSlot) :
    (process.dropping slot).messenger = process.messenger := by
  cases slot <;> rfl

theorem find?_saves_settle_self (process : Process) (connectionId : UInt32)
    (rest : Option BackgroundSave) :
    (process.settle connectionId rest).saves.find? connectionId = rest := by
  cases rest with
  | none => exact OrderedMap.find?_erase_self _ _
  | some save => exact OrderedMap.find?_insert_self _ _ _

theorem find?_saves_settle_other {otherId : UInt32} (different : otherId ≠ connectionId)
    (process : Process) (rest : Option BackgroundSave) :
    (process.settle otherId rest).saves.find? connectionId = process.saves.find? connectionId := by
  cases rest with
  | none => exact OrderedMap.find?_erase_other _ different
  | some save => exact OrderedMap.find?_insert_other _ different _

theorem saving_of_settle (held : process.saves.contains connectionId = true)
    {rest : Option BackgroundSave} (saving : (process.settle connectionId rest).Saving slot) :
    process.Saving slot := by
  obtain ⟨otherId, rfl, contained⟩ := saving
  refine ⟨otherId, rfl, ?_⟩
  by_cases same : connectionId = otherId
  · exact same ▸ held
  · rw [OrderedMap.contains, find?_saves_settle_other same] at contained
    exact contained

/-- A save writes the record that was refused before, or the present one of its connection. -/
theorem recordOf_eq_some {record : Record.SessionRecord}
    (isRecord : process.recordOf connectionId save = some record) :
    save.stage = .retrying record ∨
      save.stage = .waiting ∧ ∃ live exported,
        process.messenger.connections.find? connectionId = some live ∧
        live.serial = save.serial ∧ live.connection.exportRecord = .ok exported ∧
        record = .ofConnection exported := by
  unfold recordOf Messenger.recordOf at isRecord
  split at isRecord
  · rename_i refused stage
    cases isRecord
    exact .inl stage
  · rename_i stage
    split at isRecord
    · cases isRecord
    · rename_i live found
      split at isRecord
      · rename_i ofLive
        obtain ⟨exported, isExported, rfl⟩ := Option.map_eq_some_iff.1 isRecord
        refine .inr ⟨stage, live, exported, found, ofLive, ?_, rfl⟩
        cases result : live.connection.exportRecord with
        | ok value =>
          rw [result] at isExported
          cases isExported
          rfl
        | error failure =>
          rw [result] at isExported
          cases isExported
      · cases isRecord

/-- A waiting save of a live connection is to write the export of the connection. -/
theorem recordOf_of_waiting {live : LiveConnection} {exported : Record.ConnectionRecord}
    (waits : save.stage = .waiting)
    (found : process.messenger.connections.find? connectionId = some live)
    (ofLive : save.serial = live.serial) (isExport : live.connection.exportRecord = .ok exported) :
    process.recordOf connectionId save = some (.ofConnection exported) := by
  simp only [recordOf, Messenger.recordOf, waits, found, ofLive, if_true, isExport]
  rfl

/-- The step of a save: there is nothing to write any more, or its record is written, or the write
fails and leaves the rest of the save. -/
theorem fire_cases (process : Process) (connectionId : UInt32) (save : BackgroundSave) (turn : Nat)
    (volume : Volume) :
    (process.recordOf connectionId save = none ∧
      process.fire connectionId save turn volume = (process.settle connectionId none, volume)) ∨
    ∃ record, process.recordOf connectionId save = some record ∧
      (((volume.write (.connection connectionId) record).1 = none ∧
          process.fire connectionId save turn volume =
            (process.settle connectionId none,
              (volume.write (.connection connectionId) record).2)) ∨
        ∃ failure, (volume.write (.connection connectionId) record).1 = some failure ∧
          process.fire connectionId save turn volume =
            (process.settle connectionId (save.afterFailure process.timer turn record),
              (volume.write (.connection connectionId) record).2)) := by
  unfold fire
  cases process.recordOf connectionId save with
  | none => exact .inl ⟨rfl, rfl⟩
  | some record =>
    refine .inr ⟨record, rfl, ?_⟩
    cases written : volume.write (.connection connectionId) record with
    | mk failure next =>
      cases failure with
      | none => exact .inl ⟨rfl, by simp only [written]⟩
      | some reason => exact .inr ⟨reason, rfl, by simp only [written]⟩

/-- The step of a save writes at most the record of its connection. -/
theorem fire_passes (others : List Process) (held : process.saves.contains connectionId = true)
    (save : BackgroundSave) (turn : Nat) (volume : Volume) :
    Passes (process :: others) volume
      ((process.fire connectionId save turn volume).1 :: others)
      (process.fire connectionId save turn volume).2 := by
  -- Whatever is left of the save, and whether the write fails: it is the record of its slot.
  have settled : ∀ rest written, written.writeFault = volume.writeFault →
      (∀ slot, .connection connectionId ≠ slot → written.find? slot = volume.find? slot) →
      Passes (process :: others) volume (process.settle connectionId rest :: others) written := by
    intro rest written sameFault sameRecords
    refine ⟨rfl, rfl, ?_, fun slot unsaved => sameRecords slot ?_, sameFault⟩
    · rintro slot ⟨saver, member, saving⟩
      rcases List.mem_cons.1 member with rfl | isOther
      · exact ⟨process, List.mem_cons_self, saving_of_settle held saving⟩
      · exact ⟨saver, List.mem_cons_of_mem _ isOther, saving⟩
    · rintro rfl
      exact unsaved process List.mem_cons_self ⟨connectionId, rfl, held⟩
  have sameFault := Volume.writeFault_write volume (.connection connectionId)
  rcases process.fire_cases connectionId save turn volume with
    ⟨_, fired⟩ | ⟨record, _, ⟨_, fired⟩ | ⟨_, _, fired⟩⟩ <;> rw [fired]
  · exact settled none volume rfl (fun _ _ => rfl)
  · exact settled none _ (sameFault record) (fun _ => Volume.find?_write_other)
  · exact settled _ _ (sameFault record) (fun _ => Volume.find?_write_other)

theorem find?_saves_fire_other {otherId : UInt32} (different : otherId ≠ connectionId)
    (process : Process) (save : BackgroundSave) (turn : Nat) (volume : Volume) :
    (process.fire otherId save turn volume).1.saves.find? connectionId =
      process.saves.find? connectionId := by
  rcases process.fire_cases otherId save turn volume with
    ⟨_, fired⟩ | ⟨_, _, ⟨_, fired⟩ | ⟨_, _, fired⟩⟩ <;>
    rw [fired, find?_saves_settle_other different]

theorem contains_of_saveAt? {turn : Nat}
    (found : process.saveAt? turn = some (connectionId, save)) :
    process.saves.contains connectionId = true :=
  OrderedMap.contains_iff.2
    ⟨save, OrderedMap.find?_eq_some_iff.2 (List.mem_of_find?_eq_some found)⟩

end Process

/-! ### Steps of a site -/

namespace Site

/-- Nothing happens at the site but steps of background saves. -/
abbrev Passes (before after : Site) : Prop :=
  RatchetMessaging.Passes (before.own :: before.others) before.volume
    (after.own :: after.others) after.volume

theorem fireAmong_passes (turn next : Nat) (processes : List Process) (volume : Volume) :
    RatchetMessaging.Passes processes volume (fireAmong turn next processes volume).1
      (fireAmong turn next processes volume).2 := by
  induction processes with
  | nil => exact .refl _ _
  | cons process rest inductionHypothesis =>
    unfold fireAmong
    cases found : process.saveAt? turn with
    | some entry => exact process.fire_passes rest (Process.contains_of_saveAt? found) _ _ _
    | none => exact inductionHypothesis.cons process

/-- Processes without saves do nothing. -/
theorem fireAmong_of_idle {processes : List Process}
    (idle : ∀ process ∈ processes, process.saves = .empty) (turn next : Nat) (volume : Volume) :
    fireAmong turn next processes volume = (processes, volume) := by
  induction processes with
  | nil => rfl
  | cons process rest inductionHypothesis =>
    have nothing : process.saveAt? turn = none := by
      rw [Process.saveAt?, idle process List.mem_cons_self]
      rfl
    simp only [fireAmong, nothing,
      inductionHypothesis (fun other member => idle other (List.mem_cons_of_mem _ member))]

theorem fire_passes (turn : Nat) (site : Site) : site.Passes (site.fire turn) := by
  unfold fire
  cases found : site.own.saveAt? turn with
  | some entry =>
    exact site.own.fire_passes site.others (Process.contains_of_saveAt? found) _ _ _
  | none => exact (fireAmong_passes _ _ _ _).cons site.own

/-- A save of the process at work takes its step, or one of another process. -/
theorem fire_cases (turn : Nat) (site : Site) :
    (∃ connectionId save, site.own.saves.find? connectionId = some save ∧
      site.fire turn = { site with
        own := (site.own.fire connectionId save site.nextTurn site.volume).1
        volume := (site.own.fire connectionId save site.nextTurn site.volume).2 }) ∨
    site.fire turn = { site with
      others := (fireAmong turn site.nextTurn site.others site.volume).1
      volume := (fireAmong turn site.nextTurn site.others site.volume).2 } := by
  unfold fire
  cases found : site.own.saveAt? turn with
  | some entry =>
    exact .inl ⟨entry.1, entry.2,
      OrderedMap.find?_eq_some_iff.2 (List.mem_of_find?_eq_some found), rfl⟩
  | none => exact .inr rfl

/-! ### Time -/

/-- What can happen while the process at work waits or tries to write: a background save takes its
step, or a write comes to nothing. -/
inductive Beat : Site → Site → Prop
  | fire (turn : Nat) (site : Site) : Beat site (site.fire turn)
  | refused {site : Site} {slot : StoreSlot} {record : Record.SessionRecord} {failure : Error}
      (failed : (site.volume.write slot record).1 = some failure) :
      Beat site { site with volume := (site.volume.write slot record).2 }

/-- Time passes. -/
abbrev Lapses : Site → Site → Prop := Relation.ReflTransGen Beat

theorem Beat.passes {before after : Site} (beat : Beat before after) : before.Passes after := by
  cases beat with
  | fire turn => exact fire_passes turn before
  | refused failed =>
    exact ⟨rfl, rfl, fun _ saving => saving, fun _ _ => Volume.find?_write_of_failure failed,
      Volume.writeFault_write _ _ _⟩

theorem Lapses.passes {before after : Site} (lapses : before.Lapses after) :
    before.Passes after := by
  induction lapses with
  | refl => exact .refl _ _
  | tail _ beat inductionHypothesis => exact inductionHypothesis.trans beat.passes

/-- Time changes no party. -/
theorem Lapses.messenger {before after : Site} (lapses : before.Lapses after) :
    after.own.messenger = before.own.messenger :=
  (List.cons.inj lapses.passes.messengers).1

theorem Lapses.timer {before after : Site} (lapses : before.Lapses after) :
    after.own.timer = before.own.timer :=
  (List.cons.inj lapses.passes.timers).1

/-- Time makes no save. -/
theorem Beat.find?_saves_eq_none {before after : Site} (beat : before.Beat after)
    (idle : before.own.saves.find? connectionId = none) :
    after.own.saves.find? connectionId = none := by
  cases beat with
  | fire turn =>
    rcases fire_cases turn before with ⟨otherId, save, found, fired⟩ | fired
    · have different : otherId ≠ connectionId := by
        rintro rfl
        rw [idle] at found
        cases found
      rw [fired, Process.find?_saves_fire_other different]
      exact idle
    · rw [fired]
      exact idle
  | refused failed => exact idle

theorem Lapses.find?_saves_eq_none {before after : Site} (lapses : before.Lapses after)
    (idle : before.own.saves.find? connectionId = none) :
    after.own.saves.find? connectionId = none := by
  induction lapses with
  | refl => exact idle
  | tail _ beat inductionHypothesis => exact beat.find?_saves_eq_none inductionHypothesis

theorem catchUp_lapses (clock : Nat) (site : Site) : site.Lapses (site.catchUp clock) := by
  unfold catchUp
  generalize site.work = steps
  induction steps generalizing site with
  | zero => exact .refl
  | succ steps inductionHypothesis =>
    unfold catchUpWithin
    split
    · exact .refl
    · split
      · exact .head (.fire _ site) (inductionHypothesis _)
      · exact .refl

theorem run_lapses (stop : Volume → Bool) (limit clock : Nat) (site : Site) :
    site.Lapses (site.run stop limit clock).2 := by
  unfold run
  generalize site.work = steps
  induction steps generalizing site clock with
  | zero => exact .refl
  | succ steps inductionHypothesis =>
    unfold runWithin
    cases site.next? with
    | none => exact .refl
    | some save =>
      have lapses := catchUp_lapses (max clock save.due) site
      by_cases due : save.due < limit
      · simp only [due, if_true]
        by_cases stopped : stop (site.catchUp (max clock save.due)).volume = true
        · rw [if_pos stopped]
          exact lapses
        · rw [if_neg stopped]
          exact lapses.trans (inductionHypothesis _ _)
      · simp only [due, if_false]
        exact .refl

theorem drain_lapses (clock : Nat) (site : Site) : site.Lapses (site.drain clock).2 := by
  unfold drain
  generalize site.work = steps
  induction steps generalizing site clock with
  | zero => exact .refl
  | succ steps inductionHypothesis =>
    unfold drainWithin
    split
    · exact .refl
    · split
      · exact .refl
      · exact (catchUp_lapses _ site).trans (inductionHypothesis _ _)

end Site

end RatchetMessaging
