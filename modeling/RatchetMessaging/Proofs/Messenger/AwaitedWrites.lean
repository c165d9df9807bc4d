import RatchetMessaging.Proofs.Messenger.BackgroundSave

/-!
Contract: what the records of connections can become while time passes.

Owns:
- `Process.WillWrite`, that an unfinished save of a process is to write a record, and
  `Site.Awaits`, that one of any process at a volume is;
- `WritesAwaited`, that a record of a connection that changes becomes one that was awaited before,
  and that time passes in this way.

Does not own: when a record is written, and whether it is.
-/

namespace RatchetMessaging

variable {process : Process} {processes later : List Process} {volume laterVolume : Volume}
  {connectionId otherId : UInt32} {save : BackgroundSave} {record : Record.SessionRecord}

/-- An unfinished save of the process is to write a record of a connection. -/
def Process.WillWrite (process : Process) (connectionId : UInt32)
    (record : Record.SessionRecord) : Prop :=
  ∃ save, process.saves.find? connectionId = some save ∧
    process.recordOf connectionId save = some record

/-- A record of a connection that changes becomes one that an unfinished save was to write, and no
save is to write anything else than before. -/
structure WritesAwaited (processes : List Process) (volume : Volume) (later : List Process)
    (laterVolume : Volume) : Prop where
  awaits : ∀ connectionId record, (∃ process ∈ later, process.WillWrite connectionId record) →
    ∃ process ∈ processes, process.WillWrite connectionId record
  record : ∀ connectionId, laterVolume.find? (.connection connectionId) =
      volume.find? (.connection connectionId) ∨
    ∃ record, laterVolume.find? (.connection connectionId) = some record ∧
      ∃ process ∈ processes, process.WillWrite connectionId record

namespace WritesAwaited

theorem refl (processes : List Process) (volume : Volume) :
    WritesAwaited processes volume processes volume :=
  ⟨fun _ _ awaited => awaited, fun _ => .inl rfl⟩

theorem trans {middle : List Process} {middleVolume : Volume}
    (first : WritesAwaited processes volume middle middleVolume)
    (second : WritesAwaited middle middleVolume later laterVolume) :
    WritesAwaited processes volume later laterVolume where
  awaits connectionId record awaited :=
    first.awaits connectionId record (second.awaits connectionId record awaited)
  record connectionId := by
    obtain same | ⟨record, stored, awaited⟩ := second.record connectionId
    · rw [same]
      exact first.record connectionId
    · exact .inr ⟨record, stored, first.awaits connectionId record awaited⟩

/-- A further process to which nothing happens. -/
theorem cons (process : Process) (awaited : WritesAwaited processes volume later laterVolume) :
    WritesAwaited (process :: processes) volume (process :: later) laterVolume where
  awaits connectionId record := by
    rintro ⟨writer, member, writes⟩
    rcases List.mem_cons.1 member with rfl | isLater
    · exact ⟨writer, List.mem_cons_self, writes⟩
    · obtain ⟨earlier, wasMember, wrote⟩ :=
        awaited.awaits connectionId record ⟨writer, isLater, writes⟩
      exact ⟨earlier, List.mem_cons_of_mem _ wasMember, wrote⟩
  record connectionId := by
    obtain same | ⟨record, stored, earlier, wasMember, wrote⟩ := awaited.record connectionId
    · exact .inl same
    · exact .inr ⟨record, stored, earlier, List.mem_cons_of_mem _ wasMember, wrote⟩

/-- A change to one process, and to the records that its saves were to write. -/
theorem of_own {settled : Process} (others : List Process)
    (writes : ∀ connectionId record, settled.WillWrite connectionId record →
      process.WillWrite connectionId record)
    (records : ∀ connectionId, laterVolume.find? (.connection connectionId) =
        volume.find? (.connection connectionId) ∨
      ∃ record, laterVolume.find? (.connection connectionId) = some record ∧
        process.WillWrite connectionId record) :
    WritesAwaited (process :: others) volume (settled :: others) laterVolume where
  awaits connectionId record := by
    rintro ⟨writer, member, stillWrites⟩
    rcases List.mem_cons.1 member with rfl | isOther
    · exact ⟨process, List.mem_cons_self, writes connectionId record stillWrites⟩
    · exact ⟨writer, List.mem_cons_of_mem _ isOther, stillWrites⟩
  record connectionId := by
    obtain same | ⟨record, stored, wrote⟩ := records connectionId
    · exact .inl same
    · exact .inr ⟨record, stored, process, List.mem_cons_self, wrote⟩

end WritesAwaited

/-! ### Steps of one process -/

namespace Process

/-- What is left of a save is to write the record that the save was to write. -/
theorem willWrite_of_settle {written : Record.SessionRecord} {rest : Option BackgroundSave}
    (writes : process.WillWrite connectionId written)
    (retries : ∀ left, rest = some left → left.stage = .retrying written)
    (stillWrites : (process.settle connectionId rest).WillWrite otherId record) :
    process.WillWrite otherId record := by
  obtain ⟨other, stillFound, isRecord⟩ := stillWrites
  by_cases same : connectionId = otherId
  · subst same
    rw [find?_saves_settle_self] at stillFound
    rw [recordOf, Messenger.recordOf, retries other stillFound] at isRecord
    cases isRecord
    exact writes
  · rw [find?_saves_settle_other same] at stillFound
    exact ⟨other, stillFound, isRecord⟩

/-- A save that has ended is to write nothing. -/
theorem willWrite_of_ended
    (stillWrites : (process.settle connectionId none).WillWrite otherId record) :
    process.WillWrite otherId record := by
  obtain ⟨other, stillFound, isRecord⟩ := stillWrites
  exact ⟨other, OrderedMap.find?_of_find?_erase stillFound, isRecord⟩

theorem willWrite_of_dropping {slot : StoreSlot}
    (stillWrites : (process.dropping slot).WillWrite connectionId record) :
    process.WillWrite connectionId record := by
  cases slot with
  | identity => exact stillWrites
  | connection droppedId => exact willWrite_of_ended stillWrites

/-- The step of a save writes what the save was to write, or nothing. -/
theorem fire_writesAwaited (others : List Process)
    (found : process.saves.find? connectionId = some save) (turn : Nat) (volume : Volume) :
    WritesAwaited (process :: others) volume
      ((process.fire connectionId save turn volume).1 :: others)
      (process.fire connectionId save turn volume).2 := by
  rcases process.fire_cases connectionId save turn volume with
    ⟨_, fired⟩ | ⟨record, isRecord, ⟨accepted, fired⟩ | ⟨_, refused, fired⟩⟩ <;> rw [fired]
  · exact .of_own others (fun _ _ => willWrite_of_ended) (fun _ => .inl rfl)
  · refine .of_own others (fun _ _ => willWrite_of_ended) (fun otherId => ?_)
    by_cases same : connectionId = otherId
    · subst same
      exact .inr ⟨record, Volume.find?_write_self accepted, save, found, isRecord⟩
    · refine .inl (Volume.find?_write_other fun sameSlot => same ?_)
      cases sameSlot
      rfl
  · refine .of_own others
      (fun _ _ => willWrite_of_settle ⟨save, found, isRecord⟩ fun left isLeft => ?_)
      (fun _ => .inl (Volume.find?_write_of_failure refused))
    exact (BackgroundSave.afterFailure_eq_some isLeft).1

theorem find?_of_saveAt? {turn : Nat}
    (found : process.saveAt? turn = some (connectionId, save)) :
    process.saves.find? connectionId = some save :=
  OrderedMap.find?_eq_some_iff.2 (List.mem_of_find?_eq_some found)

end Process

/-! ### Steps of a site -/

namespace Site

/-- An unfinished save of some process at the volume is to write a record of a connection. -/
def Awaits (site : Site) (connectionId : UInt32) (record : Record.SessionRecord) : Prop :=
  ∃ process ∈ site.own :: site.others, process.WillWrite connectionId record

/-- The records of connections that change become awaited ones. -/
abbrev WritesAwaited (before after : Site) : Prop :=
  RatchetMessaging.WritesAwaited (before.own :: before.others) before.volume
    (after.own :: after.others) after.volume

theorem fireAmong_writesAwaited (turn next : Nat) (processes : List Process) (volume : Volume) :
    RatchetMessaging.WritesAwaited processes volume (fireAmong turn next processes volume).1
      (fireAmong turn next processes volume).2 := by
  induction processes with
  | nil => exact .refl _ _
  | cons process rest inductionHypothesis =>
    unfold fireAmong
    cases found : process.saveAt? turn with
    | some entry => exact process.fire_writesAwaited rest (Process.find?_of_saveAt? found) _ _
    | none => exact inductionHypothesis.cons process

theorem Beat.writesAwaited {before after : Site} (beat : before.Beat after) :
    before.WritesAwaited after := by
  cases beat with
  | fire turn =>
    unfold Site.fire
    cases found : before.own.saveAt? turn with
    | some entry =>
      exact before.own.fire_writesAwaited before.others (Process.find?_of_saveAt? found) _ _
    | none => exact (fireAmong_writesAwaited _ _ _ _).cons before.own
  | refused failed =>
    exact ⟨fun _ _ awaited => awaited, fun _ => .inl (Volume.find?_write_of_failure failed)⟩

theorem Lapses.writesAwaited {before after : Site} (lapses : before.Lapses after) :
    before.WritesAwaited after := by
  induction lapses with
  | refl => exact .refl _ _
  | tail _ beat inductionHypothesis => exact inductionHypothesis.trans beat.writesAwaited

/-- Time passes after the save for a slot was dropped. -/
theorem writesAwaited_of_dropping {before after : Site} {slot : StoreSlot}
    (lapses : Lapses { before with own := before.own.dropping slot } after) :
    before.WritesAwaited after := by
  have drops : before.WritesAwaited { before with own := before.own.dropping slot } :=
    .of_own before.others (fun _ _ => Process.willWrite_of_dropping) (fun _ => .inl rfl)
  exact drops.trans lapses.writesAwaited

/-- Another identity, and a write of one. -/
theorem writesAwaited_of_identity (site : Site) (identity : Identity)
    (record : Record.SessionRecord) :
    site.WritesAwaited { site with
      own.messenger.identity := identity
      volume := (site.volume.write .identity record).2 } :=
  .of_own site.others (fun _ _ writes => writes) (fun _ => .inl (Volume.find?_write_other nofun))

end Site

end RatchetMessaging
