import RatchetMessaging.Proofs.Messenger.Drain
import RatchetMessaging.Proofs.Messenger.Sample
import RatchetMessaging.Proofs.Messenger.StoredConnection

/-!
Contract: changes that are still to be saved in the background.

Owns:
- `SaveFate`, what can become of an unfinished save while time passes: it is still to write its
  record, it has written it, or it has tried as often as it may;
- `Command.preparation`, all that an operation on a session does before it stores the session;
- an operation that fails in its preparation leaves every unfinished save to its fate, and what was
  to be saved is stored by a flush; an operation that fails while it stores the session leaves no
  unfinished save of it.

Does not own: what an operation that succeeds makes of an unfinished save.
-/

namespace RatchetMessaging

variable {σ : Type} {provider : Provider σ} {connectionId : UInt32}

/-! ### The fate of a save -/

theorem Volume.writes_write (volume : Volume) (slot : StoreSlot) (record : Record.SessionRecord) :
    (volume.write slot record).2.writes = volume.writes.count slot := by
  unfold write
  cases volume.writeFault volume.writes slot with
  | some _ => rfl
  | none => cases slot <;> rfl

theorem WriteCounts.connection_le_count (counts : WriteCounts) (slot : StoreSlot) :
    counts.connection ≤ (counts.count slot).connection := by
  cases slot with
  | identity => exact Nat.le_refl _
  | connection connectionId => exact Nat.le_succ _

namespace Site

variable {site later : Site} {record : Record.SessionRecord} {limit : Nat}

/-- An unfinished save of a session is going to write a record. -/
def WillWrite (site : Site) (connectionId : UInt32) (record : Record.SessionRecord) : Prop :=
  ∃ save, site.own.saves.find? connectionId = some save ∧
    site.own.recordOf connectionId save = some record

/-- What has become of a save that was going to write a record, and could try until `limit` writes
of connections had been tried. -/
inductive SaveFate (connectionId : UInt32) (record : Record.SessionRecord) (limit : Nat)
    (site : Site) : Prop
  /-- The save is still to write the record. -/
  | pending (save : BackgroundSave) (found : site.own.saves.find? connectionId = some save)
      (writes : site.own.recordOf connectionId save = some record)
      (remaining : limit ≤ site.volume.writes.connection + save.attemptsLeft)
  /-- The save has written the record. -/
  | written (ended : site.own.saves.find? connectionId = none)
      (stored : site.volume.find? (.connection connectionId) = some record)
  /-- The volume has refused the record as often as the save may try. -/
  | gaveUp (ended : site.own.saves.find? connectionId = none)
      (refuses : ∃ writes, site.volume.writeFault writes (.connection connectionId) ≠ none)
      (spent : limit ≤ site.volume.writes.connection)

/-- Nothing happens to a session, its save and its record. -/
structure Spares (connectionId : UInt32) (site later : Site) : Prop where
  connections : later.own.messenger.connections = site.own.messenger.connections
  save : later.own.saves.find? connectionId = site.own.saves.find? connectionId
  record : later.volume.find? (.connection connectionId) =
    site.volume.find? (.connection connectionId)
  writeFault : later.volume.writeFault = site.volume.writeFault
  writes : site.volume.writes.connection ≤ later.volume.writes.connection

end Site

theorem Process.recordOf_congr {process later : Process} (save : BackgroundSave)
    (same : later.messenger.connections = process.messenger.connections) :
    later.recordOf connectionId save = process.recordOf connectionId save := by
  unfold recordOf Messenger.recordOf
  rw [same]

namespace Site

variable {site later : Site} {record : Record.SessionRecord} {limit : Nat}

theorem SaveFate.spared (fate : site.SaveFate connectionId record limit)
    (spares : site.Spares connectionId later) : later.SaveFate connectionId record limit := by
  have moreWrites := spares.writes
  cases fate with
  | pending save found writes remaining =>
    exact .pending save (spares.save.trans found)
      ((Process.recordOf_congr save spares.connections).trans writes) (by omega)
  | written ended stored =>
    exact .written (spares.save.trans ended) (spares.record.trans stored)
  | gaveUp ended refuses spent =>
    exact .gaveUp (spares.save.trans ended) (spares.writeFault ▸ refuses) (by omega)

/-- Writes to other slots spare a session. -/
theorem spares_of_write (site : Site) {slot : StoreSlot} (written : Record.SessionRecord)
    (other : slot ≠ .connection connectionId) :
    site.Spares connectionId { site with volume := (site.volume.write slot written).2 } where
  connections := rfl
  save := rfl
  record := Volume.find?_write_other other
  writeFault := Volume.writeFault_write _ _ _
  writes := by
    rw [Volume.writes_write]
    exact WriteCounts.connection_le_count _ slot

/-- What happens to the save of another session spares a session. -/
theorem Spares.settle {otherId : UInt32} {volume : Volume}
    (spares : site.Spares connectionId { site with volume := volume })
    (other : otherId ≠ connectionId) (rest : Option BackgroundSave) :
    site.Spares connectionId
      { site with own := site.own.settle otherId rest, volume := volume } where
  connections := rfl
  save := Process.find?_saves_settle_other other _ _
  record := spares.record
  writeFault := spares.writeFault
  writes := spares.writes

/-- Whatever happens while time passes spares a session, or it is the step of its own save. -/
theorem Beat.spares_or_fires (beat : site.Beat later)
    (alone : ∀ process ∈ site.others, process.saves = .empty) (connectionId : UInt32) :
    later.others = site.others ∧ (site.Spares connectionId later ∨
      ∃ save turn, site.own.saves.find? connectionId = some save ∧
        later = { site with
          own := (site.own.fire connectionId save turn site.volume).1
          volume := (site.own.fire connectionId save turn site.volume).2 }) := by
  cases beat with
  | fire turn =>
    rcases fire_cases turn site with ⟨otherId, save, found, fired⟩ | fired
    · rw [fired]
      refine ⟨rfl, ?_⟩
      by_cases same : otherId = connectionId
      · subst same
        exact .inr ⟨save, _, found, rfl⟩
      · left
        have nothing : site.Spares connectionId { site with volume := site.volume } :=
          ⟨rfl, rfl, rfl, rfl, Nat.le_refl _⟩
        have write := fun written : Record.SessionRecord => site.spares_of_write written
          (fun isSlot => same (StoreSlot.connection.inj isSlot))
        rcases site.own.fire_cases otherId save site.nextTurn site.volume with
          ⟨_, stepped⟩ | ⟨written, _, ⟨_, stepped⟩ | ⟨_, _, stepped⟩⟩ <;> rw [stepped]
        · exact nothing.settle same none
        · exact (write written).settle same none
        · exact (write written).settle same _
    · -- No other process has a save, so there is nothing to step.
      rw [fired, fireAmong_of_idle alone]
      exact ⟨rfl, .inl ⟨rfl, rfl, rfl, rfl, Nat.le_refl _⟩⟩
  | refused failed =>
    refine ⟨rfl, .inl ⟨rfl, rfl, Volume.find?_write_of_failure failed,
      Volume.writeFault_write _ _ _, ?_⟩⟩
    rw [Volume.writes_write]
    exact WriteCounts.connection_le_count _ _

/-- The step of the save itself: the record is written, or refused once more. -/
theorem SaveFate.fire {save : BackgroundSave} (turn : Nat)
    (fate : site.SaveFate connectionId record limit)
    (found : site.own.saves.find? connectionId = some save) :
    SaveFate connectionId record limit { site with
      own := (site.own.fire connectionId save turn site.volume).1
      volume := (site.own.fire connectionId save turn site.volume).2 } := by
  cases fate with
  | written ended stored => cases ended.symm.trans found
  | gaveUp ended refuses spent => cases ended.symm.trans found
  | pending same isSame writes remaining =>
    cases isSame.symm.trans found
    rcases site.own.fire_cases connectionId save turn site.volume with
      ⟨nothing, _⟩ | ⟨isWritten, isRecord, outcome⟩
    · cases nothing.symm.trans writes
    · cases isRecord.symm.trans writes
      have counted : (site.volume.write (.connection connectionId) record).2.writes.connection =
          site.volume.writes.connection + 1 := by
        rw [Volume.writes_write]
        rfl
      rcases outcome with ⟨accepted, stepped⟩ | ⟨failure, refused, stepped⟩ <;> rw [stepped]
      · exact .written (Process.find?_saves_settle_self _ _ _) (Volume.find?_write_self accepted)
      · -- The refused try counts as a write, so the bound holds with one try less.
        have ended := Process.find?_saves_settle_self site.own connectionId
          (save.afterFailure site.own.timer turn record)
        cases left : save.afterFailure site.own.timer turn record with
        | none =>
          rw [left] at ended
          have last := BackgroundSave.afterFailure_eq_none left
          refine .gaveUp ended ⟨site.volume.writes, fun accepts => ?_⟩ ?_
          · rw [Volume.writeFault_write] at accepts
            cases (Volume.write_of_no_fault accepts).symm.trans refused
          · change limit ≤ (site.volume.write _ record).2.writes.connection
            omega
        | some rest =>
          rw [left] at ended
          obtain ⟨stage, fewer⟩ := BackgroundSave.afterFailure_eq_some left
          refine .pending rest ended ?_ ?_
          · simp only [Process.recordOf, Messenger.recordOf, stage]
          · change limit ≤ (site.volume.write _ record).2.writes.connection + rest.attemptsLeft
            omega

theorem SaveFate.lapses (lapses : site.Lapses later)
    (alone : ∀ process ∈ site.others, process.saves = .empty)
    (fate : site.SaveFate connectionId record limit) :
    later.SaveFate connectionId record limit := by
  -- The next step needs that the others still have no saves.
  suffices both : later.others = site.others ∧ later.SaveFate connectionId record limit from both.2
  induction lapses with
  | refl => exact ⟨rfl, fate⟩
  | tail _ beat inductionHypothesis =>
    obtain ⟨sameOthers, fateSoFar⟩ := inductionHypothesis
    obtain ⟨stillSame, spares | ⟨save, turn, found, rfl⟩⟩ :=
      beat.spares_or_fires (sameOthers ▸ alone) connectionId
    · exact ⟨stillSame.trans sameOthers, fateSoFar.spared spares⟩
    · exact ⟨sameOthers, fateSoFar.fire turn found⟩

end Site

/-! ### Flushes -/

/-- A record of a session is stored, or it is going to be. -/
def Site.Secures (site : Site) (connectionId : UInt32) (record : Record.SessionRecord) : Prop :=
  site.WillWrite connectionId record ∨
    site.own.saves.find? connectionId = none ∧
      site.volume.find? (.connection connectionId) = some record

/-- A flush of a process alone at a volume that accepts every write stores what was to be stored. -/
theorem Node.flush_stores {node : Node σ} {record : Record.SessionRecord}
    (working : node.toSite.Working) (secures : node.toSite.Secures connectionId record) :
    ∃ after, flush node = .ok () after ∧ after.own.messenger = node.own.messenger ∧
      after.volume.find? (.connection connectionId) = some record := by
  obtain ⟨after, flushed, lapses, ended⟩ := flush_ends working
  refine ⟨after, flushed, lapses.messenger, ?_⟩
  have fate : ∃ limit, node.toSite.SaveFate connectionId record limit := by
    rcases secures with ⟨save, found, writes⟩ | ⟨ended, stored⟩
    · exact ⟨_, .pending save found writes (Nat.le_refl _)⟩
    · exact ⟨0, .written ended stored⟩
  obtain ⟨limit, fate⟩ := fate
  cases Site.SaveFate.lapses lapses working.alone fate with
  | pending save found _ _ => cases (ended connectionId).symm.trans found
  | written _ stored => exact stored
  | gaveUp _ refuses _ =>
    obtain ⟨writes, refuses⟩ := refuses
    rw [lapses.passes.writeFault] at refuses
    exact absurd (working.accepts writes _) refuses

/-! ### Preparations -/

namespace Node

variable {α : Type} {stage : Connection → Crypto σ (α × Staged)} {signal : CancelSignal σ}
  {before after : Node σ} {failure : Error}

/-- The part of an exchange that comes before a turn is stored. -/
def prepareExchange (connectionId : UInt32) (stage : Connection → Crypto σ (α × Staged))
    (signal : CancelSignal σ) : Operation σ Unit := do
  let live ← checking ((← messenger).session connectionId)
  let (_, staged) ← calling (stage live.connection)
  if (staged.turnRecord connectionId).isSome then
    signal.check

/-- An exchange that fails in its preparation fails with nothing changed. -/
theorem exchange_of_unprepared
    (unprepared : prepareExchange connectionId stage signal before = .error failure after) :
    exchange connectionId stage signal before = .error failure after ∧
      after.toSite = before.toSite := by
  simp only [prepareExchange, Crypto.bind_eq_error, messenger_eq_ok, messenger_ne_error,
    checking_eq_ok, checking_eq_error, calling_eq_ok, calling_eq_error, false_or,
    Prod.exists] at unprepared
  obtain ⟨_, _, ⟨rfl, rfl⟩, ⟨missing, rfl⟩ | ⟨live, _, ⟨found, rfl⟩, unstaged | staged⟩⟩ :=
    unprepared
  · exact ⟨exchange_of_missing missing, rfl⟩
  · obtain ⟨_, unstaged, rfl⟩ := unstaged
    exact ⟨exchange_of_unstaged found unstaged, rfl⟩
  · obtain ⟨_, staged, _, ⟨crypto, isStaged, rfl⟩, unchecked⟩ := staged
    cases turned : staged.turnRecord connectionId with
    | none =>
      simp only [turned, Option.isSome_none, Bool.false_eq_true, if_false] at unchecked
      exact absurd unchecked Crypto.pure_ne_error
    | some record =>
      simp only [turned, Option.isSome_some, if_true] at unchecked
      have unsettled : settle connectionId live staged signal { before with crypto := crypto } =
          .error failure after := by
        unfold settle
        simp only [turned]
        exact Crypto.bind_of_error unchecked _
      rw [exchange_of_staged found isStaged]
      refine ⟨Crypto.bind_of_error unsettled _, ?_⟩
      rw [← CancelSignal.check_eq_error unchecked]

/-- An exchange that fails after its preparation has failed to store its turn. -/
theorem saveCritical_of_prepared {middle : Node σ} {done : PUnit}
    (prepared : prepareExchange connectionId stage signal before = .ok done middle)
    (failed : exchange connectionId stage signal before = .error failure after) :
    ∃ record, saveCritical (.connection connectionId) record signal middle =
      .error failure after := by
  simp only [prepareExchange, Crypto.bind_eq_ok, messenger_eq_ok, checking_eq_ok,
    calling_eq_ok, Prod.exists] at prepared
  obtain ⟨_, _, ⟨rfl, rfl⟩, live, _, ⟨found, rfl⟩, _, staged, _, ⟨crypto, isStaged, rfl⟩,
    checked⟩ := prepared
  rw [exchange_of_staged found isStaged] at failed
  have unsettled := Crypto.error_of_bind_pure failed
  unfold settle at unsettled
  cases turned : staged.turnRecord connectionId with
  | none =>
    simp only [turned] at unsettled
    cases unsettled
  | some record =>
    simp only [turned, Option.isSome_some, if_true] at checked unsettled
    rw [Crypto.bind_of_ok checked] at unsettled
    obtain unsaved | ⟨_, _, _, committed⟩ := Crypto.bind_eq_error.1 unsettled
    · exact ⟨_, unsaved⟩
    · cases committed

/-- A new session can be exported, so only its save can fail. -/
theorem storeAndInstall_eq_error {connection : Connection} {state : RatchetState}
    (opens : connection.Opens connectionId state)
    (failed : storeAndInstall connectionId connection signal before = .error failure after) :
    ∃ record, saveCritical (.connection connectionId) record signal before =
      .error failure after := by
  simp only [storeAndInstall, Crypto.bind_eq_error, checking_eq_ok, checking_eq_error,
    modifyMessenger_ne_error, and_false, exists_false, or_false,
    Connection.exportRecord_of_established opens.phase] at failed
  obtain ⟨exported, _⟩ | ⟨_, _, ⟨_, rfl⟩, unsaved⟩ := failed
  · cases exported
  · exact ⟨_, unsaved⟩

end Node

namespace Command

/-- All that an operation on a session does before it stores the session. -/
def preparation (provider : Provider σ) : Command σ → Operation σ Unit
  | initiate connectionId bundle signal => do
    signal.check
    let _ ← Node.openAsInitiator provider connectionId bundle
    signal.check
  | accept connectionId hello signal => do
    let _ ← Node.takeOver provider connectionId hello signal
    return ()
  | encrypt connectionId plaintext associatedData signal =>
    Node.prepareExchange connectionId
      (fun connection => connection.stageEncrypt provider plaintext associatedData) signal
  | decrypt connectionId message associatedData signal =>
    Node.prepareExchange connectionId
      (fun connection => connection.stageDecrypt provider message associatedData) signal
  | _ => return ()

/-- The session that a command stores, and the signal that it heeds. -/
def session? : Command σ → Option (UInt32 × CancelSignal σ)
  | initiate connectionId _ signal | accept connectionId _ signal
  | encrypt connectionId _ _ signal | decrypt connectionId _ _ signal =>
    some (connectionId, signal)
  | _ => none

variable {command : Command σ} {before after middle : Node σ} {failure : Error}
  {signal : CancelSignal σ}

theorem takeOver_of_unprepared {connectionId : UInt32} {hello : Hello}
    (unprepared : (accept connectionId hello signal).preparation provider before =
      .error failure after) :
    Node.takeOver provider connectionId hello signal before = .error failure after := by
  simpa only [preparation, Crypto.bind_eq_error, Crypto.pure_ne_error, and_false, exists_false,
    or_false] using unprepared

theorem takeOver_of_prepared {connectionId : UInt32} {hello : Hello}
    (prepared : (accept connectionId hello signal).preparation provider before = .ok () after) :
    ∃ opened, Node.takeOver provider connectionId hello signal before = .ok opened after := by
  obtain ⟨opened, _, takenOver, returned⟩ := Crypto.bind_eq_ok.1 prepared
  obtain ⟨_, rfl⟩ := Crypto.pure_eq_ok.1 returned
  exact ⟨opened, takenOver⟩

/-- A command that fails in its preparation fails there. -/
theorem result_of_unprepared
    (unprepared : command.preparation provider { before with gaveWay := false } =
      .error failure after) :
    command.result provider before = .error failure after := by
  cases command with
  | initiate connectionId bundle signal =>
    have fails : Node.initiateSession provider connectionId bundle signal
        { before with gaveWay := false } = .error failure after := by
      simp only [preparation, Crypto.bind_eq_error] at unprepared
      unfold Node.initiateSession
      obtain withdrawn | ⟨_, _, checked, unopened | ⟨_, _, opened, withdrawn⟩⟩ := unprepared
      · exact Crypto.bind_of_error withdrawn _
      · rw [Crypto.bind_of_ok checked]
        exact Crypto.bind_of_error unopened _
      · rw [Crypto.bind_of_ok checked, Crypto.bind_of_ok opened]
        exact Crypto.bind_of_error withdrawn _
    exact Crypto.bind_of_error fails _
  | accept connectionId hello signal =>
    rw [result, perform, Node.acceptSession_eq]
    exact Crypto.bind_of_error (Crypto.bind_of_error (takeOver_of_unprepared unprepared) _) _
  | encrypt connectionId plaintext associatedData signal =>
    rw [preparation] at unprepared
    exact Crypto.bind_of_error (Node.exchange_of_unprepared unprepared).1 _
  | decrypt connectionId message associatedData signal =>
    rw [preparation] at unprepared
    exact Crypto.bind_of_error (Node.exchange_of_unprepared unprepared).1 _
  | _ => exact absurd unprepared Crypto.pure_ne_error

/-- A command that fails after its preparation has failed to store its session. -/
theorem saveCritical_of_prepared {connectionId : UInt32}
    (isSession : command.session? = some (connectionId, signal))
    (failed : command.result provider before = .error failure after)
    (prepared : command.preparation provider { before with gaveWay := false } = .ok () middle) :
    ∃ record, Node.saveCritical (.connection connectionId) record signal middle =
      .error failure after := by
  cases command with
  | initiate _ bundle _ =>
    cases isSession
    simp only [preparation, Crypto.bind_eq_ok, Prod.exists] at prepared
    obtain ⟨_, _, checked, connection, hello, ready, opened, checkedAgain⟩ := prepared
    obtain ⟨state, _, opens, _⟩ := Node.openAsInitiator_eq_ok opened
    have fails : Node.initiateSession provider connectionId bundle signal
        { before with gaveWay := false } = .error failure after := by
      rw [result, perform] at failed
      exact Crypto.error_of_bind_pure failed
    unfold Node.initiateSession at fails
    rw [Crypto.bind_of_ok checked, Crypto.bind_of_ok opened] at fails
    simp only at fails
    rw [Crypto.bind_of_ok checkedAgain] at fails
    exact Node.storeAndInstall_eq_error opens (Crypto.error_of_bind_pure fails)
  | accept _ hello _ =>
    cases isSession
    obtain ⟨⟨connection, drawn⟩, takenOver⟩ := takeOver_of_prepared prepared
    obtain ⟨_, state, opens, _⟩ := Node.takeOver_moves_of_ok takenOver
    rw [result, perform, Node.acceptSession_eq] at failed
    have fails := Crypto.error_of_bind_pure failed
    rw [Crypto.bind_of_ok takenOver] at fails
    exact Node.storeAndInstall_eq_error opens fails
  | encrypt _ plaintext associatedData _ =>
    cases isSession
    rw [preparation] at prepared
    rw [result, perform, Node.encrypt_eq_exchange] at failed
    exact Node.saveCritical_of_prepared prepared (Crypto.error_of_bind_pure failed)
  | decrypt _ message associatedData _ =>
    cases isSession
    rw [preparation] at prepared
    rw [result, perform, Node.decrypt_eq_exchange] at failed
    exact Node.saveCritical_of_prepared prepared (Crypto.error_of_bind_pure failed)
  | _ => cases isSession

/-- A preparation that fails changes no live session, and lets at most time pass for the saves. -/
theorem fate_of_unprepared
    (unprepared : command.preparation provider { before with gaveWay := false } =
      .error failure after)
    (alone : ∀ process ∈ before.others, process.saves = .empty) :
    after.own.messenger.connections = before.own.messenger.connections ∧
      ∀ connectionId record limit, before.toSite.SaveFate connectionId record limit →
        after.toSite.SaveFate connectionId record limit := by
  cases command with
  | initiate connectionId bundle signal =>
    have prepared : ∃ ephemeral, after.toSite = before.toSite.preparing ephemeral := by
      simp only [preparation, Crypto.bind_eq_error, Prod.exists] at unprepared
      obtain withdrawn | ⟨_, _, checked, unopened | ⟨_, _, _, opened, withdrawn⟩⟩ := unprepared
      · rw [← CancelSignal.check_eq_error withdrawn]
        exact ⟨_, rfl⟩
      · obtain rfl := CancelSignal.check_eq_ok checked
        have prepared := Node.openAsInitiator_eq_error unopened
        exact ⟨_, prepared⟩
      · obtain rfl := CancelSignal.check_eq_ok checked
        obtain ⟨_, prepared, _⟩ := Node.openAsInitiator_eq_ok opened
        rw [← CancelSignal.check_eq_error withdrawn]
        exact ⟨_, prepared⟩
    obtain ⟨ephemeral, prepared⟩ := prepared
    rw [prepared]
    exact ⟨rfl, fun _ _ _ fate => fate.spared ⟨rfl, rfl, rfl, rfl, Nat.le_refl _⟩⟩
  | accept connectionId hello signal =>
    have lapses := Node.takeOver_lapses_of_error (takeOver_of_unprepared unprepared)
    exact ⟨congrArg Messenger.connections lapses.messenger,
      fun _ _ _ fate => Site.SaveFate.lapses lapses alone fate⟩
  | encrypt connectionId plaintext associatedData signal =>
    rw [preparation] at unprepared
    rw [(Node.exchange_of_unprepared unprepared).2]
    exact ⟨rfl, fun _ _ _ => id⟩
  | decrypt connectionId message associatedData signal =>
    rw [preparation] at unprepared
    rw [(Node.exchange_of_unprepared unprepared).2]
    exact ⟨rfl, fun _ _ _ => id⟩
  | _ => exact absurd unprepared Crypto.pure_ne_error

end Command

/-! ### Failures -/

theorem Site.liveRecord?_congr {site later : Site}
    (same : later.own.messenger.connections = site.own.messenger.connections) :
    later.liveRecord? connectionId = site.liveRecord? connectionId := by
  unfold liveRecord?
  rw [same]

/-- **A failed operation does not lose an unsaved change**, if it fails before it stores its
session. An unfinished save is then still to write its record, or has written it, unless the volume
has refused the record as often as the save may try. As long as that has not happened, a flush that
follows on a volume that accepts every write stores the record; if it is that of the live session,
the whole live state is stored then. -/
theorem unsaved_change_survives (provider : Provider σ) (command : Command σ)
    {before after : Node σ} {failure : Error}
    (alone : ∀ process ∈ before.others, process.saves = .empty)
    (failed : command.result provider before = .error failure after)
    (unprepared : ∀ middle,
      command.preparation provider { before with gaveWay := false } ≠ .ok () middle) :
    ∀ connectionId save record, before.own.saves.find? connectionId = some save →
      before.own.recordOf connectionId save = some record →
        (after.toSite.Secures connectionId record ∨
          after.own.saves.find? connectionId = none ∧
            (∃ writes, after.volume.writeFault writes (.connection connectionId) ≠ none) ∧
            before.volume.writes.connection + save.attemptsLeft ≤ after.volume.writes.connection) ∧
        (after.toSite.Secures connectionId record →
          ∀ recovered : Node σ, recovered.own = after.own →
            (∀ slot, recovered.volume.find? slot = after.volume.find? slot) →
            recovered.toSite.Working →
            ∃ flushed, Node.flush recovered = .ok () flushed ∧
              flushed.volume.find? (.connection connectionId) = some record ∧
              ∀ state, before.toSite.liveRecord? connectionId = some state →
                record = .ofConnection state → flushed.toSite.IsStored connectionId) := by
  have failsThere : command.preparation provider { before with gaveWay := false } =
      .error failure after := by
    cases outcome : command.preparation provider { before with gaveWay := false } with
    | ok done middle => exact absurd outcome (unprepared middle)
    | error reason middle =>
      cases (Command.result_of_unprepared outcome).symm.trans failed
      rfl
  obtain ⟨sameSessions, keepsFate⟩ := Command.fate_of_unprepared failsThere alone
  intro connectionId save record found writes
  constructor
  · cases keepsFate connectionId record _ (.pending save found writes (Nat.le_refl _)) with
    | pending later stillFound stillWrites _ => exact .inl (.inl ⟨later, stillFound, stillWrites⟩)
    | written ended stored => exact .inl (.inr ⟨ended, stored⟩)
    | gaveUp ended refuses spent => exact .inr ⟨ended, refuses, spent⟩
  · intro secures recovered sameProcess sameRecords working
    have stillSecures : recovered.toSite.Secures connectionId record := by
      unfold Site.Secures Site.WillWrite at secures ⊢
      rwa [sameProcess, sameRecords]
    obtain ⟨flushed, isFlushed, sameParty, stored⟩ := Node.flush_stores working stillSecures
    refine ⟨flushed, isFlushed, stored, fun state isLive isState => ?_⟩
    have sameConnections : flushed.own.messenger.connections =
        before.own.messenger.connections := by
      rw [sameParty, sameProcess, sameSessions]
    exact ⟨state, (Site.liveRecord?_congr sameConnections).trans isLive, isState ▸ stored⟩

/-- A process with a session whose first message is still to be saved, and whose second one will
take a turn. -/
def Node.sampleUnsaved : Node Nat :=
  run .transparent [.initiate 1 .sample .never, .encrypt 1 [5] [] .never]
    (.sampleStart { chainRatchetThreshold := 1 })

theorem Node.sampleUnsaved_willWrite :
    ∃ save record, sampleUnsaved.own.saves.find? 1 = some save ∧
      sampleUnsaved.own.recordOf 1 save = some (.ofConnection record) ∧
      sampleUnsaved.toSite.liveRecord? 1 = some record := by
  have isLive : (sampleUnsaved.toSite.liveRecord? 1).isSome = true := by decide +kernel
  have writes : (sampleUnsaved.own.saves.find? 1).bind (sampleUnsaved.own.recordOf 1) =
      (sampleUnsaved.toSite.liveRecord? 1).map .ofConnection := by
    decide +kernel
  obtain ⟨record, found⟩ := Option.isSome_iff_exists.1 isLive
  rw [found, Option.map_some] at writes
  obtain ⟨save, isSave, isRecord⟩ := Option.bind_eq_some_iff.1 writes
  exact ⟨save, record, isSave, isRecord, found⟩

theorem Node.sampleUnsaved_working : sampleUnsaved.toSite.Working where
  alone := by
    have none : sampleUnsaved.others.isEmpty = true := by decide +kernel
    rw [List.isEmpty_iff.1 none]
    exact fun _ member => nomatch member
  accepts writes slot := by
    have sameFault := (run_moves .transparent [.initiate 1 .sample .never, .encrypt 1 [5] [] .never]
      (sampleStart { chainRatchetThreshold := 1 })).writeFault
    exact congrFun (congrFun sameFault writes) slot

/-- A turn is withdrawn before it is to be stored. The message before it is still to be saved, and a
flush stores it. -/
theorem unsaved_change_survives_sample :
    ∃ after flushed,
      (Command.encrypt 1 [6] [] .fired).result .transparent Node.sampleUnsaved =
        .error .cancelled after ∧
      Node.flush after = .ok () flushed ∧ flushed.toSite.IsStored 1 := by
  have failed := Command.result_of_failure? (show (Command.encrypt 1 [6] [] .fired).failure?
    .transparent Node.sampleUnsaved = some .cancelled by decide +kernel)
  have unprepared : ∀ middle, (Command.encrypt 1 [6] [] .fired).preparation .transparent
      { Node.sampleUnsaved with gaveWay := false } ≠ .ok () middle := by
    intro middle prepared
    have outcome : (match (Command.encrypt 1 [6] [] .fired).preparation .transparent
        { Node.sampleUnsaved with gaveWay := false } with
        | .ok _ _ => true
        | .error _ _ => false) = false := by
      decide +kernel
    rw [prepared] at outcome
    cases outcome
  have working : ((Command.encrypt 1 [6] [] .fired).aftermath .transparent
      Node.sampleUnsaved).toSite.Working := by
    have noOthers : ((Command.encrypt 1 [6] [] .fired).aftermath .transparent
        Node.sampleUnsaved).others.isEmpty = true := by
      decide +kernel
    have sameFault := ((Command.encrypt 1 [6] [] .fired).moves .transparent
      Node.sampleUnsaved).writeFault
    refine ⟨?_, sameFault ▸ Node.sampleUnsaved_working.accepts⟩
    rw [List.isEmpty_iff.1 noOthers]
    exact fun _ member => nomatch member
  obtain ⟨save, record, found, writes, isLive⟩ := Node.sampleUnsaved_willWrite
  obtain ⟨secures | ⟨_, ⟨counts, refuses⟩, _⟩, recovers⟩ :=
    unsaved_change_survives .transparent _ Node.sampleUnsaved_working.alone failed unprepared 1 save
      _ found writes
  · obtain ⟨flushed, isFlushed, _, isStored⟩ := recovers secures _ rfl (fun _ => rfl) working
    exact ⟨_, flushed, failed, isFlushed, isStored record isLive rfl⟩
  · exact absurd (working.accepts counts _) refuses

/-- An operation that fails while it stores its session leaves no unfinished save of it: what was
still to be saved is not stored by any flush that follows. -/
theorem unsaved_change_is_dropped {command : Command σ} {before middle after : Node σ}
    {signal : CancelSignal σ} {failure : Error}
    (isSession : command.session? = some (connectionId, signal))
    (failed : command.result provider before = .error failure after)
    (prepared : command.preparation provider { before with gaveWay := false } = .ok () middle)
    (unsaved : ∀ process ∈ middle.others, ¬ process.Saving (.connection connectionId)) :
    after.own.saves.find? connectionId = none ∧
      after.toSite.liveRecord? connectionId = middle.toSite.liveRecord? connectionId ∧
      after.volume.find? (.connection connectionId) =
        middle.volume.find? (.connection connectionId) := by
  obtain ⟨record, uncritical⟩ := Command.saveCritical_of_prepared isSession failed prepared
  have lapses := Node.saveCritical_eq_error uncritical
  have unchanged := Node.Unchanged.of_passes lapses.passes
  refine ⟨lapses.find?_saves_eq_none (OrderedMap.find?_erase_self _ _), ?_,
    unchanged.connectionRecord unsaved⟩
  exact Site.liveRecord?_congr (congrArg Messenger.connections unchanged.messenger)

/-- A turn is withdrawn between the end of the unfinished save and its own write. The message before
it is not stored by the flush that follows, although every write succeeds. -/
theorem unsaved_change_is_lost :
    (∀ writes slot, Node.sampleUnsaved.volume.writeFault writes slot = none) ∧
      (∃ save record, Node.sampleUnsaved.own.saves.find? 1 = some save ∧
        Node.sampleUnsaved.own.recordOf 1 save = some (.ofConnection record) ∧
        Node.sampleUnsaved.toSite.liveRecord? 1 = some record) ∧
      ∃ after, (Command.encrypt 1 [6] [] { deadline := some 0 }).result .transparent
          Node.sampleUnsaved = .error .cancelled after ∧
        ¬ (Command.flush.aftermath .transparent after).toSite.IsStored 1 := by
  refine ⟨Node.sampleUnsaved_working.accepts, Node.sampleUnsaved_willWrite, _,
    Command.result_of_failure? (by decide +kernel), ?_⟩
  have different : ((Command.flush.aftermath .transparent
      ((Command.encrypt 1 [6] [] { deadline := some 0 }).aftermath .transparent
        Node.sampleUnsaved)).toSite.liveRecord? 1).map .ofConnection ≠
      (Command.flush.aftermath .transparent
        ((Command.encrypt 1 [6] [] { deadline := some 0 }).aftermath .transparent
          Node.sampleUnsaved)).volume.find? (.connection 1) := by
    decide +kernel
  rintro ⟨record, isLive, stored⟩
  exact different ((congrArg _ isLive).trans stored.symm)

end RatchetMessaging
