import RatchetMessaging.Proofs.Messenger.Authorship
import RatchetMessaging.Proofs.Messenger.Sample

/-!
Contract: a connection that was replaced or closed stores nothing any more.

Owns:
- the commands that end the life of a connection, and that each of them silences it, unless it is a
  restoration while a save of the connection holds a record;
- for every run of a process, whichever writes fail and however much time passes: after such a
  command no record of the connection is stored;
- a restoration after which an older record is stored.

Does not own: connections that stay live.
-/

namespace RatchetMessaging

variable {σ : Type} {provider : Provider σ} {connectionId : UInt32} {serial : Nat}

/-! ### Commands that end a connection -/

/-- The connection whose live object a command replaces or closes when it succeeds. -/
def Command.replaces? : Command σ → Option UInt32
  | .initiate connectionId _ _ => some connectionId
  | .accept connectionId _ _ => some connectionId
  | .restore connectionId => some connectionId
  | .close connectionId => some connectionId
  | _ => none

namespace Node

variable {before after : Node σ} {signal : CancelSignal σ} {done : PUnit}

theorem storeAndInstall_silences {connection : Connection} (provider : Provider σ)
    (alone : before.toSite.Alone)
    (belongs : before.toSite.Belongs serial connectionId)
    (installed : storeAndInstall connectionId connection signal before = .ok done after) :
    after.toSite.Silenced serial := by
  simp only [storeAndInstall, Crypto.bind_eq_ok, checking_eq_ok, modifyMessenger_eq_ok] at installed
  obtain ⟨record, _, ⟨_, rfl⟩, _, stored, saved, rfl⟩ := installed
  obtain ⟨ready, moves, _, idle, _, written⟩ :=
    saveCritical_moves_of_ok provider saved
  have still := moves.belongs alone belongs
  change Site.Silenced
    (stored.toSite.changing (fun messenger => messenger.install connectionId connection)) serial
  rw [written]
  have renumbers : ready.toSite.Renumbers
      ((ready.toSite.writing (.connection connectionId) (.ofConnection record)).changing
        (fun messenger => messenger.install connectionId connection)) :=
    .of_messenger (Messenger.renumbers_install _ _ _) (fun _ _ => id)
  refine (still.renumbers renumbers).silenced (fun live found => ?_) (fun save found => ?_)
  · cases (OrderedMap.find?_insert_self _ _ _).symm.trans found
    exact Nat.ne_of_gt still.given
  · cases (idle connectionId rfl).symm.trans found

theorem initiateSession_silences {bundle : Bundle} {hello : Hello}
    (alone : before.toSite.Alone) (belongs : before.toSite.Belongs serial connectionId)
    (initiated : initiateSession provider connectionId bundle signal before = .ok hello after) :
    after.toSite.Silenced serial := by
  obtain ⟨_, ready, opened, installed⟩ := initiateSession_eq_ok initiated
  obtain ⟨_, prepared, _⟩ := openAsInitiator_eq_ok opened
  have prepares : Move provider before.toSite [] ready.toSite := by
    rw [prepared]
    exact .prepare _
  exact storeAndInstall_silences provider (prepares.alone alone)
    (belongs.renumbers (prepares.renumbers alone)) installed

theorem acceptSession_silences {hello : Hello} (alone : before.toSite.Alone)
    (belongs : before.toSite.Belongs serial connectionId)
    (accepted : acceptSession provider connectionId hello signal before = .ok done after) :
    after.toSite.Silenced serial := by
  simp only [acceptSession_eq, Crypto.bind_eq_ok, Prod.exists] at accepted
  obtain ⟨connection, drawn, middle, takenOver, installed⟩ := accepted
  obtain ⟨moves, _⟩ := takeOver_moves_of_ok takenOver
  exact storeAndInstall_silences provider (moves.alone alone) (moves.belongs alone belongs)
    installed

theorem restoreSession_silences (belongs : before.toSite.Belongs serial connectionId)
    (notHeld : ∀ save, before.own.saves.find? connectionId = some save → save.serial = serial →
      save.stage = .waiting)
    (restored : restoreSession provider connectionId before = .ok done after) :
    after.toSite.Silenced serial := by
  obtain ⟨_, _, connection, _, _, _, _, rfl⟩ := restoreSession_eq_ok restored
  have renumbers : before.toSite.Renumbers { before.toSite with
      own.messenger := before.own.messenger.install connectionId connection } :=
    .of_messenger (Messenger.renumbers_install _ _ _) (fun _ _ => id)
  refine (belongs.renumbers renumbers).silenced (fun live found => ?_) notHeld
  cases (OrderedMap.find?_insert_self _ _ _).symm.trans found
  exact Nat.ne_of_gt belongs.given

theorem closeSession_silences (alone : before.toSite.Alone)
    (belongs : before.toSite.Belongs serial connectionId)
    (closed : closeSession connectionId before = .ok done after) :
    after.toSite.Silenced serial := by
  obtain ⟨live, found, lapses⟩ := closeSession_eq_ok closed
  have closes : Move Provider.transparent before.toSite _ _ := .close found
  have drops : Move Provider.transparent
      (before.toSite.changing (fun messenger => messenger.remove connectionId)) _ _ :=
    .drop connectionId
  have dropped := drops.alone (closes.alone alone)
  refine lapses.silenced dropped (((belongs.renumbers (closes.renumbers alone)).renumbers
    (drops.renumbers alone)).silenced (fun live isLive => ?_) (fun save isSave => ?_))
  · cases (OrderedMap.find?_erase_self _ _).symm.trans isLive
  · cases (OrderedMap.find?_erase_self _ _).symm.trans isSave

end Node

namespace Command

variable {command : Command σ} {before after : Node σ} {answer : Answer}

/-- A command that replaces or closes a connection silences it. A restoration does so if no save of
the connection has exported it before and is still to try the record again. -/
theorem silences (alone : before.toSite.Alone)
    (belongs : before.toSite.Belongs serial connectionId)
    (replaces : command.replaces? = some connectionId)
    (notHeld : command = .restore connectionId → ∀ save,
      before.own.saves.find? connectionId = some save → save.serial = serial →
        save.stage = .waiting)
    (succeeds : command.result provider before = .ok answer after) :
    after.toSite.Silenced serial := by
  let ready : Node σ := { before with gaveWay := false }
  have readyAlone : ready.toSite.Alone := alone
  have readyBelongs : ready.toSite.Belongs serial connectionId := belongs
  cases command with
  | initiate otherId bundle signal =>
    cases replaces
    obtain ⟨_, _, performed, returned⟩ := Crypto.bind_eq_ok.1 succeeds
    obtain ⟨_, rfl⟩ := Crypto.pure_eq_ok.1 returned
    exact Node.initiateSession_silences readyAlone readyBelongs performed
  | accept otherId hello signal =>
    cases replaces
    obtain ⟨_, _, performed, returned⟩ := Crypto.bind_eq_ok.1 succeeds
    obtain ⟨_, rfl⟩ := Crypto.pure_eq_ok.1 returned
    exact Node.acceptSession_silences readyAlone readyBelongs performed
  | restore otherId =>
    cases replaces
    obtain ⟨_, _, performed, returned⟩ := Crypto.bind_eq_ok.1 succeeds
    obtain ⟨_, rfl⟩ := Crypto.pure_eq_ok.1 returned
    exact Node.restoreSession_silences readyBelongs (notHeld rfl) performed
  | close otherId =>
    cases replaces
    obtain ⟨_, _, performed, returned⟩ := Crypto.bind_eq_ok.1 succeeds
    obtain ⟨_, rfl⟩ := Crypto.pure_eq_ok.1 returned
    exact Node.closeSession_silences readyAlone readyBelongs performed
  | _ => cases replaces

end Command

/-! ### Runs -/

theorem Site.numbered_of_empty {site : Site}
    (noConnections : site.own.messenger.connections = .empty) (noSaves : site.own.saves = .empty) :
    site.Numbered where
  live connectionId live found := by
    rw [noConnections] at found
    cases found
  save connectionId save found := by
    rw [noSaves] at found
    cases found

/-- **A connection that was replaced or closed stores nothing from then on.** In every run of a
process, whichever writes fail: after a session was established or restored under the number of a
live connection, or that connection was closed, whatever is asked next and however much time passes
comes to a history in which no record of that connection is stored, if it was not a restoration
while a save of the connection was between two attempts to write. -/
theorem replaced_connection_is_silent (provider : Provider σ) {start : Node σ}
    (alone : start.toSite.Alone) (noConnections : start.own.messenger.connections = .empty)
    (noSaves : start.own.saves = .empty) (commands : List (Command σ)) {live : LiveConnection}
    (found : (run provider commands start).own.messenger.connections.find? connectionId =
      some live)
    {command : Command σ} (replaces : command.replaces? = some connectionId)
    (notHeld : command = .restore connectionId → ∀ save,
      (run provider commands start).own.saves.find? connectionId = some save →
        save.serial = live.serial → save.stage = .waiting)
    {answer : Answer} {after : Node σ}
    (succeeds : command.result provider (run provider commands start) = .ok answer after) :
    (∀ rest site, (run provider rest after).toSite.Lapses site →
      ∃ deposits, History provider after.toSite deposits site) ∧
    ∀ deposits later, History provider after.toSite deposits later →
      ∀ deposit ∈ deposits, deposit.serial ≠ live.serial := by
  have moves := run_moves provider commands start
  have aloneThere := moves.alone alone
  have numbered := moves.numbered alone (Site.numbered_of_empty noConnections noSaves)
  have belongs := numbered.live connectionId live found
  have silenced := command.silences aloneThere belongs replaces notHeld succeeds
  have stillAlone : after.toSite.Alone := by
    have ends := (command.moves provider (run provider commands start)).alone aloneThere
    rwa [Command.aftermath, succeeds] at ends
  constructor
  · intro rest site lapses
    exact ((run_moves provider rest after).andThen (.of_lapses lapses)).history stillAlone
  · intro deposits later history
    exact history.of_silenced stillAlone silenced

theorem Command.result_of_success {command : Command σ} {node : Node σ}
    (succeeds : command.failure? provider node = none) :
    ∃ answer, command.result provider node = .ok answer (command.aftermath provider node) := by
  unfold failure? at succeeds
  unfold aftermath
  cases outcome : command.result provider node with
  | ok answer after => exact ⟨answer, rfl⟩
  | error failure after =>
    rw [outcome] at succeeds
    cases succeeds

/-- A session is restored while its first message is still to be saved. The save finds its
connection gone, and the restored record stays. -/
theorem replaced_connection_is_silent_sample :
    ∃ before live after answer deposits,
      before = run .transparent [.initiate 1 .sample .never, .encrypt 1 [5] [] .never]
        (.sampleStart {}) ∧
      before.own.messenger.connections.find? 1 = some live ∧
      before.own.saves.contains 1 = true ∧
      (Command.restore 1).result .transparent before = .ok answer after ∧
      History .transparent after.toSite deposits (run .transparent [.wait 1000] after).toSite ∧
      ∀ deposit ∈ deposits, deposit.serial ≠ live.serial := by
  have isLive : ((run .transparent [.initiate 1 .sample .never, .encrypt 1 [5] [] .never]
      (.sampleStart {})).own.messenger.connections.find? 1).isSome = true := by
    decide +kernel
  have waits : ((run .transparent [.initiate 1 .sample .never, .encrypt 1 [5] [] .never]
      (.sampleStart {})).own.saves.find? 1).map BackgroundSave.stage = some .waiting := by
    decide +kernel
  obtain ⟨live, found⟩ := Option.isSome_iff_exists.1 isLive
  obtain ⟨save, isSave, stage⟩ := Option.map_eq_some_iff.1 waits
  have notHeld : ∀ other, (run .transparent [.initiate 1 .sample .never, .encrypt 1 [5] [] .never]
      (.sampleStart {})).own.saves.find? 1 = some other → other.serial = live.serial →
        other.stage = .waiting := by
    intro other isOther _
    cases isSave.symm.trans isOther
    exact stage
  obtain ⟨answer, succeeds⟩ := Command.result_of_success (show (Command.restore 1).failure?
    .transparent (run .transparent [.initiate 1 .sample .never, .encrypt 1 [5] [] .never]
      (.sampleStart {})) = none by decide +kernel)
  have alone : (Node.sampleStart {}).toSite.Alone := fun _ member => nomatch member
  obtain ⟨ends, silent⟩ := replaced_connection_is_silent .transparent alone rfl rfl
    [.initiate 1 .sample .never, .encrypt 1 [5] [] .never] found rfl (fun _ => notHeld) succeeds
  obtain ⟨deposits, history⟩ := ends [.wait 1000] _ .refl
  exact ⟨_, live, _, answer, deposits, rfl, found, OrderedMap.contains_iff.2 ⟨save, isSave⟩,
    succeeds, history, silent deposits _ history⟩

/-- A process whose volume has refused to save the first message of a session, and that is to try
again. -/
def Node.sampleRetrying : Node Nat :=
  run .transparent [.initiate 1 .sample .never, .encrypt 1 [5] [] .never, .wait 260]
    { sampleStart {} with
      volume := { writeFault := fun counts _ =>
        if counts.connection = 1 then some (.storage "volume is read-only") else none } }

/-- A session is restored while a save of it is between two attempts. The record of the connection
that was replaced is not the stored one then, and the save stores it afterwards. -/
theorem replaced_connection_is_stored :
    ∃ live record answer after,
      Node.sampleRetrying.own.messenger.connections.find? 1 = some live ∧
      live.connection.exportRecord = .ok record ∧
      (Command.restore 1).result .transparent Node.sampleRetrying = .ok answer after ∧
      (∀ other, after.own.messenger.connections.find? 1 = some other →
        other.serial ≠ live.serial) ∧
      after.volume.find? (.connection 1) ≠ some (.ofConnection record) ∧
      (run .transparent [.wait 100] after).volume.find? (.connection 1) =
        some (.ofConnection record) := by
  have isLive : (Node.sampleRetrying.own.messenger.connections.find? 1).map
      LiveConnection.serial = some 0 := by
    decide +kernel
  have exports : (Node.sampleRetrying.toSite.liveRecord? 1).isSome = true := by decide +kernel
  obtain ⟨live, found, serial⟩ := Option.map_eq_some_iff.1 isLive
  obtain ⟨record, isRecord⟩ := Option.isSome_iff_exists.1 exports
  obtain ⟨answer, succeeds⟩ := Command.result_of_success (show (Command.restore 1).failure?
    .transparent Node.sampleRetrying = none by decide +kernel)
  have exported : live.connection.exportRecord = .ok record := by
    rw [Site.liveRecord?, found, Option.bind_some] at isRecord
    cases result : live.connection.exportRecord with
    | ok value =>
      rw [result] at isRecord
      cases isRecord
      rfl
    | error failure =>
      rw [result] at isRecord
      cases isRecord
  have replaced : (((Command.restore 1).aftermath .transparent
      Node.sampleRetrying).own.messenger.connections.find? 1).map LiveConnection.serial =
        some 1 := by
    decide +kernel
  have notYet : ((Command.restore 1).aftermath .transparent
      Node.sampleRetrying).volume.find? (.connection 1) ≠
        (Node.sampleRetrying.toSite.liveRecord? 1).map .ofConnection := by
    decide +kernel
  have afterwards : (run .transparent [.wait 100] ((Command.restore 1).aftermath .transparent
      Node.sampleRetrying)).volume.find? (.connection 1) =
        (Node.sampleRetrying.toSite.liveRecord? 1).map .ofConnection := by
    decide +kernel
  rw [isRecord] at notYet afterwards
  refine ⟨live, record, answer, _, found, exported, succeeds, ?_, notYet, afterwards⟩
  intro other isOther
  rw [isOther, Option.map_some, Option.some.injEq] at replaced
  omega

end RatchetMessaging
