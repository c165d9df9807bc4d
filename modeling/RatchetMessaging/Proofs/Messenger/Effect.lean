import RatchetMessaging.Proofs.Connection.Exchange
import RatchetMessaging.Proofs.Messenger.Move

/-!
Contract: the effect of a command as a sequence of moves.

Owns:
- the moves of messages, of sessions that come and go, and of the upkeep of the identity;
- `Command.moves`, for any command, whether it succeeds or fails: its moves show exactly its
  events;
- `run_moves`, the same of a run.

Does not own: what the moves preserve.
-/

namespace RatchetMessaging

variable {σ : Type} {provider : Provider σ} {connectionId : UInt32}

theorem Messenger.session_eq_ok {messenger : Messenger} {live : LiveConnection} :
    messenger.session connectionId = .ok live ↔
      messenger.connections.find? connectionId = some live := by
  unfold session
  split <;> simp_all

theorem Site.liveRecord?_eq {site : Site} {live : LiveConnection} {state : RatchetState}
    (found : site.own.messenger.connections.find? connectionId = some live)
    (established : live.connection.phase = .established state) :
    site.liveRecord? connectionId = some (state.toRecord live.connection.connectionId) := by
  simp only [Site.liveRecord?, found, Option.bind_some, Connection.exportRecord, Connection.state,
    established]
  rfl

namespace Node

variable {α : Type} {before after : Node σ} {signal : CancelSignal σ} {failure : Error}
  {done : PUnit}

/-! ### Messages -/

section Settling

variable {live : LiveConnection} {staged : Staged} {events : List Event}

theorem settle_moves_of_ok
    (settled : settle connectionId live staged signal before = .ok done after)
    (found : before.own.messenger.connections.find? connectionId = some live)
    (exchanges : live.connection.Exchanges provider staged events) :
    Moves provider before.toSite events after.toSite := by
  unfold settle at settled
  cases turned : staged.turnRecord connectionId with
  | none =>
    simp only [turned] at settled
    cases settled
    exact .single (.advance found exchanges turned rfl rfl)
  | some record =>
    simp only [turned, Crypto.bind_eq_ok, commitTo, modifyMessenger_eq_ok] at settled
    obtain ⟨_, _, checked, _, stored, saved, rfl⟩ := settled
    obtain rfl := CancelSignal.check_eq_ok checked
    obtain ⟨ready, moves, sameParty, idle, accepts, written⟩ :=
      saveCritical_moves_of_ok provider saved
    have move := Move.turn (sameParty ▸ found) exchanges turned (idle connectionId rfl) accepts
    rw [← written] at move
    exact moves.before (.single move)

theorem settle_moves_of_error (provider : Provider σ)
    (failed : settle connectionId live staged signal before = .error failure after) :
    Moves provider before.toSite [] after.toSite := by
  unfold settle at failed
  cases turned : staged.turnRecord connectionId with
  | none =>
    simp only [turned] at failed
    cases failed
  | some record =>
    simp only [turned, Crypto.bind_eq_error, commitTo, modifyMessenger_ne_error, and_false,
      exists_false, or_false] at failed
    obtain withdrawn | ⟨_, _, checked, unsaved⟩ := failed
    · obtain rfl := CancelSignal.check_eq_error withdrawn
      exact .refl _
    · obtain rfl := CancelSignal.check_eq_ok checked
      exact saveCritical_moves_of_error provider unsaved

end Settling

variable {stage : Connection → Crypto σ (α × Staged)}

theorem exchange_moves_of_error (provider : Provider σ)
    (failed : exchange connectionId stage signal before = .error failure after) :
    Moves provider before.toSite [] after.toSite := by
  rcases exchange_fails failed with same | ⟨_, _, _, unsettled⟩
  · rw [same]
    exact .refl _
  · have moves := settle_moves_of_error provider unsettled
    exact moves

theorem encrypt_moves_of_error {plaintext associatedData : Bytes}
    (failed : encrypt provider connectionId plaintext associatedData signal before =
      .error failure after) :
    Moves provider before.toSite [] after.toSite := by
  rw [encrypt_eq_exchange] at failed
  exact exchange_moves_of_error provider failed

theorem decrypt_moves_of_error {message : RatchetMessage} {associatedData : Bytes}
    (failed : decrypt provider connectionId message associatedData signal before =
      .error failure after) :
    Moves provider before.toSite [] after.toSite := by
  rw [decrypt_eq_exchange] at failed
  exact exchange_moves_of_error provider failed

theorem decrypt_moves_of_ok {message : RatchetMessage} {associatedData plaintext : Bytes}
    (decrypted : decrypt provider connectionId message associatedData signal before =
      .ok plaintext after) :
    Moves provider before.toSite [] after.toSite := by
  rw [decrypt_eq_exchange] at decrypted
  obtain ⟨live, staged, _, found, isStaged, settled⟩ := exchange_settles decrypted
  have moves := settle_moves_of_ok settled (Messenger.session_eq_ok.1 found) (.receives isStaged)
  exact moves

/-! ### Turns -/

/-- A message is sent when the change that it was encrypted with is settled. The turns that the
session has taken before and after are those of the states. -/
theorem encrypt_eq_ok {plaintext associatedData : Bytes} {message : RatchetMessage}
    (encrypted : encrypt provider connectionId plaintext associatedData signal before =
      .ok message after) :
    ∃ live staged crypto state,
      before.own.messenger.connections.find? connectionId = some live ∧
      live.connection.stageEncrypt provider plaintext associatedData before.crypto =
        .ok (message, staged) crypto ∧
      settle connectionId live staged signal { before with crypto := crypto } = .ok () after ∧
      live.connection.phase = .established state ∧
      before.ratchetSteps? connectionId = some state.ratchetSteps ∧
      after.ratchetSteps? connectionId = some (staged.resulting state).ratchetSteps := by
  rw [encrypt_eq_exchange] at encrypted
  obtain ⟨live, staged, crypto, found, isStaged, settled⟩ := exchange_settles encrypted
  have isLive := Messenger.session_eq_ok.1 found
  obtain ⟨state, _, _, _, _, _, _, established, _⟩ := Connection.stageEncrypt_eq_ok isStaged
  have isCommitted : after.own.messenger.connections.find? connectionId =
      some { live with connection := live.connection.commit staged } := by
    rw [settle_eq_ok settled]
    exact OrderedMap.find?_insert_self _ _ _
  refine ⟨live, staged, crypto, state, isLive, isStaged, settled, established, ?_, ?_⟩
  · rw [ratchetSteps?, Site.liveRecord?_eq isLive established]
    rfl
  · rw [ratchetSteps?, Site.liveRecord?_eq isCommitted
      (congrArg Connection.phase (Connection.commit_of_established established staged))]
    rfl

theorem encrypt_moves_of_ok {plaintext associatedData : Bytes} {message : RatchetMessage}
    (encrypted : encrypt provider connectionId plaintext associatedData signal before =
      .ok message after) :
    Moves provider before.toSite
      ((if after.ratchetSteps? connectionId = before.ratchetSteps? connectionId then []
        else [.generated message.header.ratchetKey]) ++
        [.sent message.header.ratchetKey message.header.chainIndex]) after.toSite := by
  obtain ⟨live, staged, _, state, isLive, isStaged, settled, established, stepsBefore,
    stepsAfter⟩ := encrypt_eq_ok encrypted
  have moves := settle_moves_of_ok settled isLive (.sends isStaged)
  -- The answer shows a turn by the count of turns, and the move by the mark of the change.
  simp only [stepsBefore, stepsAfter, Option.some.injEq,
    Connection.ratchetSteps_of_stageEncrypt established isStaged]
  cases ratcheted : staged.ratcheted with
  | true => simpa [ratcheted] using moves
  | false => simpa [ratcheted] using moves

/-! ### Upkeep -/

theorem saveIdentity_moves_of_ok (provider : Provider σ)
    (saved : saveIdentity signal before = .ok done after) :
    Moves provider before.toSite [.identityStored none []] after.toSite := by
  simp only [saveIdentity, Crypto.bind_eq_ok, messenger_eq_ok, checking_eq_ok,
    Identity.exportRecord_eq_ok] at saved
  obtain ⟨_, _, ⟨rfl, rfl⟩, _, _, ⟨⟨isLive, rfl⟩, rfl⟩, saved⟩ := saved
  obtain ⟨ready, moves, sameParty, _, accepts, written⟩ := saveCritical_moves_of_ok provider saved
  rw [← sameParty] at accepts written
  have follows : ready.own.messenger.identity.Follows ready.own.messenger.identity none [] :=
    ⟨sameParty ▸ isLive, fun id held => .inl ⟨held, nofun⟩⟩
  have move : Move provider _ _ _ := .identify follows accepts
  rw [← written] at move
  have unchanged : after.toSite.changing (fun messenger =>
      { messenger with identity := ready.own.messenger.identity }) = after.toSite := by
    rw [written]
    rfl
  rw [unchanged] at move
  exact moves.before (.single move)

theorem saveIdentity_moves_of_error (provider : Provider σ)
    (failed : saveIdentity signal before = .error failure after) :
    Moves provider before.toSite [] after.toSite := by
  simp only [saveIdentity, Crypto.bind_eq_error, messenger_eq_ok, messenger_ne_error,
    checking_eq_ok, checking_eq_error, false_or] at failed
  obtain ⟨_, _, ⟨rfl, rfl⟩, ⟨_, rfl⟩ | ⟨_, _, ⟨_, rfl⟩, unsaved⟩⟩ := failed
  · exact .refl _
  · exact saveCritical_moves_of_error provider unsaved

theorem rotateSignedPreKey_moves_of_ok {patience : Nat} {rotated : Option UInt32}
    (succeeded : rotateSignedPreKey provider patience signal before = .ok rotated after) :
    Moves provider before.toSite (rotated.toList.map (fun _ => .identityStored none []))
      after.toSite := by
  simp only [rotateSignedPreKey, Crypto.bind_eq_ok, messenger_eq_ok, calling_eq_ok] at succeeded
  obtain ⟨_, _, ⟨rfl, rfl⟩, copy, _, ⟨_, cloned, rfl⟩, _, _, ⟨_, rotates, rfl⟩, succeeded⟩ :=
    succeeded
  obtain ⟨_, rfl⟩ := Identity.clone_eq_ok cloned
  split at succeeded
  · obtain ⟨rfl, rfl⟩ := Crypto.pure_eq_ok.1 succeeded
    exact .refl _
  · obtain ⟨_, _, replaced, returned⟩ := Crypto.bind_eq_ok.1 succeeded
    obtain ⟨rfl, rfl⟩ := Crypto.pure_eq_ok.1 returned
    obtain ⟨_, signedPreKey, _, _, rfl⟩ := Identity.rotate_eq_ok rotates
    have moves := replaceIdentity_moves_of_ok none [] provider replaced
      (fun id held => .inl ⟨held, nofun⟩)
    exact moves

theorem rotateSignedPreKey_moves_of_error {patience : Nat}
    (failed : rotateSignedPreKey provider patience signal before = .error failure after) :
    Moves provider before.toSite [] after.toSite := by
  simp only [rotateSignedPreKey, Crypto.bind_eq_error, messenger_eq_ok, messenger_ne_error,
    calling_eq_ok, calling_eq_error, false_or] at failed
  obtain ⟨_, _, ⟨rfl, rfl⟩, ⟨_, _, rfl⟩ | ⟨_, _, ⟨_, _, rfl⟩, failed⟩⟩ := failed
  · exact .refl _
  obtain ⟨_, _, rfl⟩ | ⟨_, _, ⟨_, _, rfl⟩, failed⟩ := failed
  · exact .refl _
  split at failed
  · exact absurd failed Crypto.pure_ne_error
  · obtain unchanged | ⟨_, _, _, returned⟩ := Crypto.bind_eq_error.1 failed
    · have lapses := replaceIdentity_lapses_of_error unchanged
      exact .of_lapses lapses
    · exact absurd returned Crypto.pure_ne_error

/-! ### Live connections -/

theorem forceRatchet_eq_ok
    (forced : forceRatchet connectionId before = .ok done after) :
    ∃ live connection, before.own.messenger.connections.find? connectionId = some live ∧
      live.connection.forceRatchet = .ok connection ∧
      after = { before with
        own.messenger := before.own.messenger.update connectionId
          { live with connection := connection } } := by
  simp only [forceRatchet, Crypto.bind_eq_ok, messenger_eq_ok, checking_eq_ok,
    Messenger.session_eq_ok, modifyMessenger_eq_ok] at forced
  obtain ⟨_, _, ⟨rfl, rfl⟩, live, _, ⟨found, rfl⟩, connection, _, ⟨forces, rfl⟩, rfl⟩ := forced
  exact ⟨live, connection, found, forces, rfl⟩

theorem forceRatchet_moves_of_ok (provider : Provider σ)
    (forced : forceRatchet connectionId before = .ok done after) :
    Moves provider before.toSite [] after.toSite := by
  obtain ⟨live, connection, found, forces, rfl⟩ := forceRatchet_eq_ok forced
  exact .single (.force found forces)

theorem forceRatchet_eq_error
    (failed : forceRatchet connectionId before = .error failure after) : after = before := by
  simp only [forceRatchet, Crypto.bind_eq_error, messenger_eq_ok, messenger_ne_error,
    checking_eq_ok, checking_eq_error, modifyMessenger_ne_error, and_false, exists_false, or_false,
    false_or] at failed
  obtain ⟨_, _, ⟨rfl, rfl⟩, ⟨_, rfl⟩ | ⟨_, _, ⟨_, rfl⟩, _, rfl⟩⟩ := failed <;> rfl

theorem connectionIn_eq_ok {record : Record.SessionRecord} {state : Record.ConnectionRecord}
    (holds : connectionIn record connectionId = .ok state) :
    record.ratchetState = some state ∧ state.connectionId = connectionId := by
  unfold connectionIn at holds
  split at holds
  · cases holds
  · rename_i stored isState
    by_cases isOwn : stored.connectionId = connectionId
    · simp only [isOwn, ne_eq, not_true_eq_false, if_false] at holds
      cases holds
      exact ⟨isState, isOwn⟩
    · simp only [isOwn, ne_eq, not_false_eq_true, if_true] at holds
      cases holds

/-- A session that is restored has become the connection that was read from its record. -/
theorem restoreSession_eq_ok
    (restored : restoreSession provider connectionId before = .ok done after) :
    ∃ stored record connection crypto,
      before.volume.load (.connection connectionId) = .ok stored ∧
      connectionIn stored connectionId = .ok record ∧
      Connection.ofRecord provider before.own.messenger.config.ratchetLimits record before.crypto =
        .ok connection crypto ∧
      after = { before with
        own.messenger := before.own.messenger.install connectionId connection
        crypto := crypto } := by
  simp only [restoreSession, Crypto.bind_eq_ok, get_eq_ok, messenger_eq_ok, checking_eq_ok,
    calling_eq_ok, modifyMessenger_eq_ok] at restored
  obtain ⟨_, _, ⟨rfl, rfl⟩, stored, _, ⟨loaded, rfl⟩, record, _, ⟨isRecord, rfl⟩, _, _, ⟨rfl, rfl⟩,
    connection, _, ⟨crypto, reads, rfl⟩, rfl⟩ := restored
  exact ⟨stored, record, connection, crypto, loaded, isRecord, reads, rfl⟩

theorem restoreSession_moves_of_ok
    (restored : restoreSession provider connectionId before = .ok done after) :
    Moves provider before.toSite (before.toSite.abandoning connectionId) after.toSite := by
  obtain ⟨record, state, connection, _, loaded, holds, reads, rfl⟩ := restoreSession_eq_ok restored
  obtain ⟨isState, isOwn⟩ := connectionIn_eq_ok holds
  have stored : before.volume.connectionRecord? connectionId = some state := by
    rw [Volume.connectionRecord?, Volume.load_eq_ok loaded, Option.bind_some, isState]
  have moves := Moves.single (Move.restore stored isOwn reads)
  exact moves

theorem restoreSession_eq_error
    (failed : restoreSession provider connectionId before = .error failure after) :
    after.toSite = before.toSite := by
  simp only [restoreSession, Crypto.bind_eq_error, get_eq_ok, get_ne_error, messenger_eq_ok,
    messenger_ne_error, checking_eq_ok, checking_eq_error, calling_eq_ok, calling_eq_error,
    modifyMessenger_ne_error, and_false, exists_false, or_false, false_or] at failed
  obtain ⟨_, _, ⟨rfl, rfl⟩, ⟨_, rfl⟩ | ⟨_, _, ⟨_, rfl⟩, failed⟩⟩ := failed
  · rfl
  obtain ⟨_, rfl⟩ | ⟨_, _, ⟨_, rfl⟩, _, _, ⟨rfl, rfl⟩, _, _, rfl⟩ := failed <;> rfl

/-- A session that is closed was live. It is removed, its background save is dropped, and then time
passes. -/
theorem closeSession_eq_ok (closed : closeSession connectionId before = .ok done after) :
    ∃ live, before.own.messenger.connections.find? connectionId = some live ∧
      Site.Lapses { before.toSite with
        own := { before.own with
          messenger := before.own.messenger.remove connectionId }.dropping
            (.connection connectionId) } after.toSite := by
  simp only [closeSession, Crypto.bind_eq_ok, messenger_eq_ok, checking_eq_ok,
    Messenger.session_eq_ok, modifyMessenger_eq_ok] at closed
  obtain ⟨_, _, ⟨rfl, rfl⟩, live, _, ⟨found, rfl⟩, _, _, rfl, discarded⟩ := closed
  obtain ⟨last, ended, lapses⟩ := discardFor_eq (.connection connectionId)
    { before with own.messenger := before.own.messenger.remove connectionId }
  cases ended.symm.trans discarded
  exact ⟨live, found, lapses⟩

theorem closeSession_moves_of_ok (provider : Provider σ)
    (closed : closeSession connectionId before = .ok done after) :
    Moves provider before.toSite (before.toSite.abandoning connectionId) after.toSite := by
  obtain ⟨live, found, lapses⟩ := closeSession_eq_ok closed
  have closes : Move provider before.toSite _ _ := .close found
  exact (Moves.single closes).andThen (.of_dropping (.connection connectionId) lapses)

theorem closeSession_eq_error
    (failed : closeSession connectionId before = .error failure after) : after = before := by
  simp only [closeSession, Crypto.bind_eq_error, messenger_eq_ok, messenger_ne_error,
    checking_eq_ok, checking_eq_error, modifyMessenger_eq_ok, modifyMessenger_ne_error,
    false_or] at failed
  obtain ⟨_, _, ⟨rfl, rfl⟩, ⟨_, rfl⟩ | ⟨_, _, ⟨_, rfl⟩, _, _, rfl, discarded⟩⟩ := failed
  · rfl
  · cases discarded

theorem flush_moves (provider : Provider σ) (node : Node σ) :
    ∃ after, flush node = .ok () after ∧ Moves provider node.toSite [] after.toSite := by
  by_cases idle : node.own.saves.entries.isEmpty = true
  · exact ⟨node, congrArg (EStateM.Result.ok ()) (if_pos idle), .refl _⟩
  · exact ⟨_, congrArg (EStateM.Result.ok ()) (if_neg idle),
      .of_lapses (node.toSite.drain_lapses _)⟩

end Node

/-! ### Commands -/

namespace Command

variable {α : Type} {command : Command σ} {node : Node σ}

/-- What a command shows is in its answer, except for an acceptance. -/
theorem moves_of_operation {operation : Operation σ α} {answer : α → Answer}
    (performs : command.perform provider = do return answer (← operation))
    (shown : command.events provider node = match command.result provider node with
      | .ok answer after => command.eventsOf node after answer
      | .error _ _ => [])
    (ofOk : ∀ value after, operation { node with gaveWay := false } = .ok value after →
      Moves provider { node with gaveWay := false }.toSite
        (command.eventsOf node after (answer value)) after.toSite)
    (ofError : ∀ failure after, operation { node with gaveWay := false } = .error failure after →
      Moves provider { node with gaveWay := false }.toSite [] after.toSite) :
    Moves provider node.toSite (command.events provider node)
      (command.aftermath provider node).toSite := by
  rw [shown, aftermath, result, performs]
  cases performed : operation { node with gaveWay := false } with
  | ok value after =>
    rw [Crypto.bind_of_ok performed]
    exact ofOk value after performed
  | error failure after =>
    rw [Crypto.bind_of_error performed]
    exact ofError failure after performed

/-- An acceptance shows the identity that it stores, and its first half ends with that. -/
theorem accept_moves (provider : Provider σ) (connectionId : UInt32) (hello : Hello)
    (signal : CancelSignal σ) (node : Node σ) :
    Moves provider node.toSite ((accept connectionId hello signal).events provider node)
      ((accept connectionId hello signal).aftermath provider node).toSite := by
  simp only [events, aftermath, result, perform, Node.acceptSession_eq]
  cases takenOver : Node.takeOver provider connectionId hello signal
      { node with gaveWay := false } with
  | error failure after =>
    rw [Crypto.bind_of_error (Crypto.bind_of_error takenOver _)]
    have lapses := Node.takeOver_lapses_of_error takenOver
    exact .of_lapses lapses
  | ok value middle =>
    obtain ⟨connection, drawn⟩ := value
    obtain ⟨moves, state, opens, announced⟩ := Node.takeOver_moves_of_ok takenOver
    cases installed : Node.storeAndInstall connectionId connection signal middle with
    | error failure after =>
      rw [Crypto.bind_of_error ((Crypto.bind_of_ok takenOver _).trans installed)]
      exact moves.andThen (Node.storeAndInstall_moves_of_error provider installed)
    | ok done after =>
      rw [Crypto.bind_of_ok ((Crypto.bind_of_ok takenOver _).trans installed)]
      have installs := Node.storeAndInstall_moves_of_ok provider opens installed
      rw [announced] at installs
      exact moves.andThen installs

/-- Whether a command succeeds or fails, it comes to moves that show its events. -/
theorem moves (provider : Provider σ) (command : Command σ) (node : Node σ) :
    Moves provider node.toSite (command.events provider node)
      (command.aftermath provider node).toSite := by
  cases command with
  | saveIdentity signal =>
    exact moves_of_operation rfl rfl (fun _ _ => Node.saveIdentity_moves_of_ok provider)
      (fun _ _ => Node.saveIdentity_moves_of_error provider)
  | initiate connectionId bundle signal =>
    exact moves_of_operation rfl rfl (fun _ _ => Node.initiateSession_moves_of_ok)
      (fun _ _ => Node.initiateSession_moves_of_error)
  | accept connectionId hello signal => exact accept_moves provider connectionId hello signal node
  | encrypt connectionId plaintext associatedData signal =>
    exact moves_of_operation rfl rfl (fun _ _ => Node.encrypt_moves_of_ok)
      (fun _ _ => Node.encrypt_moves_of_error)
  | decrypt connectionId message associatedData signal =>
    exact moves_of_operation rfl rfl (fun _ _ => Node.decrypt_moves_of_ok)
      (fun _ _ => Node.decrypt_moves_of_error)
  | forceRatchet connectionId =>
    exact moves_of_operation rfl rfl (fun _ _ => Node.forceRatchet_moves_of_ok provider)
      (fun _ _ failed => Node.forceRatchet_eq_error failed ▸ .refl _)
  | restore connectionId =>
    exact moves_of_operation rfl rfl (fun _ _ => Node.restoreSession_moves_of_ok)
      (fun _ _ failed => Node.restoreSession_eq_error failed ▸ .refl _)
  | close connectionId =>
    exact moves_of_operation rfl rfl (fun _ _ => Node.closeSession_moves_of_ok provider)
      (fun _ _ failed => Node.closeSession_eq_error failed ▸ .refl _)
  | rotate patience signal =>
    refine moves_of_operation rfl rfl (fun rotated _ succeeded => ?_)
      (fun _ _ => Node.rotateSignedPreKey_moves_of_error)
    have moves := Node.rotateSignedPreKey_moves_of_ok succeeded
    cases rotated with
    | none => exact moves
    | some id => exact moves
  | flush =>
    refine moves_of_operation rfl rfl (fun _ _ succeeded => ?_) (fun _ _ failed => ?_)
    · obtain ⟨_, flushed, moves⟩ := Node.flush_moves provider { node with gaveWay := false }
      cases flushed.symm.trans succeeded
      exact moves
    · obtain ⟨_, flushed, _⟩ := Node.flush_moves provider { node with gaveWay := false }
      cases flushed.symm.trans failed
  | wait duration =>
    obtain ⟨_, lapses, waited | waited⟩ :=
      Node.wait_cases .never duration { node with gaveWay := false }
    · refine moves_of_operation rfl rfl (fun _ _ succeeded => ?_) (fun _ _ failed => ?_)
      · cases waited.symm.trans succeeded
        exact .of_lapses lapses
      · cases waited.symm.trans failed
    · refine moves_of_operation rfl rfl (fun _ _ succeeded => ?_) (fun _ _ failed => ?_)
      · cases waited.symm.trans succeeded
      · cases waited.symm.trans failed
        exact .of_lapses lapses

end Command

/-- The moves of a run show its trace. -/
theorem run_moves (provider : Provider σ) (commands : List (Command σ)) (node : Node σ) :
    Moves provider node.toSite (trace provider commands node)
      (run provider commands node).toSite := by
  induction commands generalizing node with
  | nil => exact .refl _
  | cons command rest inductionHypothesis =>
    exact (command.moves provider node).trans (inductionHypothesis _)

end RatchetMessaging
