import RatchetMessaging.Proofs.Identity.Snapshot
import RatchetMessaging.Proofs.Messenger.Exchange
import RatchetMessaging.Proofs.Messenger.Opening

/-!
Contract: what a command does to a process and its volume, one step at a time.

Owns:
- `Move`, everything that a process does to its site, the passage of time included, together with
  the events that show it; a change and the write that it waits for are one step, because nothing
  happens between them;
- `Moves`, the steps one after another, with all that they show; none of them repairs the volume or
  breaks it;
- the moves of a save and of a handshake, with success or with a failure.

Does not own: the moves of messages and of the upkeep, and what the moves preserve.
-/

namespace RatchetMessaging

variable {σ : Type} {provider : Provider σ} {connectionId : UInt32}

/-! ### Moves -/

/-- An identity in effect, whose one-time pre-keys are those of the previous one without the
consumed one, and new ones under the numbers drawn. -/
structure Identity.Follows (identity previous : Identity) (consumed : Option UInt32)
    (drawn : List UInt32) : Prop where
  live : identity.disposed = false
  preKeys : ∀ id, identity.hasOneTimePreKey id = true →
    (previous.hasOneTimePreKey id = true ∧ consumed ≠ some id) ∨ id ∈ drawn

/-- A change is staged for a message that is sent or received. -/
inductive Connection.Exchanges (provider : Provider σ) (connection : Connection)
    (staged : Staged) : List Event → Prop
  | sends {plaintext associatedData : Bytes} {message : RatchetMessage} {before after : σ}
      (encrypts : connection.stageEncrypt provider plaintext associatedData before =
        .ok (message, staged) after) :
      Exchanges provider connection staged
        ((if staged.ratcheted then [.generated message.header.ratchetKey] else []) ++
          [.sent message.header.ratchetKey message.header.chainIndex])
  | receives {message : RatchetMessage} {associatedData plaintext : Bytes} {before after : σ}
      (decrypts : connection.stageDecrypt provider message associatedData before =
        .ok (plaintext, staged) after) :
      Exchanges provider connection staged []

namespace Site

/-- A write to a slot succeeds. -/
def Accepts (site : Site) (slot : StoreSlot) (record : Record.SessionRecord) : Prop :=
  (site.volume.write slot record).1 = none

/-- The site after a write. -/
def writing (site : Site) (slot : StoreSlot) (record : Record.SessionRecord) : Site :=
  { site with volume := (site.volume.write slot record).2 }

/-- The site after a change to the party at work. -/
def changing (site : Site) (change : Messenger → Messenger) : Site :=
  { site with own.messenger := change site.own.messenger }

end Site

/-- A step of a process, and what it shows. -/
inductive Move (provider : Provider σ) (site : Site) : List Event → Site → Prop
  /-- Time passes. -/
  | time {later : Site} (beat : site.Beat later) : Move provider site [] later
  /-- The background save of a connection is dropped. -/
  | drop (connectionId : UInt32) :
      Move provider site [] { site with own := site.own.dropping (.connection connectionId) }
  /-- The pending ephemeral key changes. -/
  | prepare (ephemeral : Option X25519KeyPair) : Move provider site [] (site.preparing ephemeral)
  /-- An identity is stored and takes effect. -/
  | identify {identity : Identity} {consumed : Option UInt32} {drawn : List UInt32}
      (follows : identity.Follows site.own.messenger.identity consumed drawn)
      (accepts : site.Accepts .identity (.ofIdentity identity.toRecord)) :
      Move provider site [.identityStored consumed drawn]
        ((site.writing .identity (.ofIdentity identity.toRecord)).changing
          (fun messenger => { messenger with identity := identity }))
  /-- A new connection is stored and becomes live. -/
  | establish {connectionId : UInt32} {connection : Connection} {state : RatchetState}
      (opens : connection.Opens connectionId state)
      (idle : site.own.saves.find? connectionId = none)
      (accepts : site.Accepts (.connection connectionId)
        (.ofConnection (state.toRecord connectionId))) :
      Move provider site state.announced
        ((site.writing (.connection connectionId)
          (.ofConnection (state.toRecord connectionId))).changing
            (fun messenger => messenger.install connectionId connection))
  /-- A turn of the ratchet is stored and committed. -/
  | turn {connectionId : UInt32} {live : LiveConnection} {staged : Staged} {events : List Event}
      {record : Record.ConnectionRecord}
      (found : site.own.messenger.connections.find? connectionId = some live)
      (exchanges : live.connection.Exchanges provider staged events)
      (turned : staged.turnRecord connectionId = some record)
      (idle : site.own.saves.find? connectionId = none)
      (accepts : site.Accepts (.connection connectionId) (.ofConnection record)) :
      Move provider site events
        ((site.writing (.connection connectionId) (.ofConnection record)).changing
          (fun messenger => messenger.update connectionId
            { live with connection := live.connection.commit staged }))
  /-- Another change is committed, and a background save is scheduled. -/
  | advance {connectionId : UInt32} {live : LiveConnection} {staged : Staged}
      {events : List Event} {save : BackgroundSave}
      (found : site.own.messenger.connections.find? connectionId = some live)
      (exchanges : live.connection.Exchanges provider staged events)
      (unturned : staged.turnRecord connectionId = none)
      (ofLive : save.serial = live.serial) (waits : save.stage = .waiting) :
      Move provider site events
        { site with
          own := { site.own with
            messenger := site.own.messenger.update connectionId
              { live with connection := live.connection.commit staged }
            saves := site.own.saves.insert connectionId save } }
  /-- The next outgoing message is to start a new chain. -/
  | force {connectionId : UInt32} {live : LiveConnection} {connection : Connection}
      (found : site.own.messenger.connections.find? connectionId = some live)
      (forced : live.connection.forceRatchet = .ok connection) :
      Move provider site []
        (site.changing (fun messenger =>
          messenger.update connectionId { live with connection := connection }))
  /-- The stored connection becomes live. -/
  | restore {connectionId : UInt32} {record : Record.ConnectionRecord} {limits : RatchetLimits}
      {connection : Connection} {before after : σ}
      (stored : site.volume.connectionRecord? connectionId = some record)
      (isOwn : record.connectionId = connectionId)
      (reads : Connection.ofRecord provider limits record before = .ok connection after) :
      Move provider site (site.abandoning connectionId)
        (site.changing (fun messenger => messenger.install connectionId connection))
  /-- A live connection is closed. -/
  | close {connectionId : UInt32} {live : LiveConnection}
      (found : site.own.messenger.connections.find? connectionId = some live) :
      Move provider site (site.abandoning connectionId)
        (site.changing (fun messenger => messenger.remove connectionId))

/-- Moves one after the other, and all that they show. -/
inductive Moves (provider : Provider σ) : Site → List Event → Site → Prop
  | refl (site : Site) : Moves provider site [] site
  | head {site middle after : Site} {events rest : List Event}
      (move : Move provider site events middle) (moves : Moves provider middle rest after) :
      Moves provider site (events ++ rest) after

/-- No move changes which writes fail. -/
theorem Move.writeFault {site later : Site} {events : List Event}
    (move : Move provider site events later) :
    later.volume.writeFault = site.volume.writeFault := by
  cases move with
  | time beat => exact beat.passes.writeFault
  | identify follows accepts => exact Volume.writeFault_write _ _ _
  | establish opens idle accepts => exact Volume.writeFault_write _ _ _
  | turn found exchanges turned idle accepts => exact Volume.writeFault_write _ _ _
  | _ => rfl

namespace Moves

variable {site middle after : Site} {events rest : List Event}

theorem single (move : Move provider site events after) : Moves provider site events after := by
  simpa using Moves.head move (.refl after)

theorem trans (first : Moves provider site events middle)
    (second : Moves provider middle rest after) : Moves provider site (events ++ rest) after := by
  induction first with
  | refl => exact second
  | head move _ inductionHypothesis =>
    rw [List.append_assoc]
    exact .head move (inductionHypothesis second)

/-- Moves that show nothing, and then others. -/
theorem before (first : Moves provider site [] middle) (second : Moves provider middle rest after) :
    Moves provider site rest after :=
  first.trans second

/-- Moves, and then others that show nothing. -/
theorem andThen (first : Moves provider site events middle)
    (second : Moves provider middle [] after) : Moves provider site events after := by
  simpa using first.trans second

theorem of_lapses (lapses : site.Lapses after) : Moves provider site [] after := by
  induction lapses with
  | refl => exact .refl site
  | tail _ beat inductionHypothesis => exact inductionHypothesis.before (.single (.time beat))

theorem of_dropping (slot : StoreSlot)
    (lapses : Site.Lapses { site with own := site.own.dropping slot } after) :
    Moves provider site [] after := by
  cases slot with
  | identity => exact .of_lapses lapses
  | connection connectionId =>
    exact (single (.drop connectionId)).before (.of_lapses lapses)

theorem writeFault (moves : Moves provider site events after) :
    after.volume.writeFault = site.volume.writeFault := by
  induction moves with
  | refl => rfl
  | head move _ inductionHypothesis => exact inductionHypothesis.trans move.writeFault

end Moves

/-! ### Critical saves -/

namespace Node

variable {before after : Node σ} {slot : StoreSlot} {record : Record.SessionRecord}
  {signal : CancelSignal σ} {failure : Error} {done : PUnit}

/-- When a critical save succeeds, its write has just been accepted. -/
theorem saveCritical_moves_of_ok (provider : Provider σ)
    (saved : saveCritical slot record signal before = .ok done after) :
    ∃ ready : Node σ, Moves provider before.toSite [] ready.toSite ∧
      ready.own.messenger = before.own.messenger ∧
      (∀ connectionId, slot = .connection connectionId →
        ready.own.saves.find? connectionId = none) ∧
      ready.toSite.Accepts slot record ∧ after.toSite = ready.toSite.writing slot record := by
  obtain ⟨ready, lapses, accepts, rfl⟩ := saveCritical_eq_ok saved
  refine ⟨ready, .of_dropping slot lapses, ?_, ?_, accepts, rfl⟩
  · exact lapses.messenger.trans (Process.messenger_dropping _ _)
  · rintro connectionId rfl
    exact lapses.find?_saves_eq_none (OrderedMap.find?_erase_self _ _)

theorem saveCritical_moves_of_error (provider : Provider σ)
    (unsaved : saveCritical slot record signal before = .error failure after) :
    Moves provider before.toSite [] after.toSite :=
  .of_dropping slot (saveCritical_eq_error unsaved)

theorem replaceIdentity_moves_of_ok {identity : Identity} (consumed : Option UInt32)
    (drawn : List UInt32) (provider : Provider σ)
    (replaced : replaceIdentity identity signal before = .ok done after)
    (preKeys : ∀ id, identity.hasOneTimePreKey id = true →
      (before.own.messenger.identity.hasOneTimePreKey id = true ∧ consumed ≠ some id) ∨
        id ∈ drawn) :
    Moves provider before.toSite [.identityStored consumed drawn] after.toSite := by
  simp only [replaceIdentity, Crypto.bind_eq_ok, checking_eq_ok, Identity.exportRecord_eq_ok,
    setIdentity_eq_ok] at replaced
  obtain ⟨_, _, ⟨⟨isLive, rfl⟩, rfl⟩, _, stored, saved, rfl⟩ := replaced
  obtain ⟨ready, moves, sameParty, _, accepts, written⟩ := saveCritical_moves_of_ok provider saved
  have follows : identity.Follows ready.own.messenger.identity consumed drawn :=
    ⟨isLive, by rwa [sameParty]⟩
  have move : Move provider _ _ _ := .identify follows accepts
  rw [← written] at move
  exact moves.before (.single move)

theorem replaceIdentity_lapses_of_error {identity : Identity}
    (unchanged : replaceIdentity identity signal before = .error failure after) :
    before.toSite.Lapses after.toSite := by
  simp only [replaceIdentity, Crypto.bind_eq_error, checking_eq_ok, checking_eq_error,
    setIdentity_ne_error, and_false, exists_false, or_false] at unchanged
  obtain ⟨_, rfl⟩ | ⟨_, _, ⟨_, rfl⟩, unsaved⟩ := unchanged
  · exact .refl
  · exact saveCritical_eq_error unsaved

theorem storeAndInstall_moves_of_ok {connection : Connection} {state : RatchetState}
    (provider : Provider σ) (opens : connection.Opens connectionId state)
    (installed : storeAndInstall connectionId connection signal before = .ok done after) :
    Moves provider before.toSite state.announced after.toSite := by
  simp only [storeAndInstall, Crypto.bind_eq_ok, checking_eq_ok, modifyMessenger_eq_ok] at installed
  obtain ⟨record, _, ⟨exported, rfl⟩, _, stored, saved, rfl⟩ := installed
  have isRecord : record = state.toRecord connectionId := by
    simp only [Connection.exportRecord, Connection.state, opens.phase, opens.number] at exported
    cases exported
    rfl
  subst isRecord
  obtain ⟨ready, moves, _, idle, accepts, written⟩ := saveCritical_moves_of_ok provider saved
  have move : Move provider _ _ _ := .establish opens (idle connectionId rfl) accepts
  rw [← written] at move
  exact moves.before (.single move)

theorem storeAndInstall_moves_of_error {connection : Connection} (provider : Provider σ)
    (failed : storeAndInstall connectionId connection signal before = .error failure after) :
    Moves provider before.toSite [] after.toSite := by
  simp only [storeAndInstall, Crypto.bind_eq_error, checking_eq_ok, checking_eq_error,
    modifyMessenger_ne_error, and_false, exists_false, or_false] at failed
  obtain ⟨_, rfl⟩ | ⟨_, _, ⟨_, rfl⟩, unsaved⟩ := failed
  · exact .refl _
  · exact saveCritical_moves_of_error provider unsaved

/-! ### Sessions come and go -/

theorem initiateSession_eq_ok {bundle : Bundle} {hello : Hello}
    (initiated : initiateSession provider connectionId bundle signal before = .ok hello after) :
    ∃ connection ready,
      openAsInitiator provider connectionId bundle before = .ok (connection, hello) ready ∧
      storeAndInstall connectionId connection signal ready = .ok () after := by
  simp only [initiateSession, Crypto.bind_eq_ok, Crypto.pure_eq_ok, Prod.exists] at initiated
  obtain ⟨_, _, checked, connection, _, ready, opened, _, _, checkedAgain, _, _, installed, rfl,
    rfl⟩ := initiated
  obtain rfl := CancelSignal.check_eq_ok checked
  obtain rfl := CancelSignal.check_eq_ok checkedAgain
  exact ⟨connection, ready, opened, installed⟩

theorem initiateSession_moves_of_ok {bundle : Bundle} {hello : Hello}
    (initiated : initiateSession provider connectionId bundle signal before = .ok hello after) :
    Moves provider before.toSite (hello.ratchetKey.toList.map .generated) after.toSite := by
  obtain ⟨connection, ready, opened, installed⟩ := initiateSession_eq_ok initiated
  obtain ⟨state, prepared, opens, announced⟩ := openAsInitiator_eq_ok opened
  have moves : Moves provider before.toSite [] ready.toSite := by
    rw [prepared]
    exact .single (.prepare _)
  rw [announced]
  exact moves.before (storeAndInstall_moves_of_ok provider opens installed)

theorem initiateSession_moves_of_error {bundle : Bundle}
    (failed : initiateSession provider connectionId bundle signal before = .error failure after) :
    Moves provider before.toSite [] after.toSite := by
  simp only [initiateSession, Crypto.bind_eq_error, Crypto.pure_ne_error, and_false, exists_false,
    or_false, Prod.exists] at failed
  obtain withdrawn | ⟨_, _, checked, failed⟩ := failed
  · obtain rfl := CancelSignal.check_eq_error withdrawn
    exact .refl _
  obtain rfl := CancelSignal.check_eq_ok checked
  obtain unopened | ⟨connection, _, ready, opened, failed⟩ := failed
  · rw [openAsInitiator_eq_error unopened]
    exact .single (.prepare _)
  obtain ⟨_, prepared, _⟩ := openAsInitiator_eq_ok opened
  have moves : Moves provider before.toSite [] ready.toSite := by
    rw [prepared]
    exact .single (.prepare _)
  obtain withdrawn | ⟨_, _, checked, failed⟩ := failed
  · obtain rfl := CancelSignal.check_eq_error withdrawn
    exact moves
  · obtain rfl := CancelSignal.check_eq_ok checked
    exact moves.before (storeAndInstall_moves_of_error provider failed)

/-- The identity after a handshake lacks the named key. The process at work stays as it is. -/
theorem identityAfterDrawing_eq_ok {hello : Hello} {identity : Identity} {drawn : List UInt32}
    (succeeded : identityAfterDrawing provider hello before = .ok (identity, drawn) after) :
    (∃ crypto, after = { before with crypto := crypto }) ∧
      ∀ id, identity.hasOneTimePreKey id = true →
        (before.own.messenger.identity.hasOneTimePreKey id = true ∧
          hello.oneTimePreKeyId ≠ some id) ∨ id ∈ drawn := by
  simp only [identityAfterDrawing, Crypto.bind_eq_ok, messenger_eq_ok, calling_eq_ok] at succeeded
  obtain ⟨_, _, ⟨rfl, rfl⟩, _, _, ⟨rfl, rfl⟩, copy, _, ⟨_, cloned, rfl⟩, succeeded⟩ := succeeded
  obtain ⟨_, rfl⟩ := Identity.clone_eq_ok cloned
  split at succeeded
  · simp only [Crypto.bind_eq_ok, calling_eq_ok, checking_eq_ok, Crypto.pure_eq_ok,
      Prod.mk.injEq] at succeeded
    obtain ⟨replenishment, _, ⟨_, replenished, rfl⟩, _, _, ⟨outcome, rfl⟩, ⟨rfl, rfl⟩, rfl⟩ :=
      succeeded
    refine ⟨⟨_, rfl⟩, fun id held => ?_⟩
    rcases (Identity.replenish_eq_ok replenished outcome).2 id held with earlier | isDrawn
    · have held := Identity.hasOneTimePreKey_consumeNamed earlier
      exact .inl held
    · exact .inr isDrawn
  · simp only [Crypto.pure_eq_ok, Prod.mk.injEq] at succeeded
    obtain ⟨⟨rfl, rfl⟩, rfl⟩ := succeeded
    refine ⟨⟨_, rfl⟩, fun id kept => ?_⟩
    have held := Identity.hasOneTimePreKey_consumeNamed kept
    exact .inl held

theorem identityAfterDrawing_eq_error {hello : Hello}
    (failed : identityAfterDrawing provider hello before = .error failure after) :
    after.toSite = before.toSite := by
  simp only [identityAfterDrawing, Crypto.bind_eq_error, messenger_eq_ok, calling_eq_ok,
    calling_eq_error, messenger_ne_error, false_or] at failed
  obtain ⟨_, _, ⟨rfl, rfl⟩, _, _, ⟨rfl, rfl⟩, ⟨_, _, rfl⟩ | ⟨_, _, ⟨_, _, rfl⟩, failed⟩⟩ := failed
  · rfl
  · split at failed
    · simp only [Crypto.bind_eq_error, calling_eq_ok, calling_eq_error, checking_eq_ok,
        checking_eq_error, Crypto.pure_ne_error, and_false, exists_false, or_false] at failed
      obtain ⟨_, _, rfl⟩ | ⟨_, _, ⟨_, _, rfl⟩, _, rfl⟩ := failed <;> rfl
    · exact absurd failed Crypto.pure_ne_error

theorem takeOver_eq_ok {hello : Hello} {connection : Connection} {drawn : List UInt32}
    (succeeded : takeOver provider connectionId hello signal before =
      .ok (connection, drawn) after) :
    ∃ identity ready prepared,
      openAsResponder provider connectionId hello before = .ok connection ready ∧
      identityAfterDrawing provider hello ready = .ok (identity, drawn) prepared ∧
      replaceIdentity identity signal prepared = .ok () after := by
  simp only [takeOver, Crypto.bind_eq_ok, Crypto.pure_eq_ok, Prod.exists,
    Prod.mk.injEq] at succeeded
  obtain ⟨_, _, checked, _, _, opened, _, _, checkedAgain, identity, _, _, prepares, _, _, replaced,
    ⟨rfl, rfl⟩, rfl⟩ := succeeded
  obtain rfl := CancelSignal.check_eq_ok checked
  obtain rfl := CancelSignal.check_eq_ok checkedAgain
  exact ⟨identity, _, _, opened, prepares, replaced⟩

theorem takeOver_moves_of_ok {hello : Hello} {connection : Connection} {drawn : List UInt32}
    (succeeded : takeOver provider connectionId hello signal before =
      .ok (connection, drawn) after) :
    Moves provider before.toSite [.identityStored hello.oneTimePreKeyId drawn] after.toSite ∧
      ∃ state, connection.Opens connectionId state ∧ state.announced = [] := by
  obtain ⟨_, _, _, opened, prepared, replaced⟩ := takeOver_eq_ok succeeded
  obtain ⟨state, _, rfl, opens, announced⟩ := openAsResponder_eq_ok opened
  obtain ⟨⟨_, rfl⟩, preKeys⟩ := identityAfterDrawing_eq_ok prepared
  have moves := replaceIdentity_moves_of_ok _ _ provider replaced preKeys
  exact ⟨moves, state, opens, announced⟩

/-- Until the identity is stored, an acceptance only lets time pass. -/
theorem takeOver_lapses_of_error {hello : Hello}
    (failed : takeOver provider connectionId hello signal before = .error failure after) :
    before.toSite.Lapses after.toSite := by
  simp only [takeOver, Crypto.bind_eq_error, Crypto.pure_ne_error, and_false, exists_false,
    or_false, Prod.exists] at failed
  obtain withdrawn | ⟨_, _, checked, failed⟩ := failed
  · obtain rfl := CancelSignal.check_eq_error withdrawn
    exact .refl
  obtain rfl := CancelSignal.check_eq_ok checked
  obtain unopened | ⟨_, _, opened, failed⟩ := failed
  · obtain ⟨_, rfl⟩ := openAsResponder_eq_error unopened
    exact .refl
  obtain ⟨_, _, rfl, _⟩ := openAsResponder_eq_ok opened
  obtain withdrawn | ⟨_, _, checked, failed⟩ := failed
  · obtain rfl := CancelSignal.check_eq_error withdrawn
    exact .refl
  obtain rfl := CancelSignal.check_eq_ok checked
  obtain unprepared | ⟨_, _, _, prepared, failed⟩ := failed
  · rw [identityAfterDrawing_eq_error unprepared]
  · obtain ⟨⟨_, rfl⟩, _⟩ := identityAfterDrawing_eq_ok prepared
    have lapses := replaceIdentity_lapses_of_error failed
    exact lapses

end Node

end RatchetMessaging
