import RatchetMessaging.Proofs.Identity.Replenishment
import RatchetMessaging.Proofs.Messenger.AwaitedWrites
import RatchetMessaging.Proofs.Messenger.Move
import RatchetMessaging.Proofs.Messenger.Sample

/-!
Contract: what a handshake that fails leaves behind.

Owns:
- an acceptance that fails leaves everything, or it has stored the identity that has answered the
  hello; it never makes a connection live or stores one;
- an initiation that fails changes nothing but the pending ephemeral key, and what becomes of that.

Does not own: what can be done after the failure.
-/

namespace RatchetMessaging

variable {σ : Type} {provider : Provider σ} {connectionId : UInt32}

namespace CancelSignal

variable {signal : CancelSignal σ} {before after : Node σ} {failure : Error} {done : Unit}

theorem check_eq_ok_iff :
    signal.check before = .ok done after ↔ before = after ∧ ¬ signal.isFired before = true := by
  unfold check
  split <;> simp [*]

theorem check_eq_error_iff :
    signal.check before = .error failure after ↔
      before = after ∧ signal.isFired before = true ∧ failure = .cancelled := by
  unfold check
  split <;> simp [*, eq_comm, and_comm]

end CancelSignal

namespace Node

variable {before after : Node σ} {signal : CancelSignal σ} {hello : Hello} {bundle : Bundle}
  {failure : Error} {connection : Connection} {identity : Identity} {drawn : List UInt32}
  {done : PUnit}

/-! ### Saves -/

/-- An identity that is replaced is stored. Nothing else happens but saves in the background. -/
theorem replaceIdentity_stores
    (replaced : replaceIdentity identity signal before = .ok done after) :
    before.toSite.WritesAwaited after.toSite ∧
      after.own.messenger = { before.own.messenger with identity := identity } ∧
      after.volume.find? .identity = some (.ofIdentity identity.toRecord) := by
  simp only [replaceIdentity, Crypto.bind_eq_ok, checking_eq_ok, Identity.exportRecord_eq_ok,
    setIdentity_eq_ok] at replaced
  obtain ⟨_, _, ⟨⟨_, rfl⟩, rfl⟩, _, _, saved, rfl⟩ := replaced
  obtain ⟨ready, lapses, accepted, rfl⟩ := saveCritical_eq_ok saved
  refine ⟨?_, ?_, Volume.find?_write_self accepted⟩
  · exact lapses.writesAwaited.trans (ready.toSite.writesAwaited_of_identity _ _)
  · have sameParty : ready.own.messenger = before.own.messenger := lapses.messenger
    exact congrArg (fun party => { party with identity := identity }) sameParty

/-- A connection that is not stored does not become live. -/
theorem storeAndInstall_lapses_of_error
    (failed : storeAndInstall connectionId connection signal before = .error failure after) :
    before.toSite.WritesAwaited after.toSite ∧ after.own.messenger = before.own.messenger ∧
      after.volume.find? .identity = before.volume.find? .identity := by
  simp only [storeAndInstall, Crypto.bind_eq_error, checking_eq_ok, checking_eq_error,
    modifyMessenger_ne_error, and_false, exists_false, or_false] at failed
  obtain ⟨_, rfl⟩ | ⟨_, _, ⟨_, rfl⟩, unsaved⟩ := failed
  · exact ⟨.refl _ _, rfl, rfl⟩
  · have lapses := saveCritical_eq_error unsaved
    refine ⟨Site.writesAwaited_of_dropping lapses, lapses.messenger, ?_⟩
    exact lapses.passes.record .identity (fun process _ => process.not_saving_identity)

/-! ### The responder -/

theorem identityAfterDrawing_answers
    (succeeded : identityAfterDrawing provider hello before = .ok (identity, drawn) after) :
    before.own.messenger.identity.HasAnswered provider before.own.messenger.config hello
      identity := by
  simp only [identityAfterDrawing, Crypto.bind_eq_ok, messenger_eq_ok, calling_eq_ok] at succeeded
  obtain ⟨_, _, ⟨rfl, rfl⟩, _, _, ⟨rfl, rfl⟩, copy, _, ⟨_, cloned, rfl⟩, succeeded⟩ := succeeded
  obtain ⟨_, rfl⟩ := Identity.clone_eq_ok cloned
  rw [Identity.consumeNamed_with] at succeeded
  split at succeeded
  · rename_i tooFew
    simp only [Crypto.bind_eq_ok, calling_eq_ok, checking_eq_ok, Crypto.pure_eq_ok,
      Prod.mk.injEq] at succeeded
    obtain ⟨_, _, ⟨_, replenished, rfl⟩, _, _, ⟨outcome, rfl⟩, ⟨rfl, rfl⟩, rfl⟩ := succeeded
    obtain ⟨preKeys, same, gains⟩ := Identity.replenish_gains replenished outcome
    rw [same]
    exact ⟨rfl, .inr ⟨tooFew, gains⟩⟩
  · rename_i enough
    simp only [Crypto.pure_eq_ok, Prod.mk.injEq] at succeeded
    obtain ⟨⟨rfl, rfl⟩, rfl⟩ := succeeded
    exact ⟨rfl, .inl ⟨Nat.not_lt.1 enough, rfl⟩⟩

/-- The first half of an acceptance stores the identity that has answered the hello. -/
theorem takeOver_stores
    (succeeded : takeOver provider connectionId hello signal before =
      .ok (connection, drawn) after) :
    ∃ identity,
      before.own.messenger.identity.HasAnswered provider before.own.messenger.config hello
        identity ∧
      before.toSite.WritesAwaited after.toSite ∧
      after.own.messenger = { before.own.messenger with identity := identity } ∧
      after.volume.find? .identity = some (.ofIdentity identity.toRecord) := by
  obtain ⟨identity, _, _, opened, prepared, replaced⟩ := takeOver_eq_ok succeeded
  obtain ⟨_, _, rfl, _⟩ := openAsResponder_eq_ok opened
  have answers := identityAfterDrawing_answers prepared
  obtain ⟨⟨_, rfl⟩, _⟩ := identityAfterDrawing_eq_ok prepared
  have stores := replaceIdentity_stores replaced
  exact ⟨identity, answers, stores⟩

/-- An acceptance that fails before the identity is stored changes nothing, and one that fails
afterwards leaves the new identity. -/
theorem acceptSession_of_error
    (failed : acceptSession provider connectionId hello signal before = .error failure after) :
    before.toSite.WritesAwaited after.toSite ∧
      ∃ identity, after.own.messenger = { before.own.messenger with identity := identity } ∧
        (identity = before.own.messenger.identity ∧
            after.volume.find? .identity = before.volume.find? .identity ∨
          before.own.messenger.identity.HasAnswered provider before.own.messenger.config hello
              identity ∧
            after.volume.find? .identity = some (.ofIdentity identity.toRecord)) := by
  rw [acceptSession_eq, Crypto.bind_eq_error] at failed
  obtain unstored | ⟨⟨connection, drawn⟩, middle, takenOver, uninstalled⟩ := failed
  · have lapses := takeOver_lapses_of_error unstored
    refine ⟨lapses.writesAwaited, _, lapses.messenger, .inl ⟨rfl, ?_⟩⟩
    exact lapses.passes.record .identity (fun process _ => process.not_saving_identity)
  · obtain ⟨identity, answers, awaited, party, stored⟩ := takeOver_stores takenOver
    obtain ⟨stillAwaited, sameParty, sameRecord⟩ := storeAndInstall_lapses_of_error uninstalled
    exact ⟨awaited.trans stillAwaited, identity, sameParty.trans party,
      .inr ⟨answers, sameRecord.trans stored⟩⟩

/-! ### The initiator -/

/-- The pending ephemeral key after an initiation that fails. -/
def ephemeralAfterFailure (provider : Provider σ) (bundle : Bundle) (signal : CancelSignal σ)
    (node : Node σ) : Option X25519KeyPair :=
  if signal.isFired node then node.own.messenger.identity.ephemeral
  else node.ephemeralAfterAgreement provider bundle

theorem initiateSession_of_error
    (failed : initiateSession provider connectionId bundle signal before = .error failure after) :
    before.toSite.WritesAwaited after.toSite ∧
      after.own.messenger = { before.own.messenger with
        identity.ephemeral := before.ephemeralAfterFailure provider bundle signal } ∧
      after.volume.find? .identity = before.volume.find? .identity := by
  simp only [initiateSession, Crypto.bind_eq_error, Crypto.pure_ne_error, and_false, exists_false,
    or_false, Prod.exists] at failed
  unfold ephemeralAfterFailure
  obtain withdrawn | ⟨_, _, checked, failed⟩ := failed
  · obtain ⟨rfl, fired, _⟩ := CancelSignal.check_eq_error_iff.1 withdrawn
    rw [if_pos fired]
    exact ⟨.refl _ _, rfl, rfl⟩
  obtain ⟨rfl, unfired⟩ := CancelSignal.check_eq_ok_iff.1 checked
  rw [if_neg unfired]
  obtain unopened | ⟨_, _, ready, opened, failed⟩ := failed
  · rw [openAsInitiator_eq_error unopened]
    exact ⟨.of_own _ (fun _ _ writes => writes) (fun _ => .inl rfl), rfl, rfl⟩
  obtain ⟨_, prepared, _⟩ := openAsInitiator_eq_ok opened
  have readied : before.toSite.WritesAwaited ready.toSite := by
    rw [prepared]
    exact .of_own _ (fun _ _ writes => writes) (fun _ => .inl rfl)
  obtain withdrawn | ⟨_, _, checkedAgain, uninstalled⟩ := failed
  · obtain rfl := CancelSignal.check_eq_error withdrawn
    exact ⟨readied, by rw [prepared]; rfl, by rw [prepared]; rfl⟩
  · obtain rfl := CancelSignal.check_eq_ok checkedAgain
    obtain ⟨awaited, sameParty, sameRecord⟩ := storeAndInstall_lapses_of_error uninstalled
    rw [sameParty, sameRecord]
    exact ⟨readied.trans awaited, by rw [prepared]; rfl, by rw [prepared]; rfl⟩

/-- A disposed identity makes no key. -/
theorem ephemeralAfterFailure_of_disposed (bundle : Bundle) (signal : CancelSignal σ)
    (disposed : before.own.messenger.identity.disposed = true) :
    before.ephemeralAfterFailure provider bundle signal =
      before.own.messenger.identity.ephemeral := by
  have unprepared : before.own.messenger.identity.prepareEphemeral provider before.crypto =
      .error (.objectDisposed "IdentityKeys") before.crypto := by
    refine Crypto.bind_of_error ?_ _
    simp only [Identity.ensureLive, disposed, if_true]
    rfl
  simp only [ephemeralAfterFailure, ephemeralAfterAgreement, unprepared, ite_self]

end Node

/-- The bundle of a live identity shows the pending ephemeral key, and nothing else depends on
it. -/
theorem Identity.bundle_with_ephemeral_iff {identity : Identity} (live : identity.disposed = false)
    (ephemeral : Option X25519KeyPair) :
    { identity with ephemeral := ephemeral }.bundle = identity.bundle ↔
      ephemeral.map X25519KeyPair.publicKey =
        identity.ephemeral.map X25519KeyPair.publicKey := by
  have isLive : identity.ensureLive = .ok () := ensureLive_eq_ok.2 live
  have stillLive : { identity with ephemeral := ephemeral }.ensureLive = .ok () := isLive
  constructor
  · intro same
    simp only [Identity.bundle, isLive, stillLive] at same
    exact congrArg Bundle.ephemeralKey (Except.ok.inj same)
  · intro sameKey
    simp only [Identity.bundle, isLive, stillLive, sameKey]

open Node

variable {before after : Node σ} {signal : CancelSignal σ} {hello : Hello} {bundle : Bundle}
  {failure : Error}

/-- **An acceptance that fails falls on one of two sides.** Whatever the provider does, whichever
writes fail and whenever the caller withdraws: no live connection changes, and none appears. The
record of a connection changes only to one that an unfinished background save was to write before.
Either the identity and its record are those from before; or the identity has answered the hello,
and is stored: the named one-time pre-key is removed, fresh ones are added if too few were left, and
the pending ephemeral key, which is not recorded, is gone. -/
theorem failed_acceptance_falls_on_one_side
    (failed : acceptSession provider connectionId hello signal before = .error failure after) :
    (∃ identity, after.own.messenger = { before.own.messenger with identity := identity } ∧
      (identity = before.own.messenger.identity ∧
          after.volume.find? .identity = before.volume.find? .identity ∨
        before.own.messenger.identity.HasAnswered provider before.own.messenger.config hello
            identity ∧
          after.volume.find? .identity = some (.ofIdentity identity.toRecord))) ∧
    ∀ otherId, after.volume.find? (.connection otherId) =
        before.volume.find? (.connection otherId) ∨
      ∃ record, after.volume.find? (.connection otherId) = some record ∧
        before.toSite.Awaits otherId record := by
  obtain ⟨awaited, sides⟩ := acceptSession_of_error failed
  exact ⟨sides, awaited.record⟩

/-- A bundle whose signature is that of no one. -/
def Bundle.sampleForged : Bundle := { Bundle.sample with signature := ⟨.replicate 64 0⟩ }

/-- A process whose volume refuses every connection. An initiation has failed at a forged bundle,
and the ephemeral key is still pending. -/
def Node.samplePending : Node Nat :=
  run .transparent [.saveIdentity .never, .initiate 3 .sampleForged .never]
    { sampleShortStart with volume := Volume.failNext 100 (some .connection) false {} }

theorem Node.samplePending_refuses :
    acceptSession .transparent 2 .sample .never { samplePending with gaveWay := false } =
      .error (gaveUp (.connection 2) 5 "Storage failure: volume is read-only")
        ((Command.accept 2 .sample .never).aftermath .transparent samplePending) := by
  have failed := Command.result_of_failure? (show (Command.accept 2 .sample .never).failure?
    .transparent samplePending =
      some (gaveUp (.connection 2) 5 "Storage failure: volume is read-only") by decide +kernel)
  exact Crypto.error_of_bind_pure failed

/-- The identity is stored, and then the connection is not. The named pre-key was the only one. -/
theorem failed_acceptance_falls_on_one_side_sample :
    ∃ identity after,
      acceptSession .transparent 2 .sample .never { Node.samplePending with gaveWay := false } =
        .error (gaveUp (.connection 2) 5 "Storage failure: volume is read-only") after ∧
      Node.samplePending.own.messenger.identity.HasAnswered .transparent
        Node.samplePending.own.messenger.config .sample identity ∧
      after.own.messenger = { Node.samplePending.own.messenger with identity := identity } ∧
      after.volume.find? .identity = some (.ofIdentity identity.toRecord) := by
  have failed := Node.samplePending_refuses
  obtain ⟨⟨identity, party, ⟨rfl, _⟩ | ⟨answers, stored⟩⟩, _⟩ :=
    failed_acceptance_falls_on_one_side failed
  · have used : ((Command.accept 2 .sample .never).aftermath .transparent
        Node.samplePending).own.messenger.identity.hasOneTimePreKey 7 ≠
          Node.samplePending.own.messenger.identity.hasOneTimePreKey 7 := by
      decide +kernel
    rw [party] at used
    exact absurd rfl used
  · exact ⟨identity, _, failed, answers, party, stored⟩

/-- An acceptance that fails changes more of the identity than its one-time pre-keys: the pending
ephemeral key is gone. -/
theorem failed_acceptance_drops_ephemeral :
    ∃ failure after,
      acceptSession .transparent 2 .sample .never { Node.samplePending with gaveWay := false } =
        .error failure after ∧
      after.own.messenger.identity ≠ Node.samplePending.own.messenger.identity ∧
      ∀ preKeys, after.own.messenger.identity ≠
        { Node.samplePending.own.messenger.identity with oneTimePreKeys := preKeys } := by
  have dropped : ((Command.accept 2 .sample .never).aftermath .transparent
      Node.samplePending).own.messenger.identity.ephemeral ≠
        Node.samplePending.own.messenger.identity.ephemeral := by
    decide +kernel
  refine ⟨_, _, Node.samplePending_refuses, fun same => dropped ?_, fun preKeys same => dropped ?_⟩
  · rw [same]
  · rw [same]

/-- **An initiation that fails changes nothing but the pending ephemeral key.** Whatever the bundle
and the provider do, whichever writes fail and whenever the caller withdraws: no live connection
changes, none appears, and the identity is not stored. The record of a connection changes only to
one that an unfinished background save was to write before. The pending ephemeral key is
the one from before if the caller has withdrawn at once or no key could be made, it is the new one
if the agreement has failed, and afterwards there is none. The exported bundle is the one from
before if that comes to the same public key, and only then. -/
theorem failed_initiation_changes_ephemeral_only
    (failed : initiateSession provider connectionId bundle signal before = .error failure after) :
    after.own.messenger = { before.own.messenger with
      identity.ephemeral := before.ephemeralAfterFailure provider bundle signal } ∧
    (after.own.messenger.identity.bundle = before.own.messenger.identity.bundle ↔
      (before.ephemeralAfterFailure provider bundle signal).map X25519KeyPair.publicKey =
        before.own.messenger.identity.ephemeral.map X25519KeyPair.publicKey) ∧
    after.volume.find? .identity = before.volume.find? .identity ∧
    ∀ otherId, after.volume.find? (.connection otherId) =
        before.volume.find? (.connection otherId) ∨
      ∃ record, after.volume.find? (.connection otherId) = some record ∧
        before.toSite.Awaits otherId record := by
  obtain ⟨awaited, party, sameRecord⟩ := initiateSession_of_error failed
  refine ⟨party, ?_, sameRecord, awaited.record⟩
  rw [party]
  cases live : before.own.messenger.identity.disposed with
  | false => exact Identity.bundle_with_ephemeral_iff live _
  | true => simp only [ephemeralAfterFailure_of_disposed bundle signal live]

/-- A process at its start, with its identity stored. -/
def Node.sampleQuiet : Node Nat := run .transparent [.saveIdentity .never] (.sampleStart {})

/-- A signal that fires when the ephemeral key has been drawn. -/
def CancelSignal.sampleLate : CancelSignal Nat := { trigger := fun drawn _ => decide (1 < drawn) }

/-- A caller that withdraws when the agreement has succeeded leaves no key pending, like before. -/
theorem failed_initiation_changes_ephemeral_only_sample :
    ∃ after,
      initiateSession .transparent 3 .sample .sampleLate
        { Node.sampleQuiet with gaveWay := false } = .error .cancelled after ∧
      after.own.messenger.identity.bundle = Node.sampleQuiet.own.messenger.identity.bundle := by
  have withdrawn := Command.result_of_failure?
    (show (Command.initiate 3 .sample .sampleLate).failure? .transparent .sampleQuiet =
      some .cancelled by decide +kernel)
  have failed := Crypto.error_of_bind_pure withdrawn
  obtain ⟨_, sameBundle, _⟩ := failed_initiation_changes_ephemeral_only failed
  exact ⟨_, failed, sameBundle.2 (by decide +kernel)⟩

/-- An initiation with a forged bundle fails, and the exported bundle has changed: it shows the new
ephemeral key. -/
theorem failed_initiation_leaves_ephemeral :
    ∃ failure after,
      initiateSession .transparent 3 .sampleForged .never
        { Node.sampleQuiet with gaveWay := false } = .error failure after ∧
      after.own.messenger.identity.bundle ≠ Node.sampleQuiet.own.messenger.identity.bundle := by
  have rejected := Command.result_of_failure? (show
    (Command.initiate 3 .sampleForged .never).failure? .transparent .sampleQuiet =
      some (.peerPublicKey "signed pre-key signature does not verify") by decide +kernel)
  exact ⟨_, _, Crypto.error_of_bind_pure rejected, by decide +kernel⟩

end RatchetMessaging
