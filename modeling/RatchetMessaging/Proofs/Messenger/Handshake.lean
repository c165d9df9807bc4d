import RatchetMessaging.Proofs.Handshake.Agreement
import RatchetMessaging.Proofs.Handshake.Encoding
import RatchetMessaging.Proofs.Messenger.IdentitySteps

/-!
Contract: a hello that a party has sent is accepted by the owner of the bundle, and both ends agree.

Owns:
- what an initiator that succeeds has made live, and what its hello says;
- an acceptance succeeds when the named keys are still there, and what it makes live;
- for any two parties, after any commands of either, the agreement of both ends.

Does not own: the messages of the session.
-/

namespace RatchetMessaging

variable {σ : Type} {provider : Provider σ} {primitives : Primitives} {connectionId : UInt32}

/-- A replenishment of an identity draws these numbers. -/
def Identity.Draws (provider : Provider σ) (identity : Identity) (target : Nat) (crypto : σ)
    (drawn : List UInt32) : Prop :=
  ∃ replenishment after, identity.replenish provider target crypto = .ok replenishment after ∧
    replenishment.outcome = .ok drawn

/-! ### Live sessions -/

/-- A connection is live under a number, and its session has a state. -/
def Messenger.Holds (messenger : Messenger) (connectionId : UInt32) (state : RatchetState) : Prop :=
  ∃ live, messenger.session connectionId = .ok live ∧ live.connection.phase = .established state

theorem Messenger.holds_install (messenger : Messenger) {connection : Connection}
    {state : RatchetState} (established : connection.phase = .established state) :
    (messenger.install connectionId connection).Holds connectionId state :=
  ⟨_, session_eq_ok.2 (OrderedMap.find?_insert_self _ _ _), established⟩

namespace Node

open Handshake

variable {before after node : Node σ} {bundle : Bundle} {hello : Hello} {signal : CancelSignal σ}
  {pairs : Pairs}

/-! ### The initiator -/

/-- What an initiator that succeeds has made live and announced. -/
structure Initiates (primitives : Primitives) (before after : Node σ) (connectionId : UInt32)
    (bundle : Bundle) (hello : Hello) (secret : FixedBytes 32) (ephemeral keyPair : X25519KeyPair) :
    Prop where
  hasInfo : before.own.messenger.config.protocolInfo.isEmpty = false
  fits : primitives.Fits ephemeral
  agreed : ∀ pairs : Pairs, pairs.Fit primitives →
    pairs.Against before.own.messenger.identity ephemeral bundle →
      secret = pairs.secret primitives before.own.messenger.config.protocolInfo
  announces : hello = {
    signingKey := before.own.messenger.identity.signing.publicKey
    agreementKey := before.own.messenger.identity.agreement.publicKey
    ephemeralKey := ephemeral.publicKey
    signedPreKeyId := bundle.signedPreKeyId
    oneTimePreKeyId := bundle.firstOneTimePreKey.map OneTimePreKeyPublic.id
    ratchetKey := some keyPair.publicKey }
  holds : after.own.messenger.Holds connectionId
    (initiatorEnd primitives before.own.messenger.config.ratchetLimits
      before.own.messenger.identity bundle ephemeral.publicKey secret keyPair)

theorem storeAndInstall_holds {connection : Connection} {state : RatchetState} {done : PUnit}
    (established : connection.phase = .established state)
    (installed : storeAndInstall connectionId connection signal before = .ok done after) :
    after.own.messenger.Holds connectionId state := by
  simp only [storeAndInstall, Crypto.bind_eq_ok, checking_eq_ok, modifyMessenger_eq_ok] at installed
  obtain ⟨_, _, _, _, stored, _, rfl⟩ := installed
  exact stored.own.messenger.holds_install established

theorem initiateSession_initiates (agreeing : provider.Agreeing primitives)
    (initiated : initiateSession provider connectionId bundle signal before = .ok hello after) :
    ∃ secret ephemeral keyPair,
      Initiates primitives before after connectionId bundle hello secret ephemeral keyPair := by
  obtain ⟨connection, ready, opened, installed⟩ := initiateSession_eq_ok initiated
  simp only [openAsInitiator, Crypto.bind_eq_ok, messenger_eq_ok, calling_eq_ok, setIdentity_eq_ok,
    checking_eq_ok, Crypto.pure_eq_ok, Prod.exists, Prod.mk.injEq] at opened
  obtain ⟨_, _, ⟨rfl, rfl⟩, _, _, ⟨rfl, rfl⟩, _, _, _, ⟨_, prepares, rfl⟩, _, _, rfl, initiation, _,
    _, ⟨_, initiates, rfl⟩, _, _, rfl, _, _, ⟨_, established, rfl⟩, key, _, ⟨isKey, rfl⟩,
    ⟨rfl, rfl⟩, rfl⟩ := opened
  simp only [Identity.prepareEphemeral, Crypto.bind_eq_ok, Crypto.pure_eq_ok,
    Prod.mk.injEq] at prepares
  obtain ⟨_, _, _, ephemeral, _, generated, ⟨rfl, rfl⟩, rfl⟩ := prepares
  obtain ⟨hasInfo, samePreKey, sameOneTime, rfl, _, isEphemeral, sameEphemeral, agreed⟩ :=
    Identity.initiate_agrees agreeing initiates
  obtain rfl := Option.some.inj isEphemeral
  obtain ⟨keyPair, phase⟩ := Connection.establish_initiator agreeing rfl rfl established
  have isOwn : keyPair.publicKey = key := by
    simp only [Connection.localRatchetKey, Connection.state, phase] at isKey
    cases isKey
    rfl
  subst isOwn
  refine ⟨initiation.sharedSecret, ephemeral, keyPair, ⟨hasInfo,
    agreeing.fits_of_generate generated, ?_, ?_, ?_⟩⟩
  · exact fun pairs fit against => agreed pairs fit { against with }
  · rw [samePreKey, sameOneTime, sameEphemeral]
  · rw [sameEphemeral] at phase
    exact storeAndInstall_holds phase installed

/-! ### The responder -/

theorem saveCritical_completes {slot : StoreSlot}
    (accepts : ∀ writes, node.volume.writeFault writes slot = none)
    (record : Record.SessionRecord) :
    ∃ after, saveCritical slot record .never node = .ok () after ∧
      after.own.messenger = node.own.messenger ∧
      after.volume.writeFault = node.volume.writeFault := by
  obtain ⟨after, saved⟩ := saveCritical_succeeds accepts record
  obtain ⟨ready, lapses, _, rfl⟩ := saveCritical_eq_ok saved
  refine ⟨_, saved, ?_, ?_⟩
  · exact lapses.messenger.trans (Process.messenger_dropping _ _)
  · exact (Volume.writeFault_write _ _ _).trans lapses.passes.writeFault

theorem replaceIdentity_completes (node : Node σ) {identity : Identity}
    (live : identity.disposed = false)
    (accepts : ∀ writes, node.volume.writeFault writes .identity = none) :
    ∃ after, replaceIdentity identity .never node = .ok () after ∧
      after.own.messenger = { node.own.messenger with identity := identity } ∧
      after.volume.writeFault = node.volume.writeFault := by
  obtain ⟨stored, saved, sameParty, sameFaults⟩ :=
    saveCritical_completes accepts (.ofIdentity identity.toRecord)
  refine ⟨{ stored with own.messenger.identity := identity }, ?_, ?_, sameFaults⟩
  · simp only [replaceIdentity, Crypto.bind_eq_ok, checking_eq_ok, setIdentity_eq_ok]
    exact ⟨_, _, ⟨Identity.exportRecord_of_live live, rfl⟩, _, stored, saved, rfl⟩
  · rw [← sameParty]

theorem storeAndInstall_completes (node : Node σ) {connection : Connection} {state : RatchetState}
    (established : connection.phase = .established state)
    (accepts : ∀ writes, node.volume.writeFault writes (.connection connectionId) = none) :
    ∃ after, storeAndInstall connectionId connection .never node = .ok () after ∧
      after.own.messenger = node.own.messenger.install connectionId connection := by
  have exported : connection.exportRecord = .ok (state.toRecord connection.connectionId) := by
    simp only [Connection.exportRecord, Connection.state, established]
    rfl
  obtain ⟨stored, saved, sameParty, _⟩ := saveCritical_completes accepts
    (.ofConnection (state.toRecord connection.connectionId))
  refine ⟨{ stored with own.messenger := stored.own.messenger.install connectionId connection },
    ?_, ?_⟩
  · simp only [storeAndInstall, Crypto.bind_eq_ok, checking_eq_ok, modifyMessenger_eq_ok]
    exact ⟨_, _, ⟨exported, rfl⟩, _, stored, saved, rfl⟩
  · rw [← sameParty]

/-- Once the responder has the secret, its connection opens. -/
theorem openAsResponder_of_secret (connectionId : UInt32) (agreeing : provider.Agreeing primitives)
    {secret : FixedBytes 32} {between : σ}
    (derived : node.own.messenger.identity.respondSecret provider hello
      node.own.messenger.config.protocolInfo node.crypto = .ok secret between) :
    ∃ connection crypto, openAsResponder provider connectionId hello node =
        .ok connection { node with crypto := crypto } ∧
      connection.phase = .established
        (responderEnd primitives node.own.messenger.config.ratchetLimits
          node.own.messenger.identity hello secret) := by
  obtain ⟨live, current⟩ := Identity.respondSecret_eq_ok derived
  have isLive : node.own.messenger.identity.ensureLive = .ok () :=
    Identity.ensureLive_eq_ok.2 live
  have isPair : node.own.messenger.identity.signedPreKeyPair hello.signedPreKeyId =
      .ok node.own.messenger.identity.signedPreKey.keyPair := by
    simp only [Identity.signedPreKeyPair, isLive, current, ne_eq, not_true_eq_false, if_false]
    rfl
  obtain ⟨crypto, established⟩ := establish_responderEnd agreeing connectionId
    node.own.messenger.config.ratchetLimits node.own.messenger.identity hello secret between
  refine ⟨⟨connectionId, node.own.messenger.config.ratchetLimits, .established _⟩, crypto, ?_, rfl⟩
  simp only [openAsResponder, Crypto.bind_eq_ok, messenger_eq_ok, calling_eq_ok, checking_eq_ok]
  exact ⟨_, _, ⟨rfl, rfl⟩, _, _, ⟨rfl, rfl⟩, _, _, ⟨between, derived, rfl⟩, _, _, ⟨isPair, rfl⟩,
    crypto, established, rfl⟩

theorem openAsResponder_completes (connectionId : UInt32) (agreeing : provider.Agreeing primitives)
    (live : node.own.messenger.identity.disposed = false)
    (hasInfo : node.own.messenger.config.protocolInfo.isEmpty = false)
    (fit : pairs.Fit primitives)
    (answering : pairs.Answering node.own.messenger.identity hello) :
    ∃ connection crypto, openAsResponder provider connectionId hello node =
        .ok connection { node with crypto := crypto } ∧
      connection.phase = .established
        (responderEnd primitives node.own.messenger.config.ratchetLimits
          node.own.messenger.identity hello
          (pairs.secret primitives node.own.messenger.config.protocolInfo)) := by
  obtain ⟨_, derived⟩ :=
    Identity.respondSecret_agrees agreeing live hasInfo fit answering node.crypto
  exact openAsResponder_of_secret connectionId agreeing derived

/-- Accepting a hello makes a replenishment due: of this identity, which is without the named
pre-key, and with this state of the random source. -/
def ReplenishmentDue (provider : Provider σ) (connectionId : UInt32) (hello : Hello)
    (node : Node σ) (identity : Identity) (crypto : σ) : Prop :=
  ∃ connection opened copy,
    openAsResponder provider connectionId hello node = .ok connection opened ∧
    node.own.messenger.identity.clone provider opened.crypto = .ok copy crypto ∧
    copy.consumeNamed hello = identity ∧
    identity.oneTimePreKeyCount < node.own.messenger.config.minOneTimePreKeys

/-- A replenishment that is due finds unused numbers. -/
def FindsUnusedIds (provider : Provider σ) (connectionId : UInt32) (hello : Hello)
    (node : Node σ) : Prop :=
  ∀ identity crypto, node.ReplenishmentDue provider connectionId hello identity crypto →
    ∃ drawn, identity.Draws provider node.own.messenger.config.oneTimePreKeyCount crypto drawn

/-- A replenishment that is due draws a number. -/
def DrawsOnAccepting (provider : Provider σ) (connectionId : UInt32) (hello : Hello)
    (node : Node σ) (id : UInt32) : Prop :=
  ∃ identity crypto drawn, node.ReplenishmentDue provider connectionId hello identity crypto ∧
    identity.Draws provider node.own.messenger.config.oneTimePreKeyCount crypto drawn ∧ id ∈ drawn

theorem identityAfterDrawing_completes {connection : Connection} {between : σ}
    (opened : openAsResponder provider connectionId hello node =
      .ok connection { node with crypto := between })
    (finds : node.FindsUnusedIds provider connectionId hello)
    (copies : Crypto.Succeeds (node.own.messenger.identity.clone provider)) :
    ∃ identity drawn after,
      identityAfterDrawing provider hello { node with crypto := between } =
        .ok (identity, drawn) after ∧
      ∀ id ∈ drawn, node.DrawsOnAccepting provider connectionId hello id := by
  obtain ⟨copy, crypto, cloned⟩ := copies between
  simp only [identityAfterDrawing, Crypto.bind_eq_ok, messenger_eq_ok, calling_eq_ok]
  by_cases due : (copy.consumeNamed hello).oneTimePreKeyCount <
      node.own.messenger.config.minOneTimePreKeys
  · have isDue : node.ReplenishmentDue provider connectionId hello (copy.consumeNamed hello)
        crypto := ⟨connection, _, copy, opened, cloned, rfl, due⟩
    obtain ⟨drawn, draws⟩ := finds _ _ isDue
    obtain ⟨replenishment, after, replenished, outcome⟩ := draws
    refine ⟨replenishment.identity, drawn, { node with crypto := after }, ?_, fun id member =>
      ⟨_, _, drawn, isDue, ⟨replenishment, after, replenished, outcome⟩, member⟩⟩
    refine ⟨_, _, ⟨rfl, rfl⟩, _, _, ⟨rfl, rfl⟩, copy, _, ⟨crypto, cloned, rfl⟩, ?_⟩
    rw [if_pos due]
    simp only [Crypto.bind_eq_ok, calling_eq_ok, checking_eq_ok, Crypto.pure_eq_ok]
    exact ⟨replenishment, _, ⟨after, replenished, rfl⟩, drawn, _, ⟨outcome, rfl⟩, rfl, rfl⟩
  · refine ⟨copy.consumeNamed hello, [], { node with crypto := crypto }, ?_,
      fun _ member => absurd member List.not_mem_nil⟩
    refine ⟨_, _, ⟨rfl, rfl⟩, _, _, ⟨rfl, rfl⟩, copy, _, ⟨crypto, cloned, rfl⟩, ?_⟩
    rw [if_neg due]
    rfl

/-- The identity after a handshake is live, and the named one-time pre-key is gone, unless its
number has been drawn again. -/
theorem identityAfter_completes {connection : Connection} {between : σ}
    (opened : openAsResponder provider connectionId hello node =
      .ok connection { node with crypto := between })
    (finds : node.FindsUnusedIds provider connectionId hello)
    (copies : Crypto.Succeeds (node.own.messenger.identity.clone provider))
    (live : node.own.messenger.identity.disposed = false) :
    ∃ identity crypto, identityAfter provider hello { node with crypto := between } =
        .ok identity { node with crypto := crypto } ∧
      identity.disposed = false ∧
      ∀ id, hello.oneTimePreKeyId = some id →
        ¬ node.DrawsOnAccepting provider connectionId hello id →
          identity.hasOneTimePreKey id = false := by
  obtain ⟨identity, drawn, after, prepared, isDrawn⟩ :=
    identityAfterDrawing_completes opened finds copies
  obtain ⟨⟨crypto, rfl⟩, preKeys⟩ := identityAfterDrawing_eq_ok prepared
  refine ⟨identity, crypto, ?_, ?_, ?_⟩
  · rw [identityAfter_eq]
    exact Crypto.bind_of_ok prepared _
  · exact (identityAfterDrawing_steps prepared).succeeds.disposed.trans live
  · intro id named unused
    cases held : identity.hasOneTimePreKey id with
    | false => rfl
    | true =>
      rcases preKeys id held with ⟨_, unnamed⟩ | member
      · exact absurd named unnamed
      · exact absurd (isDrawn id member) unused

/-- An acceptance whose connection opens succeeds, makes the connection live, and uses up the named
one-time pre-key. -/
theorem acceptSession_of_opened {connection : Connection} {between : σ} {state : RatchetState}
    (opened : openAsResponder provider connectionId hello node =
      .ok connection { node with crypto := between })
    (established : connection.phase = .established state)
    (copies : Crypto.Succeeds (node.own.messenger.identity.clone provider))
    (live : node.own.messenger.identity.disposed = false)
    (stores : ∀ writes slot, node.volume.writeFault writes slot = none)
    (finds : node.FindsUnusedIds provider connectionId hello) :
    ∃ after, acceptSession provider connectionId hello .never node = .ok () after ∧
      after.own.messenger.Holds connectionId state ∧
      ∀ id, hello.oneTimePreKeyId = some id →
        ¬ node.DrawsOnAccepting provider connectionId hello id →
          after.own.messenger.identity.hasOneTimePreKey id = false := by
  obtain ⟨identity, crypto, prepared, stillLive, gone⟩ :=
    identityAfter_completes opened finds copies live
  obtain ⟨replaced, isReplaced, sameParty, sameFaults⟩ :=
    replaceIdentity_completes { node with crypto := crypto } stillLive
      (fun writes => stores writes .identity)
  have accepts : ∀ writes,
      replaced.volume.writeFault writes (.connection connectionId) = none := fun writes =>
    (congrFun (congrFun sameFaults writes) _).trans (stores writes _)
  obtain ⟨after, installed, party⟩ := storeAndInstall_completes replaced established accepts
  refine ⟨after, ?_, ?_, ?_⟩
  · unfold acceptSession
    rw [Crypto.bind_of_ok (CancelSignal.check_never node), Crypto.bind_of_ok opened,
      Crypto.bind_of_ok (CancelSignal.check_never _), Crypto.bind_of_ok prepared,
      Crypto.bind_of_ok isReplaced]
    exact installed
  · rw [party]
    exact replaced.own.messenger.holds_install established
  · rw [party, Messenger.install, sameParty]
    exact gone

/-- An acceptance succeeds, makes the responder's end live, and uses up the named one-time
pre-key. -/
theorem acceptSession_completes (agreeing : provider.Agreeing primitives)
    (vouching : provider.Vouching)
    (genuine : node.own.messenger.identity.Genuine provider primitives)
    (live : node.own.messenger.identity.disposed = false)
    (hasInfo : node.own.messenger.config.protocolInfo.isEmpty = false)
    (fit : pairs.Fit primitives)
    (answering : pairs.Answering node.own.messenger.identity hello)
    (stores : ∀ writes slot, node.volume.writeFault writes slot = none)
    (finds : node.FindsUnusedIds provider connectionId hello) :
    ∃ after, acceptSession provider connectionId hello .never node = .ok () after ∧
      after.own.messenger.Holds connectionId
        (responderEnd primitives node.own.messenger.config.ratchetLimits
          node.own.messenger.identity hello
          (pairs.secret primitives node.own.messenger.config.protocolInfo)) ∧
      ∀ id, hello.oneTimePreKeyId = some id →
        ¬ node.DrawsOnAccepting provider connectionId hello id →
          after.own.messenger.identity.hasOneTimePreKey id = false := by
  obtain ⟨connection, _, opened, established⟩ :=
    openAsResponder_completes connectionId agreeing live hasInfo fit answering
  exact acceptSession_of_opened opened established
    (genuine.clone agreeing vouching live).succeeds live stores finds

end Node

/-! ### Both sides -/

namespace Identity

variable {identity : Identity} {bundle : Bundle} {hello : Hello}

/-- What a hello has used of a bundle is still there: the signed pre-key is that of the bundle, and
so is the one-time pre-key under the number that the hello names. -/
structure StillOffers (identity : Identity) (bundle : Bundle) (hello : Hello) : Prop where
  signedPreKeyId : identity.signedPreKey.id = bundle.signedPreKeyId
  signedPreKey : identity.signedPreKey.publicKey = bundle.signedPreKey
  oneTimePreKey : ∀ preKey ∈ bundle.oneTimePreKeys, hello.oneTimePreKeyId = some preKey.id →
    (identity.oneTimePreKeys.find? preKey.id).map X25519KeyPair.publicKey = some preKey.publicKey

/-- The pair that the hello names is the one whose public half the initiator has used. -/
theorem StillOffers.named (offers : identity.StillOffers bundle hello)
    (used : hello.oneTimePreKeyId = bundle.firstOneTimePreKey.map OneTimePreKeyPublic.id) :
    ∃ oneTime, identity.namedOneTimePreKey hello = .ok oneTime ∧
      oneTime.map X25519KeyPair.publicKey =
        bundle.firstOneTimePreKey.map OneTimePreKeyPublic.publicKey := by
  unfold namedOneTimePreKey
  cases isFirst : bundle.firstOneTimePreKey with
  | none =>
    rw [used, isFirst]
    exact ⟨none, rfl, rfl⟩
  | some preKey =>
    rw [isFirst] at used
    have found := offers.oneTimePreKey preKey (List.mem_of_head? isFirst) used
    obtain ⟨keyPair, isPair, samePublic⟩ := Option.map_eq_some_iff.1 found
    refine ⟨some keyPair, ?_, congrArg some samePublic⟩
    rw [used]
    simp only [Option.map_some, isPair]

theorem Genuine.fits_named (genuine : identity.Genuine provider primitives)
    {keyPair : X25519KeyPair} (named : identity.namedOneTimePreKey hello = .ok (some keyPair)) :
    primitives.Fits keyPair := by
  unfold namedOneTimePreKey at named
  split at named
  · cases named
  · split at named
    · rename_i found
      cases named
      exact genuine.oneTimePreKeys _ _ found
    · cases named

theorem bundle_eq_ok (exported : identity.bundle = .ok bundle) :
    identity.disposed = false ∧ bundle.agreementKey = identity.agreement.publicKey := by
  unfold Identity.bundle at exported
  cases live : identity.ensureLive with
  | error failure =>
    rw [live] at exported
    cases exported
  | ok done =>
    rw [live] at exported
    cases exported
    exact ⟨ensureLive_eq_ok.1 live, rfl⟩

open Handshake in
/-- The pairs of a handshake, as both sides see them, when the hello tells the truth and the named
keys are still there. -/
theorem StillOffers.pairs {τ : Type} {theirs : Provider τ} {peer : Identity}
    (offers : peer.StillOffers bundle hello) (genuine : identity.Genuine provider primitives)
    (peerGenuine : peer.Genuine theirs primitives) {ephemeral : X25519KeyPair}
    (fits : primitives.Fits ephemeral)
    (sameAgreement : bundle.agreementKey = peer.agreement.publicKey)
    (agreementKey : hello.agreementKey = identity.agreement.publicKey)
    (ephemeralKey : hello.ephemeralKey = ephemeral.publicKey)
    (signedPreKeyId : hello.signedPreKeyId = bundle.signedPreKeyId)
    (oneTimePreKeyId :
      hello.oneTimePreKeyId = bundle.firstOneTimePreKey.map OneTimePreKeyPublic.id) :
    ∃ pairs : Pairs, pairs.Fit primitives ∧ pairs.Against identity ephemeral bundle ∧
      pairs.Answering peer hello := by
  obtain ⟨oneTime, named, shown⟩ := offers.named oneTimePreKeyId
  refine ⟨⟨identity.agreement, ephemeral, peer.agreement, peer.signedPreKey.keyPair, oneTime⟩,
    ?_, ?_, ?_⟩
  · exact {
      initiator := genuine.agreement
      ephemeral := fits
      responder := peerGenuine.agreement
      signedPreKey := peerGenuine.signedPreKey
      oneTimePreKey := fun _ isPair =>
        peerGenuine.fits_named (named.trans (congrArg Except.ok isPair)) }
  · exact {
      initiator := rfl
      ephemeral := rfl
      responder := sameAgreement.symm
      signedPreKey := offers.signedPreKey
      oneTimePreKey := shown }
  · exact {
      current := signedPreKeyId.trans offers.signedPreKeyId.symm
      initiator := agreementKey.symm
      ephemeral := ephemeralKey.symm
      responder := rfl
      signedPreKey := rfl
      oneTimePreKey := named }

end Identity

open Handshake in
/-- **A handshake agrees.** Two parties of the same protocol run any commands before, and the
responder also between the export of its bundle and the arrival of the hello. The initiator
succeeds with that bundle, with any earlier connections. If the signed pre-key is then still that of
the bundle, the named one-time pre-key is still there, and nothing fails at the responder, the
hello, also when it goes through its bytes, is accepted, and both ends agree. The named one-time
pre-key is gone, unless a replenishment that the acceptance makes due draws its number again. -/
theorem handshake_agrees {τ : Type} {ours : Provider σ} {theirs : Provider τ}
    (agreeing : ours.Agreeing primitives) (peerAgreeing : theirs.Agreeing primitives)
    (vouching : theirs.Vouching) {start : Node σ} {peerStart : Node τ}
    (made : start.own.messenger.identity.Made ours)
    (peerMade : peerStart.own.messenger.identity.Made theirs)
    (sameInfo : peerStart.own.messenger.config.protocolInfo =
      start.own.messenger.config.protocolInfo)
    (earlier : List (Command σ)) (sooner later : List (Command τ))
    {bundle : Bundle}
    (exported : (run theirs sooner peerStart).own.messenger.identity.bundle = .ok bundle)
    {begun after : Node σ} (begins : begun.toSite = (run ours earlier start).toSite)
    {connectionId : UInt32} {signal : CancelSignal σ} {hello : Hello}
    (initiated : Node.initiateSession ours connectionId bundle signal begun = .ok hello after)
    {ready : Node τ}
    (reaches : ready.toSite = (run theirs later (run theirs sooner peerStart)).toSite)
    (offers : ready.own.messenger.identity.StillOffers bundle hello)
    (stores : ∀ writes slot, ready.volume.writeFault writes slot = none)
    {peerConnectionId : UInt32} (finds : ready.FindsUnusedIds theirs peerConnectionId hello) :
    Hello.ofBytes hello.toBytes = .ok hello ∧
    ∃ peerAfter,
      Node.acceptSession theirs peerConnectionId hello .never ready = .ok () peerAfter ∧
      (∃ state peerState, after.own.messenger.Holds connectionId state ∧
        peerAfter.own.messenger.Holds peerConnectionId peerState ∧ state.Agrees peerState) ∧
      ∀ id, hello.oneTimePreKeyId = some id →
        ¬ ready.DrawsOnAccepting theirs peerConnectionId hello id →
          peerAfter.own.messenger.identity.hasOneTimePreKey id = false := by
  refine ⟨hello.ofBytes_toBytes, ?_⟩
  obtain ⟨secret, ephemeral, keyPair, initiates⟩ :=
    Node.initiateSession_initiates agreeing initiated
  have genuine : begun.own.messenger.identity.Genuine ours primitives := by
    rw [begins]
    exact (run_made earlier made).genuine agreeing
  have peerGenuine : ready.own.messenger.identity.Genuine theirs primitives := by
    rw [reaches]
    exact (run_made later (run_made sooner peerMade)).genuine peerAgreeing
  have kept : ready.own.messenger.identity.Succeeds
      (run theirs sooner peerStart).own.messenger.identity := by
    rw [reaches]
    exact (run_steps theirs later _).succeeds
  have info : ready.own.messenger.config.protocolInfo =
      begun.own.messenger.config.protocolInfo := by
    rw [reaches, begins, run_config, run_config, run_config, sameInfo]
  obtain ⟨wasLive, isAgreement⟩ := Identity.bundle_eq_ok exported
  have sameAgreement : bundle.agreementKey = ready.own.messenger.identity.agreement.publicKey := by
    rw [kept.agreement, isAgreement]
  have announced := initiates.announces
  obtain ⟨pairs, fit, against, answering⟩ := offers.pairs genuine peerGenuine initiates.fits
    sameAgreement (congrArg Hello.agreementKey announced) (congrArg Hello.ephemeralKey announced)
    (congrArg Hello.signedPreKeyId announced) (congrArg Hello.oneTimePreKeyId announced)
  obtain ⟨peerAfter, accepted, holds, gone⟩ := Node.acceptSession_completes peerAgreeing vouching
    peerGenuine (kept.disposed.trans wasLive) (info ▸ initiates.hasInfo) fit answering stores finds
  refine ⟨peerAfter, accepted, ⟨_, _, initiates.holds, holds, ?_⟩, gone⟩
  rw [info, ← initiates.agreed pairs fit against]
  exact initiatorEnd_agrees against answering (congrArg Hello.ratchetKey announced) primitives _ _
    secret

/-- `Node.sampleShortStart` when it exports its bundle. -/
def Node.sampleOffering : Node Nat := run .transparent [.saveIdentity .never] sampleShortStart

/-- The same process after it has opened a session of its own. -/
def Node.sampleReady : Node Nat := run .transparent [.initiate 3 .sample .never] sampleOffering

theorem Node.sampleReady_draws {identity : Identity} {crypto : Nat}
    (due : sampleReady.ReplenishmentDue .transparent 2 .samplePeer identity crypto) :
    identity.Draws .transparent sampleReady.own.messenger.config.oneTimePreKeyCount crypto
      [0x03030303] := by
  obtain ⟨connection, opened, copy, isOpened, isCloned, rfl, _⟩ := due
  have check : (match openAsResponder .transparent 2 .samplePeer sampleReady with
    | .ok _ opened =>
      match sampleReady.own.messenger.identity.clone .transparent opened.crypto with
      | .ok copy crypto =>
        (((copy.consumeNamed .samplePeer).replenish .transparent
          sampleReady.own.messenger.config.oneTimePreKeyCount).value? crypto).map
            Replenishment.outcome
      | .error _ _ => none
    | .error _ _ => none) = some (.ok [0x03030303]) := by
    decide +kernel
  simp only [isOpened, isCloned] at check
  obtain ⟨replenishment, isValue, outcome⟩ := Option.map_eq_some_iff.1 check
  obtain ⟨after, replenished⟩ := Crypto.eq_ok_of_value? isValue
  exact ⟨replenishment, after, replenished, outcome⟩

/-- The hello names the only one-time pre-key, so that the acceptance replenishes them. -/
theorem handshake_agrees_sample :
    ∃ (bundle : Bundle) (after peerAfter : Node Nat) (state peerState : RatchetState),
      Node.sampleOffering.own.messenger.identity.bundle = .ok bundle ∧
      Node.initiateSession .transparent 1 bundle .never
        (run .transparent [.saveIdentity .never] .samplePeerStart) = .ok .samplePeer after ∧
      Hello.ofBytes Hello.samplePeer.toBytes = .ok .samplePeer ∧
      Node.acceptSession .transparent 2 .samplePeer .never .sampleReady = .ok () peerAfter ∧
      after.own.messenger.Holds 1 state ∧ peerAfter.own.messenger.Holds 2 peerState ∧
      state.Agrees peerState ∧ peerAfter.own.messenger.identity.hasOneTimePreKey 7 = false := by
  have made : Node.samplePeerStart.own.messenger.identity.Made .transparent :=
    .read (show Identity.ofRecord .transparent Identity.samplePeer.toRecord 0 = .ok _ 0 from rfl)
  have peerMade : Node.sampleShortStart.own.messenger.identity.Made .transparent :=
    .read (show Identity.ofRecord .transparent Identity.sample.toRecord 0 = .ok _ 0 from rfl)
  obtain ⟨bundle, exported, begins, offered⟩ : ∃ bundle,
      Node.sampleOffering.own.messenger.identity.bundle = .ok bundle ∧
      Crypto.value? (Node.initiateSession .transparent 1 bundle .never)
        (run .transparent [.saveIdentity .never] .samplePeerStart) = some .samplePeer ∧
      Node.sampleReady.own.messenger.identity.StillOffers bundle .samplePeer :=
    ⟨_, rfl, by decide +kernel, by decide +kernel, by decide +kernel, by decide +kernel⟩
  obtain ⟨after, initiated⟩ := Crypto.eq_ok_of_value? begins
  have stores : ∀ writes slot, Node.sampleReady.volume.writeFault writes slot = none := by
    intro writes slot
    rw [Node.sampleReady, run_writeFault, Node.sampleOffering, run_writeFault]
    rfl
  have finds : Node.sampleReady.FindsUnusedIds .transparent 2 .samplePeer :=
    fun _ _ due => ⟨_, Node.sampleReady_draws due⟩
  obtain ⟨encoded, peerAfter, accepted, ⟨state, peerState, holds, peerHolds, agrees⟩, gone⟩ :=
    handshake_agrees Provider.transparent_agreeing Provider.transparent_agreeing
      Provider.transparent_vouching made peerMade rfl [.saveIdentity .never]
      [.saveIdentity .never] [.initiate 3 .sample .never] exported rfl initiated rfl offered
      stores finds
  refine ⟨bundle, after, peerAfter, state, peerState, exported, initiated, encoded, accepted, holds,
    peerHolds, agrees, gone 7 rfl ?_⟩
  rintro ⟨_, _, drawn, due, ⟨_, _, replenished, outcome⟩, member⟩
  obtain ⟨_, _, again, sameOutcome⟩ := Node.sampleReady_draws due
  cases replenished.symm.trans again
  cases outcome.symm.trans sameOutcome
  cases member with
  | tail _ member => cases member

end RatchetMessaging
