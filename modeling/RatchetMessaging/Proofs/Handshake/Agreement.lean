import RatchetMessaging.Proofs.Connection.Establish
import RatchetMessaging.Proofs.Identity.Snapshot
import RatchetMessaging.Proofs.Provider.Agreeing

/-!
Contract: both roles of a handshake come to the same secret and the same first keys.

Owns:
- `Handshake.Pairs`, the key pairs that take part, and the secret as a function of them;
- the initiator finds that secret when it succeeds, the responder always;
- what the ends of a session have in common when they start from one secret.

Does not own: processes, and where the pairs come from.
-/

namespace RatchetMessaging

variable {σ : Type} {provider : Provider σ} {primitives : Primitives} {before after : σ}

/-! ### The secret -/

namespace Handshake

/-- The pairs that take part in a handshake. Each side has the public halves of the other's. -/
structure Pairs where
  initiator : X25519KeyPair
  ephemeral : X25519KeyPair
  responder : X25519KeyPair
  signedPreKey : X25519KeyPair
  oneTimePreKey : Option X25519KeyPair

namespace Pairs

variable (pairs : Pairs)

/-- The value shared through the one-time pre-key, if there is one. -/
def sharedIfPresent (primitives : Primitives) : List (FixedBytes 32) :=
  match pairs.oneTimePreKey with
  | none => []
  | some preKey => [primitives.agree pairs.ephemeral.secret preKey.secret]

/-- The values that the sides share, as the initiator computes them. -/
def shared (primitives : Primitives) : List (FixedBytes 32) :=
  [primitives.agree pairs.initiator.secret pairs.signedPreKey.secret,
    primitives.agree pairs.ephemeral.secret pairs.responder.secret,
    primitives.agree pairs.ephemeral.secret pairs.signedPreKey.secret] ++
  pairs.sharedIfPresent primitives

/-- The secret of the session. -/
def secret (primitives : Primitives) (info : Bytes) : FixedBytes 32 :=
  primitives.derive none
    (materialHeader ++ (pairs.shared primitives).flatMap FixedBytes.toBytes) info 32

/-- The public half of each pair is that of its secret. -/
structure Fit (primitives : Primitives) : Prop where
  initiator : primitives.Fits pairs.initiator
  ephemeral : primitives.Fits pairs.ephemeral
  responder : primitives.Fits pairs.responder
  signedPreKey : primitives.Fits pairs.signedPreKey
  oneTimePreKey : ∀ preKey, pairs.oneTimePreKey = some preKey → primitives.Fits preKey

/-- The initiator has its own pairs, and the public halves of the others from a bundle. -/
structure Against (identity : Identity) (ephemeral : X25519KeyPair) (bundle : Bundle) : Prop where
  initiator : pairs.initiator = identity.agreement
  ephemeral : pairs.ephemeral = ephemeral
  responder : pairs.responder.publicKey = bundle.agreementKey
  signedPreKey : pairs.signedPreKey.publicKey = bundle.signedPreKey
  oneTimePreKey : pairs.oneTimePreKey.map X25519KeyPair.publicKey =
    bundle.firstOneTimePreKey.map OneTimePreKeyPublic.publicKey

/-- The responder has its own pairs, and the public halves of the others from a hello. -/
structure Answering (identity : Identity) (hello : Hello) : Prop where
  current : hello.signedPreKeyId = identity.signedPreKey.id
  initiator : pairs.initiator.publicKey = hello.agreementKey
  ephemeral : pairs.ephemeral.publicKey = hello.ephemeralKey
  responder : pairs.responder = identity.agreement
  signedPreKey : pairs.signedPreKey = identity.signedPreKey.keyPair
  oneTimePreKey : identity.namedOneTimePreKey hello = .ok pairs.oneTimePreKey

end Pairs

variable {pairs : Pairs} {info : Bytes}

theorem checkInfo_eq_ok {done : Unit} : checkInfo info = .ok done ↔ info.isEmpty = false := by
  unfold checkInfo
  cases info.isEmpty <;> simp

theorem initiator_sharedIfPresent (agreeing : provider.Agreeing primitives)
    (fit : pairs.Fit primitives) {oneTime : Option OneTimePreKeyPublic}
    (shown : pairs.oneTimePreKey.map X25519KeyPair.publicKey =
      oneTime.map OneTimePreKeyPublic.publicKey) :
    Crypto.Returns
      (sharedIfPresent provider
        (oneTime.map (fun preKey => (pairs.ephemeral, preKey.publicKey))))
      (pairs.sharedIfPresent primitives) := by
  unfold Pairs.sharedIfPresent
  cases isPresent : pairs.oneTimePreKey with
  | none =>
    rw [isPresent, Option.map_none, eq_comm, Option.map_eq_none_iff] at shown
    rw [shown]
    exact Crypto.returns_pure []
  | some preKey =>
    rw [isPresent, Option.map_some, eq_comm, Option.map_eq_some_iff] at shown
    obtain ⟨offered, rfl, same⟩ := shown
    have returns := agreeing.shared pairs.ephemeral (fit.oneTimePreKey preKey isPresent)
    rw [← same] at returns
    exact returns.bind (Crypto.returns_pure _)

theorem responder_sharedIfPresent (agreeing : provider.Agreeing primitives)
    (fit : pairs.Fit primitives) :
    Crypto.Returns
      (sharedIfPresent provider
        (pairs.oneTimePreKey.map (fun keyPair => (keyPair, pairs.ephemeral.publicKey))))
      (pairs.sharedIfPresent primitives) := by
  unfold Pairs.sharedIfPresent
  cases pairs.oneTimePreKey with
  | none => exact Crypto.returns_pure []
  | some preKey =>
    have returns := agreeing.shared preKey fit.ephemeral
    rw [agreeing.symmetric] at returns
    exact returns.bind (Crypto.returns_pure _)

end Handshake

namespace Identity

open Handshake

variable {identity later : Identity} {pairs : Pairs} {info : Bytes}

/-- An initiator that succeeds has the secret of the pairs whose public halves the bundle shows. -/
theorem initiate_agrees (agreeing : provider.Agreeing primitives) {bundle : Bundle}
    {initiation : Initiation}
    (initiates : identity.initiate provider bundle info before = .ok (initiation, later) after) :
    info.isEmpty = false ∧ initiation.signedPreKeyId = bundle.signedPreKeyId ∧
      initiation.oneTimePreKeyId = bundle.firstOneTimePreKey.map OneTimePreKeyPublic.id ∧
      later = { identity with ephemeral := none } ∧
      ∃ ephemeral, identity.ephemeral = some ephemeral ∧
        initiation.ephemeralKey = ephemeral.publicKey ∧
        ∀ pairs : Pairs, pairs.Fit primitives → pairs.Against identity ephemeral bundle →
          initiation.sharedSecret = pairs.secret primitives info := by
  simp only [initiate, Crypto.bind_eq_ok, Crypto.ofExcept_eq_ok, checkInfo_eq_ok] at initiates
  obtain ⟨_, _, _, _, _, ⟨hasInfo, rfl⟩, verified, _, _, initiates⟩ := initiates
  cases verified with
  | false => simp [Crypto.bind_eq_ok] at initiates
  | true =>
    cases isEphemeral : identity.ephemeral with
    | none => simp [isEphemeral] at initiates
    | some ephemeral =>
      simp only [isEphemeral, Bool.not_true, Bool.false_eq_true, if_false, Crypto.bind_eq_ok,
        Crypto.pure_eq_ok, Prod.mk.injEq] at initiates
      obtain ⟨first, _, isFirst, second, _, isSecond, third, _, isThird, fourth, _, isFourth,
        secret, _, isSecret, ⟨rfl, rfl⟩, rfl⟩ := initiates
      refine ⟨hasInfo, rfl, rfl, rfl, ephemeral, rfl, rfl, ?_⟩
      rintro pairs fit ⟨isInitiator, rfl, isResponder, isSignedPreKey, shown⟩
      rw [← isSignedPreKey, ← isInitiator] at isFirst
      rw [← isResponder] at isSecond
      rw [← isSignedPreKey] at isThird
      obtain rfl := (agreeing.shared _ fit.signedPreKey).eq_of_ok isFirst
      obtain rfl := (agreeing.shared _ fit.responder).eq_of_ok isSecond
      obtain rfl := (agreeing.shared _ fit.signedPreKey).eq_of_ok isThird
      obtain rfl := (initiator_sharedIfPresent agreeing fit shown).eq_of_ok isFourth
      exact (agreeing.derives _ _ _).eq_of_ok isSecret

/-- A responder that has a secret is live, and has the signed pre-key that the hello names. -/
theorem respondSecret_eq_ok {hello : Hello} {secret : FixedBytes 32}
    (responds : identity.respondSecret provider hello info before = .ok secret after) :
    identity.disposed = false ∧ hello.signedPreKeyId = identity.signedPreKey.id := by
  simp only [respondSecret, Crypto.bind_eq_ok, Crypto.ofExcept_eq_ok, ensureLive_eq_ok] at responds
  obtain ⟨_, _, ⟨live, rfl⟩, _, _, _, responds⟩ := responds
  refine ⟨live, Decidable.byContradiction fun different => ?_⟩
  rw [if_pos different] at responds
  simp only [Crypto.bind_eq_ok, Crypto.throw_ne_ok, false_and, exists_false] at responds

/-- The responder has the secret of the pairs whose public halves the hello shows. -/
theorem respondSecret_agrees (agreeing : provider.Agreeing primitives) {hello : Hello}
    (live : identity.disposed = false) (hasInfo : info.isEmpty = false)
    (fit : pairs.Fit primitives) (answering : pairs.Answering identity hello) :
    Crypto.Returns (identity.respondSecret provider hello info)
      (pairs.secret primitives info) := by
  have isLive : identity.ensureLive = .ok () := ensureLive_eq_ok.2 live
  have first := agreeing.shared pairs.signedPreKey fit.initiator
  have second := agreeing.shared pairs.responder fit.ephemeral
  have third := agreeing.shared pairs.signedPreKey fit.ephemeral
  rw [agreeing.symmetric] at first second third
  have passes : checkInfo info = .ok () := checkInfo_eq_ok.2 hasInfo
  simp only [respondSecret, isLive, passes, answering.current, ne_eq, not_true_eq_false, if_false,
    answering.oneTimePreKey, ← answering.initiator, ← answering.ephemeral, ← answering.responder,
    ← answering.signedPreKey]
  exact (Crypto.returns_pure ()).bind <| (Crypto.returns_pure ()).bind <|
    (Crypto.returns_pure _).bind <| first.bind <| second.bind <| third.bind <|
    (responder_sharedIfPresent agreeing fit).bind (agreeing.derives _ _ _)

end Identity

/-! ### The first keys -/

/-- The root key and the key of the first chain that a secret gives. -/
def Primitives.seedKeys (primitives : Primitives) (secret : FixedBytes 32) :
    FixedBytes 32 × FixedBytes 32 :=
  let rootKey := primitives.derive none secret.toBytes RatchetState.rootInfo 32
  (rootKey, primitives.derive none rootKey.toBytes RatchetState.firstChainInfo 32)

/-- The first state of the initiator. -/
def Primitives.initiatorState (primitives : Primitives) (limits : RatchetLimits)
    (seed : SessionSeed) (secret : FixedBytes 32) (keyPair : X25519KeyPair) : RatchetState :=
  .initial limits seed (primitives.seedKeys secret).1 keyPair
    (some ⟨.sending, (primitives.seedKeys secret).2, 0⟩) none

/-- The first state of the responder. -/
def Primitives.responderState (primitives : Primitives) (limits : RatchetLimits)
    (seed : SessionSeed) (secret : FixedBytes 32) (keyPair : X25519KeyPair) : RatchetState :=
  .initial limits seed (primitives.seedKeys secret).1 keyPair none
    (some ⟨.receiving, (primitives.seedKeys secret).2, 0⟩)

section Seeds

variable {seed peerSeed : SessionSeed} {secret : FixedBytes 32} {limits peerLimits : RatchetLimits}
  {keyPair peerPair : X25519KeyPair} {connectionId : UInt32}

theorem SecretBuffer.read_ofFixed (secret : FixedBytes 32) :
    (ofFixed secret).read 32 = .ok secret.toBytes := rfl

theorem RatchetState.seedKeys_returns (agreeing : provider.Agreeing primitives)
    (isSecret : seed.sharedSecret = .ofFixed secret) :
    Crypto.Returns (seedKeys provider seed) (primitives.seedKeys secret) := by
  have reads := isSecret ▸ SecretBuffer.read_ofFixed secret
  exact (Crypto.returns_ofExcept reads).bind <| (agreeing.derives _ _ _).bind <|
    (agreeing.derives _ _ _).bind (Crypto.returns_pure _)

namespace Connection

theorem establish_initiator (agreeing : provider.Agreeing primitives)
    (isSecret : seed.sharedSecret = .ofFixed secret) (role : seed.isInitiator = true)
    {connection : Connection}
    (established : (new connectionId limits).establish provider seed before =
      .ok connection after) :
    ∃ keyPair, connection.phase =
      .established (primitives.initiatorState limits seed secret keyPair) := by
  obtain ⟨_, seeded, rfl⟩ := establish_eq_ok established
  obtain ⟨_, _, _, keys, ⟨_, _, keyPair, _, rfl⟩ | ⟨isResponder, _⟩⟩ :=
    RatchetState.ofSeed_eq_ok seeded
  · cases (RatchetState.seedKeys_returns agreeing isSecret).eq_of_ok keys
    exact ⟨keyPair, rfl⟩
  · rw [role] at isResponder
    cases isResponder

theorem establish_responder (agreeing : provider.Agreeing primitives)
    (isSecret : seed.sharedSecret = .ofFixed secret) (role : seed.isInitiator = false)
    (isPair : seed.localRatchetKey = some keyPair) :
    Crypto.Returns ((new connectionId limits).establish provider seed)
      ⟨connectionId, limits,
        .established (primitives.responderState limits seed secret keyPair)⟩ := by
  have reads := isSecret ▸ SecretBuffer.read_ofFixed secret
  have starts : Crypto.Returns (RatchetState.ofSeed provider limits seed)
      (primitives.responderState limits seed secret keyPair) := by
    unfold RatchetState.ofSeed
    simp only [role, isPair, Bool.false_eq_true, if_false]
    exact (Crypto.returns_ofExcept reads).bind <| (agreeing.derives _ _ _).bind <|
      (agreeing.derives _ _ _).bind (Crypto.returns_pure _)
  exact starts.bind (Crypto.returns_pure _)

end Connection

/-- The two ends of a session when it starts: the keys of one fit those of the other. -/
structure RatchetState.Agrees (initiator responder : RatchetState) : Prop where
  rootKey : initiator.rootKey = responder.rootKey
  chain : ∃ chainKey, initiator.sendingChain = some ⟨.sending, chainKey, 0⟩ ∧
    responder.receivingChain = some ⟨.receiving, chainKey, 0⟩
  remoteKey : initiator.remoteKey = some responder.keyPair.publicKey
  peerRemoteKey : responder.remoteKey = some initiator.keyPair.publicKey
  associatedData : initiator.associatedData = responder.associatedData
  fingerprint : initiator.fingerprint = responder.fingerprint

/-- Ends that start from one secret agree, when each has the ratchet key of the other. -/
theorem Primitives.initiatorState_agrees (primitives : Primitives) (secret : FixedBytes 32)
    (remote : seed.remoteRatchetKey = some peerPair.publicKey)
    (peerRemote : peerSeed.remoteRatchetKey = some keyPair.publicKey)
    (associatedData : seed.associatedData = peerSeed.associatedData)
    (fingerprint : seed.fingerprint = peerSeed.fingerprint) :
    (primitives.initiatorState limits seed secret keyPair).Agrees
      (primitives.responderState peerLimits peerSeed secret peerPair) where
  rootKey := rfl
  chain := ⟨(primitives.seedKeys secret).2, rfl, rfl⟩
  remoteKey := remote
  peerRemoteKey := peerRemote
  associatedData := associatedData
  fingerprint := fingerprint

end Seeds

/-! ### The ends of a session -/

namespace Handshake

/-- What the initiator's session starts from. -/
def initiatorSeed (identity : Identity) (bundle : Bundle) (ephemeral : X25519PublicKey)
    (secret : FixedBytes 32) : SessionSeed where
  sharedSecret := .ofFixed secret
  isInitiator := true
  remoteRatchetKey := some bundle.signedPreKey
  localRatchetKey := none
  associatedData := associatedData identity.agreement.publicKey bundle.agreementKey
  fingerprint := fingerprint identity.agreement.publicKey bundle.agreementKey ephemeral

/-- What the responder's session starts from. -/
def responderSeed (identity : Identity) (hello : Hello) (secret : FixedBytes 32) :
    SessionSeed where
  sharedSecret := .ofFixed secret
  isInitiator := false
  remoteRatchetKey := hello.ratchetKey
  localRatchetKey := some identity.signedPreKey.keyPair
  associatedData := associatedData hello.agreementKey identity.agreement.publicKey
  fingerprint := fingerprint hello.agreementKey identity.agreement.publicKey hello.ephemeralKey

/-- The initiator's end of the session. -/
def initiatorEnd (primitives : Primitives) (limits : RatchetLimits) (identity : Identity)
    (bundle : Bundle) (ephemeral : X25519PublicKey) (secret : FixedBytes 32)
    (keyPair : X25519KeyPair) : RatchetState :=
  primitives.initiatorState limits (initiatorSeed identity bundle ephemeral secret) secret keyPair

/-- The responder's end of the session. -/
def responderEnd (primitives : Primitives) (limits : RatchetLimits) (identity : Identity)
    (hello : Hello) (secret : FixedBytes 32) : RatchetState :=
  primitives.responderState limits (responderSeed identity hello secret) secret
    identity.signedPreKey.keyPair

theorem establish_responderEnd (agreeing : provider.Agreeing primitives) (connectionId : UInt32)
    (limits : RatchetLimits) (identity : Identity) (hello : Hello) (secret : FixedBytes 32) :
    Crypto.Returns
      ((Connection.new connectionId limits).establish provider
        (responderSeed identity hello secret))
      ⟨connectionId, limits, .established (responderEnd primitives limits identity hello secret)⟩ :=
  Connection.establish_responder agreeing rfl rfl rfl

/-- The ends agree, if the initiator's bundle and the responder's hello show the same pairs. -/
theorem initiatorEnd_agrees {pairs : Pairs} {identity peer : Identity} {bundle : Bundle}
    {hello : Hello} {ephemeral keyPair : X25519KeyPair}
    (against : pairs.Against identity ephemeral bundle) (answering : pairs.Answering peer hello)
    (announced : hello.ratchetKey = some keyPair.publicKey) (primitives : Primitives)
    (limits peerLimits : RatchetLimits) (secret : FixedBytes 32) :
    (initiatorEnd primitives limits identity bundle ephemeral.publicKey secret keyPair).Agrees
      (responderEnd primitives peerLimits peer hello secret) := by
  have sameInitiator : identity.agreement.publicKey = hello.agreementKey := by
    rw [← against.initiator, answering.initiator]
  have sameEphemeral : ephemeral.publicKey = hello.ephemeralKey := by
    rw [← against.ephemeral, answering.ephemeral]
  have sameResponder : bundle.agreementKey = peer.agreement.publicKey := by
    rw [← against.responder, answering.responder]
  have samePreKey : bundle.signedPreKey = peer.signedPreKey.keyPair.publicKey := by
    rw [← against.signedPreKey, answering.signedPreKey]
  apply primitives.initiatorState_agrees secret
  · exact congrArg some samePreKey
  · exact announced
  · simp only [initiatorSeed, responderSeed, sameInitiator, sameResponder]
  · simp only [initiatorSeed, responderSeed, sameInitiator, sameResponder, sameEphemeral]

end Handshake

end RatchetMessaging
