import RatchetMessaging.Proofs.Conversation.Coherence
import RatchetMessaging.Proofs.Provider.Transparent

/-!
Contract: a conversation that has just begun is coherent.

Owns: `Begins`, for two connections that were established from one secret, one of them as the
initiator with the pre-key of the other; and sample connections that begin so.

Does not own: how the sides came to share the secret.
-/

namespace RatchetMessaging

variable {σ : Type} {provider : Provider σ} {primitives : Primitives}
  {usable : FixedBytes 32 → Prop}

/-- Two connections that were established from one secret and one associated data. The initiator
was given the responder's pre-key, the responder the pair, and the initiator's ratchet key or
nothing. -/
structure Begins {σ : Type} (provider : Provider σ) (primitives : Primitives)
    (usable : FixedBytes 32 → Prop) (seed peerSeed : SessionSeed)
    (initiator responder : Connection) (key : X25519PublicKey) (preKey : X25519KeyPair) :
    Prop where
  owns : primitives.Owns usable preKey
  role : seed.isInitiator = true
  peerRole : peerSeed.isInitiator = false
  sharedSecret : peerSeed.sharedSecret = seed.sharedSecret
  associatedData : peerSeed.associatedData = seed.associatedData
  preKeyGiven : seed.remoteRatchetKey = some preKey.publicKey
  pairGiven : peerSeed.localRatchetKey = some preKey
  announced : peerSeed.remoteRatchetKey = none ∨ peerSeed.remoteRatchetKey = some key
  isKey : initiator.localRatchetKey = .ok key
  established : ∃ (fresh : Connection) (before after : σ),
    fresh.establish provider seed before = .ok initiator after
  peerEstablished : ∃ (fresh : Connection) (before after : σ),
    fresh.establish provider peerSeed before = .ok responder after

/-- The conversation of two connections before anything was sent. -/
def Conversation.beginning (initiator responder : Connection)
    (key preKey : X25519PublicKey) : Conversation
  | .initiator => ⟨initiator, [key], [], [], true⟩
  | .responder => ⟨responder, [preKey], [], [], true⟩

/-- Both sides derive the same first keys from the same secret. -/
theorem seedKeys_unique (dependable : provider.Dependable primitives usable)
    {seed peerSeed : SessionSeed} {before after peerBefore peerAfter : σ}
    {keys peerKeys : FixedBytes 32 × FixedBytes 32}
    (sameSecret : peerSeed.sharedSecret = seed.sharedSecret)
    (derived : RatchetState.seedKeys provider seed before = .ok keys after)
    (peerDerived : RatchetState.seedKeys provider peerSeed peerBefore = .ok peerKeys peerAfter) :
    peerKeys = keys := by
  simp only [RatchetState.seedKeys, sameSecret, Crypto.bind_eq_ok, Crypto.ofExcept_eq_ok,
    Crypto.pure_eq_ok] at derived peerDerived
  obtain ⟨secret, _, ⟨read, _⟩, rootKey, _, isRoot, chainKey, _, isChain, rfl, _⟩ := derived
  obtain ⟨peerSecret, _, ⟨peerRead, _⟩, peerRoot, _, isPeerRoot, peerChain, _, isPeerChain, rfl,
      _⟩ :=
    peerDerived
  cases read.symm.trans peerRead
  have derives : ∀ salt material info, Crypto.Returns (provider.hkdf salt material info 32)
      (primitives.derive salt material info 32) :=
    fun _ _ _ => dependable.derives (by decide)
  obtain rfl := ((derives none secret RatchetState.rootInfo).eq_of_ok isPeerRoot).trans
    ((derives none secret RatchetState.rootInfo).eq_of_ok isRoot).symm
  obtain rfl := ((derives none _ RatchetState.firstChainInfo).eq_of_ok isPeerChain).trans
    ((derives none _ RatchetState.firstChainInfo).eq_of_ok isChain).symm
  rfl

/-- The ledgers of a conversation that has just begun. -/
def initialLedger (pair preKey : X25519KeyPair) (chainKey : FixedBytes 32) : Side → List Turn
  | .initiator => [⟨pair, some chainKey, 0, 0⟩]
  | .responder => [⟨preKey, none, 0, 0⟩]

theorem properLedger_singleton {turn : Turn} (owns : primitives.Owns usable turn.pair)
    (isEmpty : turn.length = 0) : ProperLedger primitives usable [turn] where
  owns other member := by
    rw [List.mem_singleton.1 member]
    exact owns
  distinct := List.nodup_singleton _
  silent other member _ := by
    rw [List.mem_singleton.1 member]
    exact isEmpty
  previousLength place _ _ _ isLater := by
    have bound := (List.getElem?_eq_some_iff.1 isLater).1
    simp at bound

/-- The first state of either role knows the first turn of the other. -/
theorem reads_initial {limits : RatchetLimits} {seed : SessionSeed} {rootKey : FixedBytes 32}
    {keyPair : X25519KeyPair} {sendingChain receivingChain : Option Chain} {turn : Turn}
    (chain : receivingChain =
      turn.chainKey.map (fun first => primitives.chainAt .receiving first 0))
    (remoteKey : seed.remoteRatchetKey = some turn.publicKey ∨
      seed.remoteRatchetKey = none ∧ receivingChain.isSome = true) :
    Reads primitives [turn]
      (RatchetState.initial limits seed rootKey keyPair sendingChain receivingChain) [] true := by
  refine ⟨Connection.sound_initial _ _ _ _ _ _, ⟨turn, rfl, ?_, ?_, ?_, ?_⟩, ⟨?_, ?_⟩, ?_⟩
  · cases isFirst : turn.chainKey with
    | none => exact .inl ⟨rfl, by rw [RatchetState.initial, chain, isFirst]; rfl⟩
    | some first =>
      exact .inr ⟨first, 0, rfl, UInt32.zero_le, by
        rw [RatchetState.initial, chain, isFirst]; rfl⟩
  · exact remoteKey.imp_right (fun unknown => ⟨unknown.1, rfl, unknown.2⟩)
  · intro superseded member
    cases member
  · intro key member
    cases member
  · intro slot key found
    cases found
  · rintro _ slot other _ _ (older | ⟨_, position, isPosition, below⟩)
    · exact absurd older (UInt32.not_lt.2 UInt32.zero_le)
    · have isStart : position = 0 := by
        simp only [RatchetState.initial, chain, Option.map_map, Option.mem_def,
          Option.map_eq_some_iff] at isPosition
        obtain ⟨_, _, rfl⟩ := isPosition
        rfl
      exact absurd (isStart ▸ below) (UInt32.not_lt.2 UInt32.zero_le)
  · exact ReplayWindow.remembers_new _ _ _ _

/-- A conversation that has just begun is coherent, and the responder's turn is due. -/
theorem Begins.coherent (dependable : provider.Dependable primitives usable)
    {seed peerSeed : SessionSeed} {initiator responder : Connection} {key : X25519PublicKey}
    {preKey : X25519KeyPair}
    (begins : Begins provider primitives usable seed peerSeed initiator responder key preKey) :
    ∃ pair chainKey state,
      Coherent provider primitives usable seed.associatedData
        (Conversation.beginning initiator responder key preKey.publicKey)
        (initialLedger pair preKey chainKey) state ∧
      (∀ side, (state side).receivingGeneration = 0) ∧
      (state .initiator).remoteKey.isSome = true ∧
      (state .initiator).sendingChain.isSome = true ∧
      (state .initiator).sendingRatchetPending = false ∧
      (state .responder).sendingRatchetPending = true := by
  obtain ⟨fresh, _, _, established⟩ := begins.established
  obtain ⟨freshPeer, _, _, peerEstablished⟩ := begins.peerEstablished
  obtain ⟨first, seeded, rfl⟩ := Connection.establish_eq_ok established
  obtain ⟨second, peerSeeded, rfl⟩ := Connection.establish_eq_ok peerEstablished
  obtain ⟨rootKey, chainKey, _, keys, ⟨_, _, pair, generated, rfl⟩ | ⟨notInitiator, _⟩⟩ :=
    RatchetState.ofSeed_eq_ok seeded
  swap
  · rw [begins.role] at notInitiator
    cases notInitiator
  obtain ⟨peerRoot, peerChain, _, peerKeys, ⟨isInitiator, _⟩ | ⟨_, _, given, isGiven, rfl⟩⟩ :=
    RatchetState.ofSeed_eq_ok peerSeeded
  · rw [begins.peerRole] at isInitiator
    cases isInitiator
  obtain rfl : given = preKey := Option.some.inj (isGiven.symm.trans begins.pairGiven)
  have sameKeys := seedKeys_unique dependable begins.sharedSecret keys peerKeys
  cases sameKeys
  have isKey : pair.publicKey = key := by
    have isKey := begins.isKey
    cases isKey
    rfl
  have owns := dependable.generate_eq_ok generated
  let state : Side → RatchetState
    | .initiator => RatchetState.initial fresh.limits seed rootKey pair
        (some ⟨.sending, chainKey, 0⟩) none
    | .responder => RatchetState.initial freshPeer.limits peerSeed rootKey given none
        (some ⟨.receiving, chainKey, 0⟩)
  have pending : (state .initiator).sendingRatchetPending = false ∧
      (state .responder).sendingRatchetPending = true := by
    simp [state, RatchetState.initial, begins.role, begins.peerRole]
  refine ⟨pair, chainKey, state, ⟨?_, ?_, ?_, ⟨.initiator, rfl, rfl⟩⟩, ?_, ?_, rfl, pending⟩
  · intro side
    cases side <;> rfl
  · intro side
    cases side with
    | initiator => rfl
    | responder => exact begins.associatedData
  · intro side
    cases side with
    | initiator =>
      refine ⟨properLedger_singleton owns rfl, ?_, ⟨[], _, rfl, rfl, rfl, rfl⟩, ?_, ?_⟩
      · exact congrArg (fun key => [key]) isKey.symm
      · intro sent member
        cases member
      · refine reads_initial rfl ?_
        rcases begins.announced with unknown | known
        · exact .inr ⟨unknown, rfl⟩
        · exact .inl (known.trans (congrArg some isKey.symm))
    | responder =>
      refine ⟨properLedger_singleton begins.owns rfl, rfl, ⟨[], _, rfl, rfl, rfl, rfl⟩, ?_, ?_⟩
      · intro sent member
        cases member
      · exact reads_initial rfl (.inl begins.preKeyGiven)
  · intro side
    cases side <;> rfl
  · simp [state, RatchetState.initial, begins.preKeyGiven]

/-! ### Samples -/

/-- The connections of the sample seeds begin, whether or not the initiator's ratchet key is given
to the responder. -/
theorem Begins.sample (threshold : UInt32) {announced : Option X25519PublicKey}
    {initiator responder : Connection} {key : X25519PublicKey} {after peerAfter : Nat}
    (established : (Connection.new 1 (.sample threshold)).establish .transparent .sample 0 =
      .ok initiator after)
    (peerEstablished : (Connection.new 2 (.sample threshold)).establish .transparent
      { SessionSeed.samplePeer with remoteRatchetKey := announced } 0 = .ok responder peerAfter)
    (isKey : initiator.localRatchetKey = .ok key)
    (isAnnounced : announced = none ∨ announced = some key) :
    Begins Provider.transparent .transparent (fun _ => True) .sample
      { SessionSeed.samplePeer with remoteRatchetKey := announced } initiator responder key
      .sample where
  owns := ⟨trivial, rfl⟩
  role := rfl
  peerRole := rfl
  sharedSecret := rfl
  associatedData := rfl
  preKeyGiven := rfl
  pairGiven := rfl
  announced := isAnnounced
  isKey := isKey
  established := ⟨_, _, _, established⟩
  peerEstablished := ⟨_, _, _, peerEstablished⟩

end RatchetMessaging
