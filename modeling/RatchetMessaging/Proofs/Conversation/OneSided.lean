import RatchetMessaging.Proofs.Connection.Basic
import RatchetMessaging.Proofs.Conversation.Beginning

/-!
Contract: a session in which one side only sends, and takes turns that nobody answers.

Owns:
- `OneSided`, the conversations that arise when one side sends, at its threshold or on request with
  a turn, and its messages are delivered with loss, reordering and repetition among requests that
  fail;
- `InTurn`, for messages that do not start a chain ahead of one that the receiver has not followed;
- `PeerSilent`, the invariant that the silent side has taken no turn, and from it that the first
  delivery within the limits of a message in turn returns what was sent;
- a chain that is lost as a whole, after which the next one does not open.

Does not own: sessions in which both sides send.
-/

namespace RatchetMessaging

/-- The message starts no chain, or the one that follows those which its receiver has followed. -/
def Conversation.InTurn (conversation : Conversation) (receiver : Side) (header : MessageHeader) :
    Prop :=
  match (conversation receiver).connection.phase with
  | .established state =>
    match state.place header.ratchetKey with
    | .adopt generation =>
      (conversation receiver.other).ratchetKeys[generation.toNat]? = some header.ratchetKey
    | .ratchet =>
      (conversation receiver.other).ratchetKeys[state.receivingGeneration.toNat + 1]? =
        some header.ratchetKey
    | _ => True
  | _ => True

theorem Conversation.inTurn_of_ratchet {conversation : Conversation} {receiver : Side}
    {header : MessageHeader} {state : RatchetState}
    (isState : (conversation receiver).connection.phase = .established state)
    (placed : state.place header.ratchetKey = .ratchet)
    (next : (conversation receiver.other).ratchetKeys[state.receivingGeneration.toNat + 1]? =
      some header.ratchetKey) : conversation.InTurn receiver header := by
  simpa [InTurn, isState, placed] using next

/-- The conversations in which one side only sends, and its peer only receives. A message that
starts a chain out of turn does not open, as an injected one does not. -/
inductive OneSided {σ : Type} (provider : Provider σ) (sender : Side) (beginning : Conversation) :
    Conversation → Prop
  | beginning : OneSided provider sender beginning beginning
  | sent {conversation : Conversation}
      (reached : OneSided provider sender beginning conversation)
      {plaintext associatedData : Bytes} {message : RatchetMessage} {staged : Staged}
      {before after : σ}
      (encrypted : (conversation sender).connection.stageEncrypt provider plaintext associatedData
        before = .ok (message, staged) after) :
      OneSided provider sender beginning (Function.update conversation sender
        ((conversation sender).afterSending ⟨message, plaintext, associatedData⟩ staged))
  | forced {conversation : Conversation}
      (reached : OneSided provider sender beginning conversation) {next : Connection}
      (forces : (conversation sender).connection.forceRatchet = .ok next) :
      OneSided provider sender beginning (Function.update conversation sender
        { conversation sender with connection := next })
  | received {conversation : Conversation}
      (reached : OneSided provider sender beginning conversation)
      {sent : Sent} {plaintext : Bytes} {staged : Staged} {before after : σ}
      (member : sent ∈ (conversation sender).sent)
      (decrypted : (conversation sender.other).connection.stageDecrypt provider sent.message
        sent.associatedData before = .ok (plaintext, staged) after)
      (inTurn : conversation.InTurn sender.other sent.message.header) :
      OneSided provider sender beginning (Function.update conversation sender.other
        ((conversation sender.other).afterReceiving sent.message.header staged))
  | failed {conversation : Conversation}
      (reached : OneSided provider sender beginning conversation)
      (side : Side) {request : Request} {before : σ} {failure : Error}
      (fails : ((conversation side).connection.attempt provider request before).result =
        .error failure) :
      OneSided provider sender beginning (Function.update conversation side
        { conversation side with
          connection :=
            ((conversation side).connection.attempt provider request before).connection })

variable {σ : Type} {provider : Provider σ} {primitives : Primitives}
  {usable : FixedBytes 32 → Prop} {session : Bytes} {before after : σ}
  {conversation : Conversation} {ledger : Side → List Turn} {state : Side → RatchetState}
  {sender : Side}

/-! ### Turns on request -/

/-- A request for a turn changes nothing that the peer could know. -/
theorem Coherent.forced
    (coherent : Coherent provider primitives usable session conversation ledger state)
    {side : Side} {next : Connection}
    (forces : (conversation side).connection.forceRatchet = .ok next) :
    Coherent provider primitives usable session
      (Function.update conversation side { conversation side with connection := next }) ledger
      (Function.update state side { state side with sendingRatchetPending := true }) := by
  have isNext := Connection.forceRatchet_eq_ok (coherent.phase side) forces
  have half := coherent.half side
  obtain ⟨closed, current, isLedger, writes⟩ := half.writes
  rw [← Function.update_eq_self side ledger]
  refine coherent.replace (congrArg Connection.phase isNext) (coherent.sameSession side)
    ⟨half.proper, half.ratchetKeys, ⟨closed, current, isLedger, ?_⟩, half.logged, half.reads⟩
    (coherent.back ((coherent.reads side).sending _ _ _ _ _ _)) ?_
  · exact ⟨writes.keyPair, writes.chain, writes.previousLength⟩
  · obtain ⟨leader, leads⟩ := coherent.leads
    rw [Function.update_eq_self]
    refine ⟨leader, ?_⟩
    have caughtUp := leads.caughtUp
    have links := leads.links
    rcases Side.eq_or_eq_other side leader with rfl | rfl
    · exact ⟨by simpa using caughtUp, by simpa using links⟩
    · exact ⟨by simpa using caughtUp, by simpa using links⟩

/-! ### The invariant -/

/-- The silent side has had one key only, and the sender has followed no other. -/
structure PeerSilent (sender : Side) (ledger : Side → List Turn) (state : Side → RatchetState) :
    Prop where
  oneKey : (ledger sender.other).length = 1
  unmoved : (state sender).receivingGeneration = 0

theorem PeerSilent.caughtUp (silent : PeerSilent sender ledger state) :
    (ledger sender.other).length = (state sender).receivingGeneration.toNat + 1 := by
  rw [silent.oneKey, silent.unmoved]
  rfl

/-- A message in turn is that of a chain that the receiver knows or follows next. -/
theorem Coherent.timely_of_inTurn
    (coherent : Coherent provider primitives usable session conversation ledger state)
    {side : Side} {header : MessageHeader} (inTurn : conversation.InTurn side header) :
    Timely (ledger side.other) (state side) header := by
  intro place turn isTurn isKey
  obtain ⟨present, follows⟩ := (coherent.reads side).follows
  have half := coherent.half side.other
  unfold Conversation.InTurn at inTurn
  rw [coherent.phase side, half.ratchetKeys, isKey] at inTurn
  -- The key at a position of the list is that of the turn at that position of the ledger.
  have unique : ∀ position : Nat,
      ((ledger side.other).map Turn.publicKey)[position]? = some turn.publicKey →
        place = position := by
    intro position isPosition
    rw [List.getElem?_map, Option.map_eq_some_iff] at isPosition
    obtain ⟨other, isOther, same⟩ := isPosition
    exact half.proper.place_unique isTurn isOther same.symm
  constructor
  · intro unknown
    rcases follows.remoteKey with known | ⟨_, isFirst, hasChain⟩
    · rw [unknown] at known
      cases known
    · -- Before the first key is learnt there is no other to be known.
      have untracked : ¬ (state side).Tracks turn.publicKey := by
        rintro (remote | ⟨superseded, member, _⟩ | retired)
        · rw [unknown] at remote
          cases remote
        · have older := (follows.superseded superseded member).1
          rw [isFirst] at older
          exact UInt32.not_lt_zero older
        · obtain ⟨earlier, _, older, _⟩ := follows.retired _ retired
          rw [isFirst] at older
          exact Nat.not_lt_zero _ older
      have placed := RatchetState.place_of_not_tracks untracked
      rw [unknown, hasChain] at placed
      simp only [Option.isNone_none, Bool.and_self, if_true] at placed
      simp only [placed, isFirst] at inTurn
      exact unique 0 inTurn
  · intro placed
    simp only [placed] at inTurn
    exact unique _ inTurn

section Steps

variable {plaintext associatedData : Bytes} {message : RatchetMessage} {staged : Staged}

/-- A message of the only sender, with a turn or without, leaves its peer silent. -/
theorem PeerSilent.afterSending (dependable : provider.Dependable primitives usable)
    (coherent : Coherent provider primitives usable session conversation ledger state)
    (silent : PeerSilent sender ledger state)
    (encrypted : (conversation sender).connection.stageEncrypt provider plaintext associatedData
      before = .ok (message, staged) after)
    (distinct : ((conversation sender).afterSending ⟨message, plaintext, associatedData⟩
      staged).ratchetKeys.Nodup) :
    ∃ ledger state,
      Coherent provider primitives usable session
        (Function.update conversation sender
          ((conversation sender).afterSending ⟨message, plaintext, associatedData⟩ staged))
        ledger state ∧ PeerSilent sender ledger state := by
  cases due : Connection.needsTurn (conversation sender).connection.limits (state sender) with
  | false =>
    obtain ⟨closed, current, chain, _, _, _, resulting, coherentNext⟩ :=
      coherent.sentMessage dependable encrypted due
    refine ⟨_, _, coherentNext, by simpa using silent.oneKey, ?_⟩
    simpa [resulting] using silent.unmoved
  | true =>
    have known := coherent.remoteKey_of_sends encrypted due
    obtain ⟨turn, chain, rootKey, previousLength, _, _, resulting, coherentNext⟩ :=
      coherent.sentTurn dependable encrypted due
        (coherent.remoteKey_of_caughtUp silent.caughtUp known) silent.caughtUp distinct
    refine ⟨_, _, coherentNext, by simpa using silent.oneKey, ?_⟩
    simpa [resulting] using silent.unmoved

end Steps

/-! ### Runs -/

section Runs

variable {seed peerSeed : SessionSeed} {initiator responder : Connection}
  {key : X25519PublicKey} {preKey : X25519KeyPair}

/-- Every one-sided conversation stays coherent, and its silent side unanswering. -/
theorem OneSided.peerSilent (dependable : provider.Dependable primitives usable)
    (begins : Begins provider primitives usable seed peerSeed initiator responder key preKey)
    (reached : OneSided provider sender
      (Conversation.beginning initiator responder key preKey.publicKey) conversation)
    (distinct : ∀ side, (conversation side).ratchetKeys.Nodup) :
    ∃ ledger state,
      Coherent provider primitives usable seed.associatedData conversation ledger state ∧
      PeerSilent sender ledger state := by
  induction reached with
  | beginning =>
    obtain ⟨pair, chainKey, state, coherent, generations, _⟩ := begins.coherent dependable
    refine ⟨_, state, coherent, ?_, generations sender⟩
    cases sender <;> rfl
  | sent reached encrypted inductionHypothesis =>
    obtain ⟨ledger, state, coherent, silent⟩ :=
      inductionHypothesis (Conversation.nodup_before_sending distinct)
    have distinctHere := distinct sender
    rw [Function.update_self] at distinctHere
    exact silent.afterSending dependable coherent encrypted distinctHere
  | @forced conversation reached next forces inductionHypothesis =>
    have sameKeys : ∀ side, (conversation side).ratchetKeys.Nodup := by
      intro side
      have distinctSide := distinct side
      rcases Side.eq_or_eq_other sender side with rfl | rfl
      · simpa using distinctSide
      · simpa using distinctSide
    obtain ⟨ledger, state, coherent, silent⟩ := inductionHypothesis sameKeys
    exact ⟨ledger, _, coherent.forced forces, silent.oneKey,
      by simpa using silent.unmoved⟩
  | received reached member decrypted inTurn inductionHypothesis =>
    obtain ⟨ledger, state, coherent, silent⟩ :=
      inductionHypothesis (Conversation.nodup_before_receiving distinct)
    rw [← Side.other_other sender] at member
    have coherentNext :=
      coherent.received dependable member (coherent.timely_of_inTurn inTurn) decrypted
    refine ⟨ledger, _, coherentNext, silent.oneKey, ?_⟩
    rw [Function.update_of_ne (Side.other_ne sender).symm]
    exact silent.unmoved
  | failed reached side fails inductionHypothesis =>
    rw [Connection.attempt_of_error fails, Function.update_eq_self] at distinct ⊢
    exact inductionHypothesis distinct

/-- While one side only sends, with turns on request and at the threshold, and among losses,
reordering, repetitions and requests that fail: the first delivery of every message within the
limits of its receiver returns what was sent, as long as the message starts no chain ahead of one
that the receiver has not followed. -/
theorem decryptNext_of_oneSided (dependable : provider.Dependable primitives usable)
    (begins : Begins provider primitives usable seed peerSeed initiator responder key preKey)
    (reached : OneSided provider sender
      (Conversation.beginning initiator responder key preKey.publicKey) conversation)
    (distinct : ∀ side, (conversation side).ratchetKeys.Nodup) {sent : Sent}
    (member : sent ∈ (conversation sender).sent)
    (isFirst : sent.message.header ∉ (conversation sender.other).accepted)
    (deliverable : (conversation sender.other).Accommodates sent.message.header)
    (inTurn : conversation.InTurn sender.other sent.message.header) (before : σ) :
    ∃ next after, (conversation sender.other).connection.decryptNext provider sent.message
      sent.associatedData before = .ok (sent.plaintext, next) after := by
  obtain ⟨ledger, state, coherent, _⟩ := reached.peerSilent dependable begins distinct
  rw [← Side.other_other sender] at member
  exact coherent.decryptNext_of_timely dependable member isFirst deliverable
    (coherent.timely_of_inTurn inTurn) before

end Runs

/-- The first message is lost, and the one after a requested turn is received. -/
theorem decryptNext_of_oneSided_sample :
    ∃ initiator responder key conversation sent,
      OneSided Provider.transparent .initiator
        (Conversation.beginning initiator responder key X25519KeyPair.sample.publicKey)
        conversation ∧
      sent ∈ (conversation .initiator).sent ∧
      (conversation .initiator).ratchetKeys = [key, sent.message.header.ratchetKey] ∧
      ∀ before, ∃ next after, (conversation .responder).connection.decryptNext .transparent
        sent.message sent.associatedData before = .ok (sent.plaintext, next) after := by
  obtain ⟨initiator, responder, key, first, firstStaged, _, forced, second, secondStaged, _,
      begins, sent, forces, turned, stays, turns, distinct, accommodates, inTurn⟩ :
      ∃ initiator responder key first firstStaged firstAfter forced second secondStaged
        secondAfter,
        Begins Provider.transparent .transparent (fun _ => True) .sample
          { SessionSeed.samplePeer with remoteRatchetKey := some key } initiator responder key
          .sample ∧
        initiator.stageEncrypt .transparent [1] [] 1 = .ok (first, firstStaged) firstAfter ∧
        (initiator.commit firstStaged).forceRatchet = .ok forced ∧
        forced.stageEncrypt .transparent [2] [] 1 = .ok (second, secondStaged) secondAfter ∧
        firstStaged.ratcheted = false ∧ secondStaged.ratcheted = true ∧
        [key, second.header.ratchetKey].Nodup ∧
        (Endpoint.mk responder [X25519KeyPair.sample.publicKey] [] [] true).Accommodates
          second.header ∧
        (∀ state, responder.phase = .established state →
          state.place second.header.ratchetKey = .ratchet ∧ state.receivingGeneration = 0) :=
    ⟨_, _, _, _, _, _, _, _, _, _,
      .sample 100 rfl rfl rfl (.inr rfl),
      rfl, rfl, rfl, rfl, rfl, by decide +kernel,
      ⟨_, rfl, .turn (by decide +kernel) (by decide +kernel) (by rintro _ ⟨⟩ _; decide +kernel)
        (by decide +kernel)⟩, by rintro _ ⟨⟩; decide +kernel⟩
  have spoken : OneSided Provider.transparent .initiator
      (Conversation.beginning initiator responder key X25519KeyPair.sample.publicKey) _ :=
    .sent .beginning sent
  have reached := (spoken.forced forces).sent turned
  refine ⟨initiator, responder, key, _, ⟨second, [2], []⟩, reached, ?_, ?_, ?_⟩
  · simp [Endpoint.afterSending]
  · simp [Endpoint.afterSending, Conversation.beginning, stays, turns]
  · refine decryptNext_of_oneSided Provider.transparent_dependable begins reached ?_ ?_ ?_
      accommodates ?_
    · rintro (_ | _)
      · simpa [Endpoint.afterSending, Conversation.beginning, stays, turns] using distinct
      · simp [Conversation.beginning]
    · simp [Endpoint.afterSending]
    · exact List.not_mem_nil
    · obtain ⟨state, isState, _⟩ := accommodates
      obtain ⟨placed, isFirst⟩ := inTurn state isState
      refine Conversation.inTurn_of_ratchet isState placed ?_
      simp [Endpoint.afterSending, Conversation.beginning, Side.other, stays, turns, isFirst]

/-- Two turns on request, and a chain that is lost as a whole: the message of the next chain does
not open, though its receiver never sends, and every gap is within the limit. -/
theorem decryptNext_fails_of_lost_chain :
    ∃ initiator responder key conversation sent,
      Begins Provider.transparent .transparent (fun _ => True) .sample
        { SessionSeed.samplePeer with remoteRatchetKey := some key } initiator responder key
        .sample ∧
      OneSided Provider.transparent .initiator
        (Conversation.beginning initiator responder key X25519KeyPair.sample.publicKey)
        conversation ∧
      (∀ side, (conversation side).ratchetKeys.Nodup) ∧
      sent ∈ (conversation .initiator).sent ∧
      sent.message.header ∉ (conversation .responder).accepted ∧
      (conversation .responder).Accommodates sent.message.header ∧
      ((conversation .responder).connection.attempt .transparent
        (.decrypt sent.message sent.associatedData) 0).result = .error .decrypt := by
  obtain ⟨initiator, responder, key, forced, lost, lostStaged, _, forcedAgain, last, lastStaged, _,
      begins, forces, sent, forcesAgain, turned, turns, turnsAgain, distinct, accommodates,
      fails⟩ :
      ∃ initiator responder key forced lost lostStaged lostAfter forcedAgain last lastStaged
        lastAfter,
        Begins Provider.transparent .transparent (fun _ => True) .sample
          { SessionSeed.samplePeer with remoteRatchetKey := some key } initiator responder key
          .sample ∧
        initiator.forceRatchet = .ok forced ∧
        forced.stageEncrypt .transparent [1] [] 1 = .ok (lost, lostStaged) lostAfter ∧
        (forced.commit lostStaged).forceRatchet = .ok forcedAgain ∧
        forcedAgain.stageEncrypt .transparent [2] [] 2 = .ok (last, lastStaged) lastAfter ∧
        lostStaged.ratcheted = true ∧ lastStaged.ratcheted = true ∧
        [key, lost.header.ratchetKey, last.header.ratchetKey].Nodup ∧
        (Endpoint.mk responder [X25519KeyPair.sample.publicKey] [] [] true).Accommodates
          last.header ∧
        (responder.attempt .transparent (.decrypt last []) 0).result = .error .decrypt :=
    ⟨_, _, _, _, _, _, _, _, _, _, _,
      .sample 100 rfl rfl rfl (.inr rfl),
      rfl, rfl, rfl, rfl, rfl, rfl, by decide +kernel,
      ⟨_, rfl, .turn (by decide +kernel) (by decide +kernel) (by rintro _ ⟨⟩ _; decide +kernel)
        (by decide +kernel)⟩, by decide +kernel⟩
  have first : OneSided Provider.transparent .initiator
      (Conversation.beginning initiator responder key X25519KeyPair.sample.publicKey) _ :=
    .forced .beginning forces
  have second := first.sent sent
  have reached := (second.forced forcesAgain).sent turned
  refine ⟨initiator, responder, key, _, ⟨last, [2], []⟩, begins, reached, ?_, ?_,
    List.not_mem_nil, accommodates, fails⟩
  · rintro (_ | _)
    · simpa [Endpoint.afterSending, Conversation.beginning, turns, turnsAgain] using distinct
    · simp [Conversation.beginning]
  · simp [Endpoint.afterSending]

end RatchetMessaging
