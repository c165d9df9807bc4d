import RatchetMessaging.Proofs.Conversation.Beginning
import RatchetMessaging.Proofs.Conversation.Pace
import RatchetMessaging.Proofs.Conversation.Play

/-!
Contract: delivery in the order of sending, with turns that do not cross.

Owns:
- `InOrder`, the conversations in which nothing is lost, each direction arrives in order, and a
  side takes a turn, in answer or at its threshold, only when no turn is in flight to it;
- `InStep`, the invariant that both readers keep pace with their writers;
- every delivered message decrypts, and a pair of turns that cross after which none does.

Does not own: turns that are forced.
-/

namespace RatchetMessaging

namespace Conversation

/-- The message that arrives next at a side. -/
def next? (conversation : Conversation) (side : Side) : Option Sent :=
  (conversation side.other).sent[(conversation side).accepted.length]?

/-- No turn is in flight to the side: it has followed every ratchet key that its peer has had. -/
def CaughtUp (conversation : Conversation) (side : Side) : Prop :=
  ∀ state, (conversation side).connection.phase = .established state →
    (conversation side.other).ratchetKeys.length = state.receivingGeneration.toNat + 1

end Conversation

/-- The conversations in which nothing is lost or overtaken, and turns are taken only by sides
that may. -/
inductive InOrder {σ : Type} (provider : Provider σ) (mayTurn : Conversation → Side → Prop)
    (beginning : Conversation) : Conversation → Prop
  | beginning : InOrder provider mayTurn beginning beginning
  | sent {conversation : Conversation} (reached : InOrder provider mayTurn beginning conversation)
      (side : Side) {plaintext associatedData : Bytes} {message : RatchetMessage} {staged : Staged}
      {before after : σ}
      (encrypted : (conversation side).connection.stageEncrypt provider plaintext associatedData
        before = .ok (message, staged) after)
      (allowed : staged.ratcheted = true → mayTurn conversation side) :
      InOrder provider mayTurn beginning (Function.update conversation side
        ((conversation side).afterSending ⟨message, plaintext, associatedData⟩ staged))
  | received {conversation : Conversation}
      (reached : InOrder provider mayTurn beginning conversation) (side : Side) {sent : Sent}
      {plaintext : Bytes} {staged : Staged} {before after : σ}
      (isNext : conversation.next? side = some sent)
      (decrypted : (conversation side).connection.stageDecrypt provider sent.message
        sent.associatedData before = .ok (plaintext, staged) after) :
      InOrder provider mayTurn beginning (Function.update conversation side
        ((conversation side).afterReceiving sent.message.header staged))
  | failed {conversation : Conversation} (reached : InOrder provider mayTurn beginning conversation)
      (side : Side) {request : Request} {before : σ} {failure : Error}
      (fails : ((conversation side).connection.attempt provider request before).result =
        .error failure) :
      InOrder provider mayTurn beginning (Function.update conversation side
        { conversation side with
          connection :=
            ((conversation side).connection.attempt provider request before).connection })

variable {σ : Type} {provider : Provider σ} {primitives : Primitives}
  {usable : FixedBytes 32 → Prop} {session : Bytes} {before after : σ}
  {conversation : Conversation} {ledger : Side → List Turn} {state : Side → RatchetState}

/-! ### Keeping step -/

/-- A side that has to learn its peer's key has taken no turn, and the peer takes none before it
has sent on its first chain. -/
structure Unanswered (conversation : Conversation) (ledger : Side → List Turn)
    (state : Side → RatchetState) (side : Side) : Prop where
  noTurn : (ledger side).length = 1
  notPending : (state side.other).sendingRatchetPending = false
  hasChain : (state side.other).sendingChain.isSome = true
  threshold : (conversation side.other).connection.limits.chainRatchetThreshold ≠ 0

/-- Both readers keep pace with their writers. -/
structure InStep (conversation : Conversation) (ledger : Side → List Turn)
    (state : Side → RatchetState) : Prop where
  pace : ∀ side, Pace (conversation side) (conversation side.other) (state side.other)
    (ledger side)
  unanswered : ∀ side, (state side).remoteKey = none → Unanswered conversation ledger state side

namespace InStep

variable {side : Side}

/-- What arrives next at a side is upcoming there. -/
theorem upcoming
    (coherent : Coherent provider primitives usable session conversation ledger state)
    (inStep : InStep conversation ledger state) {sent : Sent}
    (isNext : conversation.next? side = some sent) :
    Upcoming (ledger side.other) (state side) sent.message.header := by
  obtain ⟨present, follows⟩ := (coherent.reads side).follows
  have pace := inStep.pace side.other
  rw [Side.other_other] at pace
  exact pace.upcoming follows isNext

/-- Replace one side of a conversation. -/
theorem replace (inStep : InStep conversation ledger state) {endpoint : Endpoint}
    {changed : RatchetState} {grown : List Turn}
    (forth : Pace endpoint (conversation side.other) (state side.other) grown)
    (back : Pace (conversation side.other) endpoint changed (ledger side.other))
    (here : changed.remoteKey = none → (state side).remoteKey = none ∧ grown.length = 1)
    (there : (state side.other).remoteKey = none → changed.sendingRatchetPending = false ∧
      changed.sendingChain.isSome = true ∧
      endpoint.connection.limits = (conversation side).connection.limits) :
    InStep (Function.update conversation side endpoint) (Function.update ledger side grown)
      (Function.update state side changed) where
  pace probe := by
    rcases Side.eq_or_eq_other side probe with rfl | rfl
    · simpa using forth
    · simpa using back
  unanswered probe unknown := by
    rcases Side.eq_or_eq_other side probe with rfl | rfl
    · rw [Function.update_self] at unknown
      obtain ⟨wasUnknown, noTurn⟩ := here unknown
      have unanswered := inStep.unanswered _ wasUnknown
      exact ⟨by simpa using noTurn, by simpa using unanswered.notPending,
        by simpa using unanswered.hasChain, by simpa using unanswered.threshold⟩
    · rw [Function.update_of_ne (Side.other_ne _)] at unknown
      have unanswered := inStep.unanswered _ unknown
      obtain ⟨notPending, hasChain, limits⟩ := there unknown
      have threshold := unanswered.threshold
      rw [Side.other_other, ← limits] at threshold
      exact ⟨by simpa using unanswered.noTurn, by simpa using notPending,
        by simpa using hasChain, by simpa using threshold⟩

/-- Before the first turn of a peer whose key has to be learnt, the peer sends on its first
chain. -/
theorem spoken_of_needsTurn
    (coherent : Coherent provider primitives usable session conversation ledger state)
    (unanswered : Unanswered conversation ledger state side.other) {closed : List Turn}
    {current : Turn} (isLedger : ledger side = closed ++ [current])
    (due : Connection.needsTurn (conversation side).connection.limits (state side) = true) :
    0 < current.length := by
  obtain ⟨_, notPending, hasChain, threshold⟩ := unanswered
  rw [Side.other_other] at notPending hasChain threshold
  obtain ⟨otherClosed, last, isOther, writes⟩ := (coherent.half side).writes
  obtain ⟨_, same⟩ := List.append_inj' (isLedger.symm.trans isOther) rfl
  cases same
  rw [writes.chain, Option.isSome_map] at hasChain
  obtain ⟨first, isFirst⟩ := Option.isSome_iff_exists.1 hasChain
  unfold Connection.needsTurn at due
  rw [notPending, writes.chain, isFirst, Bool.false_or] at due
  have reached : (conversation side).connection.limits.chainRatchetThreshold ≤ current.length :=
    of_decide_eq_true due
  refine UInt32.lt_of_lt_of_le ?_ reached
  exact UInt32.pos_iff_ne_zero.2 threshold

section Steps

variable {plaintext associatedData : Bytes} {message : RatchetMessage} {staged : Staged}

/-- A message that is sent, with a turn that does not cross or without one, keeps both readers in
step. -/
theorem afterSending (dependable : provider.Dependable primitives usable)
    (coherent : Coherent provider primitives usable session conversation ledger state)
    (inStep : InStep conversation ledger state)
    (encrypted : (conversation side).connection.stageEncrypt provider plaintext associatedData
      before = .ok (message, staged) after)
    (uncrossed : staged.ratcheted = true → conversation.CaughtUp side)
    (distinct : ((conversation side).afterSending ⟨message, plaintext, associatedData⟩
      staged).ratchetKeys.Nodup) :
    ∃ ledger state,
      Coherent provider primitives usable session
        (Function.update conversation side
          ((conversation side).afterSending ⟨message, plaintext, associatedData⟩ staged))
        ledger state ∧
      InStep (Function.update conversation side
        ((conversation side).afterSending ⟨message, plaintext, associatedData⟩ staged))
        ledger state := by
  obtain ⟨_, follows⟩ := (coherent.half side).reads.follows
  have bound := (List.getElem?_eq_some_iff.1 follows.isPresent).1
  have pace := inStep.pace side
  have back := inStep.pace side.other
  rw [Side.other_other] at back
  have limits : ((conversation side).afterSending ⟨message, plaintext, associatedData⟩
      staged).connection.limits = (conversation side).connection.limits := by
    rw [Endpoint.afterSending, Connection.commit_of_established (coherent.phase side)]
  cases due : Connection.needsTurn (conversation side).connection.limits (state side) with
  | false =>
    obtain ⟨closed, current, chain, isLedger, notLast, isHeader, resulting, coherentNext⟩ :=
      coherent.sentMessage dependable encrypted due
    rw [isLedger] at pace bound
    refine ⟨_, _, coherentNext, inStep.replace (pace.sentMessage bound notLast isHeader) ?_ ?_ ?_⟩
    · rw [resulting]
      exact ⟨back.headers, back.spoken, back.count, back.behind, back.unknown⟩
    · rw [resulting]
      intro unknown
      have noTurn := (inStep.unanswered side unknown).noTurn
      rw [isLedger, List.length_append] at noTurn
      exact ⟨unknown, by rw [List.length_append]; exact noTurn⟩
    · rw [resulting]
      intro unknown
      have notPending := (inStep.unanswered side.other unknown).notPending
      rw [Side.other_other] at notPending
      exact ⟨notPending, rfl, limits⟩
  | true =>
    obtain ⟨_, _, _, _, _, _, _, isState, _, _, _, _, _, ratcheted, _⟩ :=
      Connection.stageEncrypt_eq_ok encrypted
    cases (coherent.phase side).symm.trans isState
    have caughtUp := uncrossed (ratcheted.trans due) _ (coherent.phase side)
    rw [(coherent.half side.other).ratchetKeys, List.length_map] at caughtUp
    have known := coherent.remoteKey_of_sends encrypted due
    obtain ⟨turn, chain, rootKey, previousLength, isShort, isHeader, resulting, coherentNext⟩ :=
      coherent.sentTurn dependable encrypted due
        (coherent.remoteKey_of_caughtUp caughtUp known) caughtUp distinct
    obtain ⟨closed, current, isLedger, _⟩ := (coherent.half side).writes
    rw [isLedger] at pace bound
    have begun : (state side.other).remoteKey = none → 0 < current.length := fun unknown =>
      spoken_of_needsTurn coherent (inStep.unanswered side.other unknown) isLedger due
    refine ⟨_, _, coherentNext, inStep.replace ?_ ?_ ?_ ?_⟩
    · rw [isLedger]
      exact pace.sentTurn bound isShort isHeader begun
    · rw [resulting]
      exact ⟨back.headers, back.spoken, back.count, back.behind, back.unknown⟩
    · rw [resulting]
      intro unknown
      change (state side).remoteKey = none at unknown
      rw [unknown] at known
      cases known
    · rw [resulting]
      exact fun _ => ⟨rfl, rfl, limits⟩

/-- The next message, when it is accepted, keeps both readers in step. -/
theorem afterReceiving (dependable : provider.Dependable primitives usable)
    (coherent : Coherent provider primitives usable session conversation ledger state)
    (inStep : InStep conversation ledger state) {sent : Sent}
    (isNext : conversation.next? side = some sent)
    (decrypted : (conversation side).connection.stageDecrypt provider sent.message
      sent.associatedData before = .ok (plaintext, staged) after) :
    ∃ ledger state,
      Coherent provider primitives usable session
        (Function.update conversation side
          ((conversation side).afterReceiving sent.message.header staged))
        ledger state ∧
      InStep (Function.update conversation side
        ((conversation side).afterReceiving sent.message.header staged)) ledger state := by
  obtain ⟨_, follows⟩ := (coherent.reads side).follows
  have proper := (coherent.half side.other).proper
  have upcoming := inStep.upcoming coherent isNext
  have timely := upcoming.timely proper follows
  have member := List.mem_of_getElem? isNext
  have coherentNext := coherent.received dependable member timely decrypted
  obtain ⟨_, changed, key, generation, _, isState, _, route, _, _, resulting⟩ :=
    Connection.stageDecrypt_eq_ok decrypted
  cases (coherent.phase side).symm.trans isState
  have forth := inStep.pace side
  have back := inStep.pace side.other
  rw [Side.other_other] at back
  obtain ⟨_, known, _⟩ := upcoming.passed_of_route proper follows route
  refine ⟨ledger, _, coherentNext, ?_⟩
  rw [← Function.update_eq_self side ledger]
  refine inStep.replace
    ⟨forth.headers, forth.spoken, forth.count, forth.behind, forth.unknown⟩ ?_ ?_ ?_
  · rw [resulting]
    exact back.received proper follows (coherent.reads side).sound upcoming route
  · rw [resulting]
    intro unknown
    change changed.remoteKey = none at unknown
    rw [unknown] at known
    cases known
  · rw [resulting]
    intro unknown
    obtain ⟨noTurn, notPending, hasChain, _⟩ := inStep.unanswered side.other unknown
    rw [Side.other_other] at notPending hasChain
    obtain ⟨_, sameChain, _, _, _, kept⟩ := route.frame
    -- A peer that knows no key of the side has taken no turn that could be followed.
    have notTurn : (state side).place sent.message.header.ratchetKey ≠ .ratchet := by
      intro placed
      obtain ⟨place, turn, _, _, isTurn, _, _, isHeader, _⟩ :=
        (coherent.half side.other).logged sent member
      have isKey : sent.message.header.ratchetKey = turn.publicKey := by rw [isHeader]; rfl
      have isPlace := (timely place turn isTurn isKey).2 (isKey ▸ placed)
      have bound := (List.getElem?_eq_some_iff.1 isTurn).1
      omega
    refine ⟨(kept notTurn).2.1.trans notPending, ?_, ?_⟩
    · change changed.sendingChain.isSome = true
      rw [sameChain]
      exact hasChain
    · rw [Endpoint.afterReceiving, Connection.commit_of_established (coherent.phase side)]

end Steps

end InStep

/-! ### Runs -/

section Runs

variable {seed peerSeed : SessionSeed} {initiator responder : Connection}
  {key : X25519PublicKey} {preKey : X25519KeyPair}

theorem Begins.inStep (dependable : provider.Dependable primitives usable)
    (begins : Begins provider primitives usable seed peerSeed initiator responder key preKey)
    (threshold : initiator.limits.chainRatchetThreshold ≠ 0) :
    ∃ ledger state,
      Coherent provider primitives usable seed.associatedData
        (Conversation.beginning initiator responder key preKey.publicKey) ledger state ∧
      InStep (Conversation.beginning initiator responder key preKey.publicKey) ledger state := by
  obtain ⟨pair, chainKey, state, coherent, generations, known, hasChain, notPending, _⟩ :=
    begins.coherent dependable
  refine ⟨_, _, coherent, ⟨fun side => ?_, ?_⟩⟩
  · obtain ⟨present, follows⟩ := (coherent.half side).reads.follows
    have atStart : (state side.other).position = 0 := by
      have within := follows.position_le
      have isPresent := follows.isPresent
      rw [generations] at isPresent
      cases side with
      | initiator =>
        cases isPresent
        exact Nat.le_zero.1 within
      | responder =>
        cases isPresent
        exact Nat.le_zero.1 within
    have passed : (state side.other).passed (initialLedger pair preKey chainKey side) = 0 := by
      rw [RatchetState.passed, generations, atStart]
      rfl
    refine ⟨?_, ?_, ?_, ?_, ?_⟩
    · cases side <;> rfl
    · intro place turn isTurn
      cases side <;> cases isTurn
    · rw [passed]
      cases side <;> rfl
    · intro header member
      cases side <;> cases member
    · intro _
      cases side <;> exact ⟨rfl, fun long => absurd long (Nat.lt_irrefl 1)⟩
  · rintro (_ | _) unknown
    · rw [unknown] at known
      cases known
    · exact ⟨rfl, notPending, hasChain, threshold⟩

/-- Every conversation in order stays coherent, and both readers keep in step. -/
theorem InOrder.inStep (dependable : provider.Dependable primitives usable)
    (begins : Begins provider primitives usable seed peerSeed initiator responder key preKey)
    (threshold : initiator.limits.chainRatchetThreshold ≠ 0)
    (reached : InOrder provider Conversation.CaughtUp
      (Conversation.beginning initiator responder key preKey.publicKey) conversation)
    (distinct : ∀ side, (conversation side).ratchetKeys.Nodup) :
    ∃ ledger state,
      Coherent provider primitives usable seed.associatedData conversation ledger state ∧
      InStep conversation ledger state := by
  induction reached with
  | beginning => exact begins.inStep dependable threshold
  | sent reached side encrypted allowed inductionHypothesis =>
    obtain ⟨ledger, state, coherent, inStep⟩ :=
      inductionHypothesis (Conversation.nodup_before_sending distinct)
    have distinctHere := distinct side
    rw [Function.update_self] at distinctHere
    exact inStep.afterSending dependable coherent encrypted allowed distinctHere
  | received reached side isNext decrypted inductionHypothesis =>
    obtain ⟨ledger, state, coherent, inStep⟩ :=
      inductionHypothesis (Conversation.nodup_before_receiving distinct)
    exact inStep.afterReceiving dependable coherent isNext decrypted
  | failed reached side fails inductionHypothesis =>
    rw [Connection.attempt_of_error fails, Function.update_eq_self] at distinct ⊢
    exact inductionHypothesis distinct

/-- While turns do not cross, every message that is delivered in order decrypts to what was
sent. -/
theorem decryptNext_of_inOrder (dependable : provider.Dependable primitives usable)
    (begins : Begins provider primitives usable seed peerSeed initiator responder key preKey)
    (threshold : initiator.limits.chainRatchetThreshold ≠ 0)
    (reached : InOrder provider Conversation.CaughtUp
      (Conversation.beginning initiator responder key preKey.publicKey) conversation)
    (distinct : ∀ side, (conversation side).ratchetKeys.Nodup)
    (side : Side) {sent : Sent} (isNext : conversation.next? side = some sent)
    (bounded : (conversation side.other).ratchetKeys.length ≤ 2 ^ 32) (before : σ) :
    ∃ next after, (conversation side).connection.decryptNext provider sent.message
      sent.associatedData before = .ok (sent.plaintext, next) after := by
  obtain ⟨ledger, state, coherent, inStep⟩ := reached.inStep dependable begins threshold distinct
  obtain ⟨_, follows⟩ := (coherent.reads side).follows
  have half := coherent.half side.other
  have upcoming := inStep.upcoming coherent isNext
  have pace := inStep.pace side.other
  rw [Side.other_other] at pace
  rw [half.ratchetKeys, List.length_map] at bounded
  exact coherent.decryptNext_of_timely dependable (List.mem_of_getElem? isNext)
    (pace.not_accepted half.proper upcoming)
    ⟨_, coherent.phase side, upcoming.deliverable half.proper follows bounded⟩
    (upcoming.timely half.proper follows) before

end Runs

/-! ### A conversation in order -/

instance (conversation : Conversation) (side : Side) : Decidable (conversation.CaughtUp side) :=
  match isPhase : (conversation side).connection.phase with
  | .established state =>
    decidable_of_iff
      ((conversation side.other).ratchetKeys.length = state.receivingGeneration.toNat + 1)
      ⟨fun caughtUp _ isState => by
        cases isPhase.symm.trans isState
        exact caughtUp, fun caughtUp => caughtUp state isPhase⟩
  | .unestablished => .isTrue fun _ isState => nomatch isPhase.symm.trans isState
  | .closed => .isTrue fun _ isState => nomatch isPhase.symm.trans isState

/-- The strokes of conversations in order. -/
def Conversation.inOrder (conversation : Conversation) : Stroke σ → Staged → Bool
  | .send side _ _ _, staged => !staged.ratcheted || conversation.CaughtUp side
  | .receive side number _, _ => number = (conversation side).accepted.length

theorem InOrder.of_play? {beginning : Conversation} {strokes : List (Stroke σ)}
    (played : Conversation.play? provider Conversation.inOrder strokes beginning =
      some conversation) :
    InOrder provider Conversation.CaughtUp beginning conversation := by
  refine Conversation.play?_induction ?_ InOrder.beginning played
  intro earlier stroke staged next reached leads admitted
  cases stroke with
  | send side plaintext associatedData crypto =>
    obtain ⟨message, _, encrypted, rfl⟩ := Conversation.stroke?_send_eq_some leads
    refine reached.sent side encrypted fun ratcheted => ?_
    simpa [Conversation.inOrder, ratcheted] using admitted
  | receive side number crypto =>
    obtain ⟨sent, _, _, isSent, decrypted, rfl⟩ := Conversation.stroke?_receive_eq_some leads
    rw [of_decide_eq_true admitted] at isSent
    exact reached.received side isSent decrypted

/-- Each side takes a turn in answer and then one at its threshold, which no turn of the peer
crosses. -/
def Stroke.thresholdScript : List (Stroke Nat) :=
  [.send .initiator [0] [3] 5, .receive .responder 0 0, .send .responder [1] [] 7,
    .receive .initiator 0 0, .send .responder [2] [] 9, .receive .initiator 1 0,
    .send .initiator [3] [3] 11, .send .initiator [4] [3] 13, .receive .responder 1 0]

/-- Both sides have taken two turns when the message of the last one arrives. -/
theorem decryptNext_of_inOrder_sample :
    ∃ initiator responder key conversation sent,
      initiator.limits = .sample 1 ∧ responder.limits = .sample 1 ∧
      InOrder Provider.transparent Conversation.CaughtUp
        (Conversation.beginning initiator responder key X25519KeyPair.sample.publicKey)
        conversation ∧
      (∀ side, (conversation side).ratchetKeys.length = 3) ∧
      conversation.next? .responder = some sent ∧ sent.plaintext = [4] ∧
      ∀ before, ∃ next after, (conversation .responder).connection.decryptNext .transparent
        sent.message sent.associatedData before = .ok (sent.plaintext, next) after := by
  obtain ⟨initiator, responder, key, limits, peerLimits, begins, shows⟩ :
      ∃ initiator responder key,
        initiator.limits = .sample 1 ∧ responder.limits = .sample 1 ∧
        Begins Provider.transparent .transparent (fun _ => True) .sample .samplePeer initiator
          responder key .sample ∧
        (Conversation.play? .transparent Conversation.inOrder Stroke.thresholdScript
            (Conversation.beginning initiator responder key
              X25519KeyPair.sample.publicKey)).any (fun conversation =>
          decide ((∀ side, (conversation side).ratchetKeys.length = 3) ∧
            ∀ side, (conversation side).ratchetKeys.Nodup) &&
          (conversation.next? .responder).any (fun sent : Sent => sent.plaintext = [4])) = true :=
    ⟨_, _, _, rfl, rfl, .sample 1 rfl rfl rfl (.inl rfl), by decide +kernel⟩
  obtain ⟨conversation, played, isShown⟩ := (Option.any_eq_true _ _).1 shows
  simp only [Bool.and_eq_true, Option.any_eq_true, decide_eq_true_eq] at isShown
  obtain ⟨⟨turns, distinct⟩, sent, isNext, isPlaintext⟩ := isShown
  have reached := InOrder.of_play? played
  refine ⟨initiator, responder, key, conversation, sent, limits, peerLimits, reached, turns, isNext,
    isPlaintext, ?_⟩
  refine decryptNext_of_inOrder Provider.transparent_dependable begins ?_ reached distinct
    .responder isNext ?_
  · rw [limits]
    decide
  · rw [turns]
    decide

/-- Turns that cross part the sides: the responder takes its first turn, and before it arrives the
initiator takes one at its threshold. The message of the first turn arrives next, and fails. -/
theorem decryptNext_fails_of_crossing :
    ∃ initiator responder key conversation sent,
      Begins Provider.transparent .transparent (fun _ => True) .sample
        { SessionSeed.samplePeer with remoteRatchetKey := some key } initiator responder key
        .sample ∧
      initiator.limits = .sample 1 ∧ responder.limits = .sample 1 ∧
      InOrder Provider.transparent (fun _ _ => True)
        (Conversation.beginning initiator responder key X25519KeyPair.sample.publicKey)
        conversation ∧
      (∀ side, (conversation side).ratchetKeys.Nodup) ∧
      conversation.next? .initiator = some sent ∧
      ((conversation .initiator).connection.attempt .transparent
        (.decrypt sent.message sent.associatedData) 0).result = .error .decrypt := by
  obtain ⟨initiator, responder, key, answer, answerStaged, _, first, firstStaged, _, turn,
      turnStaged, _, begins, limits, peerLimits, answered, sent, turned, answers, stays, turns,
      distinct, peerDistinct, fails⟩ :
      ∃ initiator responder key answer answerStaged answerAfter first firstStaged firstAfter turn
        turnStaged turnAfter,
        Begins Provider.transparent .transparent (fun _ => True) .sample
          { SessionSeed.samplePeer with remoteRatchetKey := some key } initiator responder key
          .sample ∧
        initiator.limits = .sample 1 ∧ responder.limits = .sample 1 ∧
        responder.stageEncrypt .transparent [1] [] 1 = .ok (answer, answerStaged) answerAfter ∧
        initiator.stageEncrypt .transparent [2] [] 2 = .ok (first, firstStaged) firstAfter ∧
        (initiator.commit firstStaged).stageEncrypt .transparent [3] [] 2 =
          .ok (turn, turnStaged) turnAfter ∧
        answerStaged.ratcheted = true ∧ firstStaged.ratcheted = false ∧
        turnStaged.ratcheted = true ∧
        [key, turn.header.ratchetKey].Nodup ∧
        [X25519KeyPair.sample.publicKey, answer.header.ratchetKey].Nodup ∧
        (((initiator.commit firstStaged).commit turnStaged).attempt .transparent
          (.decrypt answer []) 0).result = .error .decrypt :=
    ⟨_, _, _, _, _, _, _, _, _, _, _, _,
      .sample 1 rfl rfl rfl (.inr rfl),
      rfl, rfl, rfl, rfl, rfl, rfl, rfl, rfl, by decide +kernel, by decide +kernel,
      by decide +kernel⟩
  have crossed : InOrder Provider.transparent (fun _ _ => True)
      (Conversation.beginning initiator responder key X25519KeyPair.sample.publicKey) _ :=
    ((InOrder.beginning.sent .responder answered (fun _ => trivial)).sent .initiator sent
      (fun _ => trivial)).sent .initiator turned (fun _ => trivial)
  refine ⟨initiator, responder, key, _, ⟨answer, [1], []⟩, begins, limits, peerLimits, crossed,
    ?_, rfl, fails⟩
  rintro (_ | _)
  · simpa [Endpoint.afterSending, Conversation.beginning, stays, turns] using distinct
  · simpa [Endpoint.afterSending, Conversation.beginning, answers] using peerDistinct

end RatchetMessaging
