import RatchetMessaging.Proofs.Conversation.Beginning
import RatchetMessaging.Proofs.Conversation.Play

/-!
Contract: delivery in any order, while turns are taken in answer only.

Owns:
- `AnyOrder`, the conversations that arise when messages are sent by either side and delivered
  with loss, reordering and repetition among requests that fail, and no sending chain reaches its
  threshold;
- `Baton`, the invariant that at most one side can take a turn, and never while a turn is in
  flight to it;
- the first delivery of every message within the limits returns what was sent.

Does not own: turns that are forced or come from the threshold.
-/

namespace RatchetMessaging

namespace Endpoint

/-- The sending chain has not reached the position at which a turn is due. -/
def belowThreshold (endpoint : Endpoint) : Bool :=
  match endpoint.connection.phase with
  | .established state =>
    match state.sendingChain with
    | some chain => !chain.needsRatchet endpoint.connection.limits.chainRatchetThreshold
    | none => true
  | _ => true

/-- Whether a message would start a new receiving chain. -/
def startsChain (endpoint : Endpoint) (header : MessageHeader) : Bool :=
  match endpoint.connection.phase with
  | .established state => state.place header.ratchetKey = .ratchet
  | _ => false

end Endpoint

/-- The conversations that arise in any order of sending and delivery. A message of a chain that
the receiver has forgotten does not open, as an injected one does not. -/
inductive AnyOrder {σ : Type} (provider : Provider σ) (beginning : Conversation) :
    Conversation → Prop
  | beginning : AnyOrder provider beginning beginning
  | sent {conversation : Conversation} (reached : AnyOrder provider beginning conversation)
      (side : Side) {plaintext associatedData : Bytes} {message : RatchetMessage} {staged : Staged}
      {before after : σ} (below : (conversation side).belowThreshold = true)
      (encrypted : (conversation side).connection.stageEncrypt provider plaintext associatedData
        before = .ok (message, staged) after) :
      AnyOrder provider beginning (Function.update conversation side
        ((conversation side).afterSending ⟨message, plaintext, associatedData⟩ staged))
  | received {conversation : Conversation} (reached : AnyOrder provider beginning conversation)
      (side : Side) {sent : Sent} {plaintext : Bytes} {staged : Staged} {before after : σ}
      (member : sent ∈ (conversation side.other).sent)
      (decrypted : (conversation side).connection.stageDecrypt provider sent.message
        sent.associatedData before = .ok (plaintext, staged) after)
      (notForgotten : (conversation side).startsChain sent.message.header = true →
        (conversation side.other).ratchetKeys.getLast? = some sent.message.header.ratchetKey) :
      AnyOrder provider beginning (Function.update conversation side
        ((conversation side).afterReceiving sent.message.header staged))
  | failed {conversation : Conversation} (reached : AnyOrder provider beginning conversation)
      (side : Side) {request : Request} {before : σ} {failure : Error}
      (fails : ((conversation side).connection.attempt provider request before).result =
        .error failure) :
      AnyOrder provider beginning (Function.update conversation side
        { conversation side with
          connection :=
            ((conversation side).connection.attempt provider request before).connection })

variable {σ : Type} {provider : Provider σ} {primitives : Primitives}
  {usable : FixedBytes 32 → Prop} {session : Bytes} {before after : σ}
  {conversation : Conversation} {ledger : Side → List Turn} {state : Side → RatchetState}

/-! ### The baton -/

/-- Every turn is followed, and the next one is due at the holder. -/
structure Holds (ledger : Side → List Turn) (state : Side → RatchetState) (holder : Side) :
    Prop where
  followed : ∀ side, (ledger side.other).length = (state side).receivingGeneration.toNat + 1
  pending : (state holder).sendingRatchetPending = true
  notPending : (state holder.other).sendingRatchetPending = false
  remoteKey : (state holder.other).remoteKey.isSome = true

/-- The last turn of a side is in flight to the other, and no turn is due. -/
structure InFlight (ledger : Side → List Turn) (state : Side → RatchetState) (turner : Side) :
    Prop where
  followed : (ledger turner.other).length = (state turner).receivingGeneration.toNat + 1
  inFlight : (ledger turner).length = (state turner.other).receivingGeneration.toNat + 2
  notPending : ∀ side, (state side).sendingRatchetPending = false
  remoteKey : ∀ side, (state side).remoteKey.isSome = true

/-- One side holds the baton, or it is in flight. A side without a sending chain has its turn
due. -/
structure Baton (ledger : Side → List Turn) (state : Side → RatchetState) : Prop where
  baton : (∃ holder, Holds ledger state holder) ∨ ∃ turner, InFlight ledger state turner
  silent : ∀ side, (state side).sendingChain = none → (state side).sendingRatchetPending = true

/-- With the baton at a side, or in flight, each side has followed all turns of its peer but
at most one. -/
theorem Baton.length_le (baton : Baton ledger state) (side : Side) :
    (ledger side.other).length ≤ (state side).receivingGeneration.toNat + 2 := by
  rcases baton.baton with ⟨holder, holds⟩ | ⟨turner, flight⟩
  · have followed := holds.followed side
    omega
  · rcases Side.eq_or_eq_other turner side with rfl | rfl
    · have followed := flight.followed
      omega
    · have inFlight := flight.inFlight
      rw [Side.other_other]
      exact Nat.le_of_eq inFlight

/-- A side that has a turn of its peer to follow is the one to which the turn is in flight. -/
theorem Baton.inFlight_of_behind (baton : Baton ledger state) {side : Side}
    (behind : (state side).receivingGeneration.toNat + 1 < (ledger side.other).length) :
    InFlight ledger state side.other := by
  rcases baton.baton with ⟨holder, holds⟩ | ⟨turner, flight⟩
  · have followed := holds.followed side
    omega
  · rcases Side.eq_or_eq_other side turner with rfl | rfl
    · have followed := flight.followed
      omega
    · exact flight

/-- A side that does not know its peer's key has followed every turn. -/
theorem Baton.followed_of_unknown (baton : Baton ledger state) {side : Side}
    (unknown : (state side).remoteKey = none) :
    (ledger side.other).length = (state side).receivingGeneration.toNat + 1 := by
  rcases baton.baton with ⟨holder, holds⟩ | ⟨turner, flight⟩
  · exact holds.followed side
  · have known := flight.remoteKey side
    rw [unknown] at known
    cases known

/-- A side whose turn is due holds the baton. -/
theorem Baton.holds_of_pending (baton : Baton ledger state) {side : Side}
    (pending : (state side).sendingRatchetPending = true) : Holds ledger state side := by
  rcases baton.baton with ⟨holder, holds⟩ | ⟨turner, flight⟩
  · rcases Side.eq_or_eq_other holder side with rfl | rfl
    · exact holds
    · rw [holds.notPending] at pending
      cases pending
  · rw [flight.notPending side] at pending
    cases pending

/-- The baton stays where it is when nothing that it depends on changes. -/
theorem Baton.congr (baton : Baton ledger state) {nextLedger : Side → List Turn}
    {next : Side → RatchetState}
    (lengths : ∀ side, (nextLedger side).length = (ledger side).length)
    (same : ∀ side, (next side).receivingGeneration = (state side).receivingGeneration ∧
      (next side).sendingRatchetPending = (state side).sendingRatchetPending ∧
      ((state side).remoteKey.isSome = true → (next side).remoteKey.isSome = true) ∧
      ((next side).sendingChain = none → (state side).sendingChain = none)) :
    Baton nextLedger next := by
  choose generations pending known chains using same
  refine ⟨baton.baton.imp ?_ ?_,
    fun side noChain => (pending side).trans (baton.silent side (chains side noChain))⟩
  · rintro ⟨holder, holds⟩
    refine ⟨holder, fun side => ?_, ?_, ?_, known _ holds.remoteKey⟩
    · rw [lengths, generations]
      exact holds.followed side
    · exact (pending holder).trans holds.pending
    · exact (pending holder.other).trans holds.notPending
  · rintro ⟨turner, flight⟩
    refine ⟨turner, ?_, ?_, fun side => (pending side).trans (flight.notPending side),
      fun side => known side (flight.remoteKey side)⟩
    · rw [lengths, generations]
      exact flight.followed
    · rw [lengths, generations]
      exact flight.inFlight

/-! ### Steps -/

section Steps

variable {side : Side} {plaintext associatedData : Bytes} {message : RatchetMessage}
  {staged : Staged}

/-- Below the threshold a turn is due only in answer to one. -/
theorem Baton.pending_of_needsTurn (baton : Baton ledger state)
    (phase : (conversation side).connection.phase = .established (state side))
    (below : (conversation side).belowThreshold = true)
    (due : Connection.needsTurn (conversation side).connection.limits (state side) = true) :
    (state side).sendingRatchetPending = true := by
  unfold Endpoint.belowThreshold at below
  rw [phase] at below
  unfold Connection.needsTurn at due
  cases isChain : (state side).sendingChain with
  | none => exact baton.silent side isChain
  | some chain =>
    simp only [isChain] at below due
    rw [Bool.not_eq_true'] at below
    rw [below, Bool.or_false] at due
    exact due

/-- A message that is sent below the threshold keeps the baton, or puts it in flight. -/
theorem Baton.afterSending (dependable : provider.Dependable primitives usable)
    (coherent : Coherent provider primitives usable session conversation ledger state)
    (baton : Baton ledger state) (below : (conversation side).belowThreshold = true)
    (encrypted : (conversation side).connection.stageEncrypt provider plaintext associatedData
      before = .ok (message, staged) after)
    (distinct : ((conversation side).afterSending ⟨message, plaintext, associatedData⟩
      staged).ratchetKeys.Nodup) :
    ∃ ledger state,
      Coherent provider primitives usable session
        (Function.update conversation side
          ((conversation side).afterSending ⟨message, plaintext, associatedData⟩ staged))
        ledger state ∧ Baton ledger state := by
  cases due : Connection.needsTurn (conversation side).connection.limits (state side) with
  | false =>
    obtain ⟨closed, current, chain, isLedger, _, _, resulting, coherentNext⟩ :=
      coherent.sentMessage dependable encrypted due
    refine ⟨_, _, coherentNext, baton.congr (fun probe => ?_) (fun probe => ?_)⟩
    · rcases Side.eq_or_eq_other side probe with rfl | rfl
      · simp [isLedger]
      · simp
    · rcases Side.eq_or_eq_other side probe with rfl | rfl
      · simp [resulting]
      · simp
  | true =>
    have holds := baton.holds_of_pending
      (baton.pending_of_needsTurn (coherent.phase side) below due)
    have caughtUp := holds.followed side
    have peerCaughtUp := holds.followed side.other
    rw [Side.other_other] at peerCaughtUp
    have known := coherent.remoteKey_of_sends encrypted due
    obtain ⟨turn, chain, rootKey, previousLength, _, _, resulting, coherentNext⟩ :=
      coherent.sentTurn dependable encrypted due
        (coherent.remoteKey_of_caughtUp caughtUp known) caughtUp distinct
    refine ⟨_, _, coherentNext, .inr ⟨side, ?_, ?_, ?_, ?_⟩, ?_⟩
    · simpa [resulting] using caughtUp
    · simpa using peerCaughtUp
    · intro probe
      rcases Side.eq_or_eq_other side probe with rfl | rfl
      · simp [resulting]
      · simpa using holds.notPending
    · intro probe
      rcases Side.eq_or_eq_other side probe with rfl | rfl
      · simpa [resulting] using known
      · simpa using holds.remoteKey
    · intro probe noChain
      rcases Side.eq_or_eq_other side probe with rfl | rfl
      · simp [resulting] at noChain
      · simp only [Function.update_of_ne (Side.other_ne _)] at noChain ⊢
        exact baton.silent _ noChain

/-- A message that starts a new chain, under its sender's present key, is that of the next turn. -/
theorem Baton.timely
    (coherent : Coherent provider primitives usable session conversation ledger state)
    (baton : Baton ledger state) {header : MessageHeader}
    (notForgotten : (conversation side).startsChain header = true →
      (conversation side.other).ratchetKeys.getLast? = some header.ratchetKey) :
    Timely (ledger side.other) (state side) header := by
  intro place turn isTurn isKey
  obtain ⟨present, follows⟩ := (coherent.reads side).follows
  have half := coherent.half side.other
  have bound := (List.getElem?_eq_some_iff.1 isTurn).1
  refine ⟨fun unknown => ?_, fun placed => ?_⟩
  · have followed := baton.followed_of_unknown unknown
    rcases follows.remoteKey with known | ⟨_, isFirst, _⟩
    · rw [unknown] at known
      cases known
    · rw [followed, isFirst] at bound
      exact Nat.lt_one_iff.1 bound
  · rw [Endpoint.startsChain, coherent.phase side, isKey] at notForgotten
    have isLast := notForgotten (by simpa using placed)
    rw [half.ratchetKeys, List.getLast?_eq_getElem?, List.length_map, List.getElem?_map,
      Option.map_eq_some_iff] at isLast
    obtain ⟨last, isLast, sameKey⟩ := isLast
    have isPlace := half.proper.place_unique isLast isTurn sameKey
    have notPresent := follows.place_ne_of_ratchet isTurn placed
    have reached := (List.getElem?_eq_some_iff.1 follows.isPresent).1
    have atMostOne := baton.length_le side
    omega

/-- A message that is accepted keeps the baton, or takes it. -/
theorem Baton.afterReceiving (dependable : provider.Dependable primitives usable)
    (coherent : Coherent provider primitives usable session conversation ledger state)
    (baton : Baton ledger state) {sent : Sent} (member : sent ∈ (conversation side.other).sent)
    (decrypted : (conversation side).connection.stageDecrypt provider sent.message
      sent.associatedData before = .ok (plaintext, staged) after)
    (notForgotten : (conversation side).startsChain sent.message.header = true →
      (conversation side.other).ratchetKeys.getLast? = some sent.message.header.ratchetKey) :
    ∃ ledger state,
      Coherent provider primitives usable session
        (Function.update conversation side
          ((conversation side).afterReceiving sent.message.header staged))
        ledger state ∧ Baton ledger state := by
  have timely := baton.timely coherent notForgotten
  refine ⟨_, _, coherent.received dependable member timely decrypted, ?_⟩
  obtain ⟨_, changed, key, generation, _, isState, _, route, _, _, resulting⟩ :=
    Connection.stageDecrypt_eq_ok decrypted
  cases (coherent.phase side).symm.trans isState
  obtain ⟨_, sameChain, _, _, _, kept⟩ := route.frame
  by_cases placed : (state side).place sent.message.header.ratchetKey = .ratchet
  · obtain ⟨place, turn, _, _, isTurn, _, _, isHeader, _⟩ :=
      (coherent.half side.other).logged sent member
    have isKey : sent.message.header.ratchetKey = turn.publicKey := by
      rw [isHeader]
      rfl
    obtain rfl := (timely place turn isTurn isKey).2 (isKey ▸ placed)
    have flight := baton.inFlight_of_behind (List.getElem?_eq_some_iff.1 isTurn).1
    have inFlight := flight.inFlight
    have followed := flight.followed
    rw [Side.other_other] at inFlight followed
    obtain ⟨notLast, _, nextGeneration, remote, pending, _⟩ := route.turned placed
    have next := toNat_succ_of_ne_last notLast
    refine ⟨.inl ⟨side, fun probe => ?_, ?_, ?_, ?_⟩, fun probe noChain => ?_⟩
    · rcases Side.eq_or_eq_other side probe with rfl | rfl
      · simp [resulting, RatchetState.recording, nextGeneration, next, inFlight]
      · simpa using followed
    · simpa [resulting, RatchetState.recording] using pending
    · simpa using flight.notPending side.other
    · simpa using flight.remoteKey side.other
    · rcases Side.eq_or_eq_other side probe with rfl | rfl
      · simpa [resulting, RatchetState.recording] using pending
      · simp only [Function.update_of_ne (Side.other_ne _)] at noChain ⊢
        exact baton.silent _ noChain
  · obtain ⟨_, samePending, sameGeneration⟩ := kept placed
    refine baton.congr (fun _ => rfl) (fun probe => ?_)
    rcases Side.eq_or_eq_other side probe with rfl | rfl
    · simp only [Function.update_self, resulting, RatchetState.recording]
      exact ⟨sameGeneration, samePending, route.remoteKey, sameChain.symm.trans⟩
    · simp

end Steps

/-! ### Runs -/

section Runs

variable {seed peerSeed : SessionSeed} {initiator responder : Connection}
  {key : X25519PublicKey} {preKey : X25519KeyPair}

/-- At the beginning the responder holds the baton. -/
theorem Begins.baton (dependable : provider.Dependable primitives usable)
    (begins : Begins provider primitives usable seed peerSeed initiator responder key preKey) :
    ∃ ledger state,
      Coherent provider primitives usable seed.associatedData
        (Conversation.beginning initiator responder key preKey.publicKey) ledger state ∧
      Baton ledger state := by
  obtain ⟨pair, chainKey, state, coherent, generations, known, hasChain, notPending, pending⟩ :=
    begins.coherent dependable
  refine ⟨_, _, coherent, .inl ⟨.responder, fun side => ?_, pending, notPending, known⟩, ?_⟩
  · rw [generations]
    cases side <;> rfl
  · rintro (_ | _) noChain
    · rw [noChain] at hasChain
      cases hasChain
    · exact pending

/-- Every conversation in any order stays coherent, and one side at most can take a turn. -/
theorem AnyOrder.baton (dependable : provider.Dependable primitives usable)
    (begins : Begins provider primitives usable seed peerSeed initiator responder key preKey)
    (reached : AnyOrder provider
      (Conversation.beginning initiator responder key preKey.publicKey) conversation)
    (distinct : ∀ side, (conversation side).ratchetKeys.Nodup) :
    ∃ ledger state,
      Coherent provider primitives usable seed.associatedData conversation ledger state ∧
      Baton ledger state := by
  induction reached with
  | beginning => exact begins.baton dependable
  | sent reached side below encrypted inductionHypothesis =>
    obtain ⟨ledger, state, coherent, baton⟩ :=
      inductionHypothesis (Conversation.nodup_before_sending distinct)
    have distinctHere := distinct side
    rw [Function.update_self] at distinctHere
    exact baton.afterSending dependable coherent below encrypted distinctHere
  | received reached side member decrypted notForgotten inductionHypothesis =>
    obtain ⟨ledger, state, coherent, baton⟩ :=
      inductionHypothesis (Conversation.nodup_before_receiving distinct)
    exact baton.afterReceiving dependable coherent member decrypted notForgotten
  | failed reached side fails inductionHypothesis =>
    rw [Connection.attempt_of_error fails, Function.update_eq_self] at distinct ⊢
    exact inductionHypothesis distinct

/-- In any order of sending and delivery, among losses, repetitions and requests that fail, the
first delivery of every message within the limits of its receiver returns what was sent. -/
theorem decryptNext_of_anyOrder (dependable : provider.Dependable primitives usable)
    (begins : Begins provider primitives usable seed peerSeed initiator responder key preKey)
    (reached : AnyOrder provider
      (Conversation.beginning initiator responder key preKey.publicKey) conversation)
    (distinct : ∀ side, (conversation side).ratchetKeys.Nodup)
    (side : Side) {sent : Sent} (member : sent ∈ (conversation side.other).sent)
    (isFirst : sent.message.header ∉ (conversation side).accepted)
    (deliverable : (conversation side).Accommodates sent.message.header)
    (notForgotten : (conversation side).startsChain sent.message.header = true →
      (conversation side.other).ratchetKeys.getLast? = some sent.message.header.ratchetKey)
    (before : σ) :
    ∃ next after, (conversation side).connection.decryptNext provider sent.message
      sent.associatedData before = .ok (sent.plaintext, next) after := by
  obtain ⟨ledger, state, coherent, baton⟩ := reached.baton dependable begins distinct
  exact coherent.decryptNext_of_timely dependable member isFirst deliverable
    (baton.timely coherent notForgotten) before

end Runs

/-! ### A conversation in any order -/

/-- The strokes of conversations in any order. -/
def Conversation.inAnyOrder (conversation : Conversation) : Stroke σ → Staged → Bool
  | .send side _ _ _, _ => (conversation side).belowThreshold
  | .receive side number _, _ =>
    match (conversation side.other).sent[number]? with
    | none => false
    | some sent =>
      !(conversation side).startsChain sent.message.header ||
        (conversation side.other).ratchetKeys.getLast? = some sent.message.header.ratchetKey

theorem AnyOrder.of_play? {beginning : Conversation} {strokes : List (Stroke σ)}
    (played : Conversation.play? provider Conversation.inAnyOrder strokes beginning =
      some conversation) :
    AnyOrder provider beginning conversation := by
  refine Conversation.play?_induction ?_ AnyOrder.beginning played
  intro earlier stroke staged next reached leads admitted
  cases stroke with
  | send side plaintext associatedData crypto =>
    obtain ⟨message, _, encrypted, rfl⟩ := Conversation.stroke?_send_eq_some leads
    exact reached.sent side admitted encrypted
  | receive side number crypto =>
    obtain ⟨sent, _, _, isSent, decrypted, rfl⟩ := Conversation.stroke?_receive_eq_some leads
    refine reached.received side (List.mem_of_getElem? isSent) decrypted fun starts => ?_
    simpa [Conversation.inAnyOrder, isSent, starts] using admitted

/-- A message of a superseded chain can still be delivered. -/
def Endpoint.servesLate (endpoint : Endpoint) (header : MessageHeader) : Bool :=
  match endpoint.connection.phase with
  | .established state =>
    match state.place header.ratchetKey with
    | .previous generation =>
      (endpoint.roomy || state.skipped.contains ⟨generation, header.chainIndex⟩) &&
        state.replay.covers ⟨generation, header.chainIndex⟩
    | _ => false
  | _ => false

theorem Endpoint.accommodates_of_servesLate {endpoint : Endpoint} {header : MessageHeader}
    (serves : endpoint.servesLate header = true) :
    endpoint.Accommodates header ∧ endpoint.startsChain header = false := by
  unfold servesLate at serves
  split at serves
  · rename_i state isState
    split at serves
    · rename_i generation placed
      rw [Bool.and_eq_true, Bool.or_eq_true, ReplayWindow.covers_iff] at serves
      exact ⟨⟨state, isState, .late placed serves.1 serves.2⟩,
        by simp [startsChain, isState, placed]⟩
    · cases serves
  · cases serves

/-- The initiator's second message overtakes the first, and the responder answers with a turn. The
initiator goes on with a turn of its own, after which the first message arrives late. -/
def Stroke.sampleScript : List (Stroke Nat) :=
  [.send .initiator [0] [3] 5, .send .initiator [1] [3] 5, .send .initiator [2] [3] 5,
    .receive .responder 1 0, .send .responder [3] [] 7, .receive .initiator 0 0,
    .send .initiator [4] [3] 9, .receive .responder 3 0, .receive .responder 0 0]

/-- Both sides have taken a turn when the third message arrives on its superseded chain. -/
theorem decryptNext_of_anyOrder_sample :
    ∃ initiator responder key conversation sent,
      AnyOrder Provider.transparent
        (Conversation.beginning initiator responder key X25519KeyPair.sample.publicKey)
        conversation ∧
      (∀ side, (conversation side).ratchetKeys.length = 2) ∧
      (conversation .responder).accepted.length = 3 ∧
      sent ∈ (conversation .initiator).sent ∧ sent.plaintext = [2] ∧
      (conversation .responder).servesLate sent.message.header = true ∧
      ∀ before, ∃ next after, (conversation .responder).connection.decryptNext .transparent
        sent.message sent.associatedData before = .ok (sent.plaintext, next) after := by
  obtain ⟨initiator, responder, key, begins, shows⟩ :
      ∃ initiator responder key,
        Begins Provider.transparent .transparent (fun _ => True) .sample .samplePeer initiator
          responder key .sample ∧
        (Conversation.play? .transparent Conversation.inAnyOrder Stroke.sampleScript
            (Conversation.beginning initiator responder key
              X25519KeyPair.sample.publicKey)).any (fun conversation =>
          decide ((∀ side, (conversation side).ratchetKeys.length = 2) ∧
            (∀ side, (conversation side).ratchetKeys.Nodup) ∧
            (conversation .responder).accepted.length = 3) &&
          (conversation .initiator).sent[2]?.any (fun sent : Sent =>
            decide (sent.plaintext = [2] ∧
              sent.message.header ∉ (conversation .responder).accepted ∧
              (conversation .responder).servesLate sent.message.header = true))) = true :=
    ⟨_, _, _, .sample 100 rfl rfl rfl (.inl rfl), by decide +kernel⟩
  obtain ⟨conversation, played, isShown⟩ := (Option.any_eq_true _ _).1 shows
  simp only [Bool.and_eq_true, Option.any_eq_true, decide_eq_true_eq] at isShown
  obtain ⟨⟨turns, distinct, accepted⟩, sent, isSent, isPlaintext, isFirst, serves⟩ := isShown
  have reached := AnyOrder.of_play? played
  have member := List.mem_of_getElem? isSent
  obtain ⟨accommodates, continues⟩ := Endpoint.accommodates_of_servesLate serves
  refine ⟨initiator, responder, key, conversation, sent, reached, turns, accepted, member,
    isPlaintext, serves, ?_⟩
  refine decryptNext_of_anyOrder Provider.transparent_dependable begins reached distinct
    .responder member isFirst accommodates ?_
  intro starts
  rw [continues] at starts
  cases starts

end RatchetMessaging
