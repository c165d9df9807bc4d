import RatchetMessaging.Proofs.Connection.Consistency
import RatchetMessaging.Proofs.Ratchet.SendingSide

/-!
Contract: the headers of the messages that a connection sends, one after the other.

Owns:
- the event on the sending side that a request causes, and the move that goes with it;
- `Logged`, a run of messages and requested turns with the events that it causes;
- along every such run, how the header of a message follows from the one before it, how far the
  indices go, and that no position is used twice.

Does not own: how the receiver counts the messages that it has missed.
-/

namespace RatchetMessaging

variable {σ : Type} {provider : Provider σ} {before after : σ}

/-- The key is the public one of the pair that the provider makes in this state. -/
def Provider.Makes (provider : Provider σ) (before : σ) (key : X25519PublicKey) : Prop :=
  ∃ pair drawn, X25519KeyPair.generate provider before = .ok pair drawn ∧ pair.publicKey = key

namespace Connection

variable {connection : Connection} {limits : RatchetLimits} {state : RatchetState}

/-! ### One request -/

/-- The event on the sending side that a request causes. A request that fails causes none. -/
def sendingEvent? (provider : Provider σ) (connection : Connection) (request : Request)
    (before : σ) : Option SendingEvent :=
  match request with
  | .encrypt plaintext associatedData =>
    match connection.stageEncrypt provider plaintext associatedData before with
    | .ok (message, staged) _ =>
      some (if staged.ratcheted then .turned message.header else .continued message.header)
    | .error _ _ => none
  | .forceRatchet =>
    match connection.forceRatchet with
    | .ok _ => some .asked
    | .error _ => none
  | .decrypt message associatedData =>
    match connection.stageDecrypt provider message associatedData before with
    | .ok (_, staged) _ => if staged.ratcheted then some .followed else none
    | .error _ _ => none
  | .restore _ => none

theorem due_of_needsTurn (due : needsTurn limits state = true) :
    state.sendingSide.Due limits.chainRatchetThreshold := by
  rcases Bool.or_eq_true_iff.1 due with pending | reached
  · exact .inl pending
  · right
    intro index isNext
    obtain ⟨chain, isChain, rfl⟩ := Option.map_eq_some_iff.1 isNext
    simpa [isChain, Chain.needsRatchet] using reached

theorem notDue_of_needsTurn (notDue : needsTurn limits state = false) {chain : Chain}
    (isChain : state.sendingChain = some chain) :
    state.sendingRatchetPending = false ∧ chain.index < limits.chainRatchetThreshold := by
  obtain ⟨notPending, below⟩ := Bool.or_eq_false_iff.1 notDue
  refine ⟨notPending, ?_⟩
  simpa [isChain, Chain.needsRatchet] using below

/-- A message moves the counters, and its header is the one that they give. -/
theorem SendsFrom.moves {source : RatchetState} {chain moved : Chain} {messageKey : MessageKey}
    {middle : σ} (sends : SendsFrom provider limits state before middle source)
    (isChain : source.sendingChain = some chain)
    (advanced : chain.advance provider middle = .ok (messageKey, moved) after) :
    state.sendingSide.Moves limits.chainRatchetThreshold (provider.Makes before)
      (some (if needsTurn limits state then .turned (headerAt source messageKey.index)
        else .continued (headerAt source messageKey.index)))
      (RatchetState.sendingSide { source with sendingChain := some moved }) := by
  obtain ⟨notLast, isIndex, isMoved⟩ := Chain.advance_eq_ok advanced
  cases sends with
  | same notDue =>
    obtain ⟨notPending, below⟩ := notDue_of_needsTurn notDue isChain
    have isNext : state.sendingSide.nextIndex = some chain.index := by
      rw [RatchetState.sendingSide, isChain]
      rfl
    have moves : state.sendingSide.Moves limits.chainRatchetThreshold (provider.Makes before) _ _ :=
      .continued notPending isNext below notLast
    rw [← isMoved] at moves
    rw [notDue, isIndex]
    exact moves
  | turned due turns =>
    obtain ⟨_, keyPair, _, _, _, drawn, _, _, generated, _, _, rfl⟩ :=
      RatchetState.sendingTurn_eq_ok turns
    cases isChain
    have isMade : provider.Makes before keyPair.publicKey := ⟨keyPair, drawn, generated, rfl⟩
    have moves := SendingSide.Moves.turned (due_of_needsTurn due) isMade
    rw [due, isIndex]
    show SendingSide.Moves _ _ _ _ ⟨_, _, some moved.index, _⟩
    rw [isMoved]
    exact moves

/-- A message of the peer leaves the counters alone, but after one that starts a new chain a turn
is due. -/
theorem Route.moves {header : MessageHeader} {key : FixedBytes 32} {generation : UInt32}
    {received : RatchetState} {middle : σ} {made : X25519PublicKey → Prop}
    (route : Route provider limits state header before middle key generation received)
    (slot : Slot) :
    state.sendingSide.Moves limits.chainRatchetThreshold made
      (if state.place header.ratchetKey = .ratchet then some .followed else none)
      (received.recording slot).sendingSide := by
  obtain ⟨samePair, sameChain, sameLength, _, _, kept⟩ := route.frame
  have counters : (received.recording slot).sendingSide =
      { state.sendingSide with pending := received.sendingRatchetPending } := by
    simp only [RatchetState.sendingSide, RatchetState.recording, samePair, sameChain, sameLength]
  rw [counters]
  split
  · rename_i placed
    obtain ⟨_, _, _, _, pending, _⟩ := route.turned placed
    rw [pending]
    exact .followed
  · rename_i notTurn
    rw [(kept notTurn).2.1]
    exact .rests

theorem ratcheted_of_receivingKey {header : MessageHeader} {key : FixedBytes 32}
    {generation : UInt32} {change : Change}
    (found : receivingKey provider limits state header before =
      .ok (key, generation, change) after) (accepted : Option Slot) :
    (Staged.mk change accepted).ratcheted = decide (state.place header.ratchetKey = .ratchet) := by
  cases placed : state.place header.ratchetKey with
  | current _ =>
    simp only [receivingKey, placed, Crypto.bind_eq_ok, Crypto.pure_eq_ok, Prod.exists,
      Prod.mk.injEq] at found
    obtain ⟨_, _, _, _, ⟨_, _, rfl⟩, _⟩ := found
    rfl
  | adopt _ =>
    simp only [receivingKey, placed, Crypto.bind_eq_ok, Crypto.pure_eq_ok, Prod.exists,
      Prod.mk.injEq] at found
    obtain ⟨_, _, _, _, ⟨_, _, rfl⟩, _⟩ := found
    rfl
  | previous generation =>
    cases cached : state.skipped.get? ⟨generation, header.chainIndex⟩ with
    | none => simp [receivingKey, placed, cached] at found
    | some held =>
      simp only [receivingKey, placed, cached, Crypto.pure_eq_ok, Prod.mk.injEq] at found
      obtain ⟨⟨_, _, rfl⟩, _⟩ := found
      rfl
  | ratchet =>
    simp only [receivingKey, placed, Crypto.bind_eq_ok, Crypto.pure_eq_ok, Prod.exists,
      Prod.mk.injEq] at found
    obtain ⟨_, _, _, _, _, _, _, ⟨_, _, rfl⟩, _⟩ := found
    rfl
  | retired => simp [receivingKey, placed] at found
  | unexpected => simp [receivingKey, placed] at found

/-- Receiving a message turns the ratchet exactly when its key is new. -/
theorem ratcheted_of_stageDecrypt {message : RatchetMessage} {associatedData plaintext : Bytes}
    {staged : Staged} (established : connection.phase = .established state)
    (decrypted : connection.stageDecrypt provider message associatedData before =
      .ok (plaintext, staged) after) :
    staged.ratcheted = decide (state.place message.header.ratchetKey = .ratchet) := by
  simp only [stageDecrypt, Crypto.bind_eq_ok, ofExcept_state_eq_ok] at decrypted
  obtain ⟨_, _, ⟨isState, rfl⟩, decrypted⟩ := decrypted
  cases established.symm.trans isState
  cases replayed : isReplayed state message.header with
  | true => simp [replayed, Crypto.bind_eq_ok] at decrypted
  | false =>
    simp only [replayed, Bool.false_eq_true, if_false, Crypto.bind_eq_ok, Crypto.pure_eq_ok,
      Prod.exists, Prod.mk.injEq] at decrypted
    obtain ⟨_, _, _, _, found, _, _, _, ⟨_, rfl⟩, _⟩ := decrypted
    exact ratcheted_of_receivingKey found _

theorem connection_attempt_of_ok {request : Request} {accepted : Option Acceptance}
    {next : Connection}
    (performed : connection.perform provider request before = .ok (accepted, next) after) :
    (connection.attempt provider request before).connection = next := by
  simp only [attempt, performed]

theorem connection_attempt_of_error {request : Request} {failure : Error}
    (failed : connection.perform provider request before = .error failure after) :
    (connection.attempt provider request before).connection = connection := by
  simp only [attempt, failed]

/-- One request, also one that fails, moves the counters as its event says. -/
theorem attempt_moves (isState : connection.phase = .established state) (provider : Provider σ)
    {request : Request} (keeps : request.keepsLimits = true) (before : σ) :
    ∃ result,
      (connection.attempt provider request before).connection =
        { connection with phase := .established result } ∧
      state.sendingSide.Moves connection.limits.chainRatchetThreshold (provider.Makes before)
        (connection.sendingEvent? provider request before) result.sendingSide := by
  have fails : ∀ {failure : Error} {after : σ},
      connection.perform provider request before = .error failure after →
      (connection.attempt provider request before).connection =
        { connection with phase := .established state } := by
    intro failure after failed
    rw [connection_attempt_of_error failed, ← isState]
  cases request with
  | encrypt plaintext associatedData =>
    cases encrypted : connection.stageEncrypt provider plaintext associatedData before with
    | error failure _ =>
      refine ⟨state, fails (Crypto.bind_of_error (Crypto.bind_of_error encrypted _) _), ?_⟩
      simpa only [sendingEvent?, encrypted] using SendingSide.Moves.rests
    | ok value _ =>
      obtain ⟨message, staged⟩ := value
      obtain ⟨_, source, _, moved, _, _, _, same, sends, isChain, advanced, _, isHeader, ratcheted,
        resulting⟩ := stageEncrypt_eq_ok encrypted
      cases isState.symm.trans same
      refine ⟨{ source with sendingChain := some moved }, ?_, ?_⟩
      · rw [← resulting, ← commit_of_established isState]
        exact connection_attempt_of_ok
          (Crypto.bind_eq_ok.2 ⟨_, _, Crypto.bind_eq_ok.2 ⟨_, _, encrypted, rfl⟩, rfl⟩)
      · simp only [sendingEvent?, encrypted, ratcheted, isHeader]
        exact sends.moves isChain advanced
  | forceRatchet =>
    cases forced : connection.forceRatchet with
    | error failure =>
      have refused : (Crypto.ofExcept connection.forceRatchet : Crypto σ Connection) before =
          .error failure before := by
        rw [forced]
        rfl
      refine ⟨state, fails (Crypto.bind_of_error refused _), ?_⟩
      simpa only [sendingEvent?, forced] using SendingSide.Moves.rests
    | ok next =>
      refine ⟨{ state with sendingRatchetPending := true }, ?_, ?_⟩
      · rw [← forceRatchet_eq_ok isState forced]
        exact connection_attempt_of_ok
          (Crypto.bind_eq_ok.2 ⟨_, _, Crypto.ofExcept_eq_ok.2 ⟨forced, rfl⟩, rfl⟩)
      · simp only [sendingEvent?, forced]
        exact .asked
  | decrypt message associatedData =>
    cases decrypted : connection.stageDecrypt provider message associatedData before with
    | error failure _ =>
      refine ⟨state, fails (Crypto.bind_of_error decrypted _), ?_⟩
      simpa only [sendingEvent?, decrypted] using SendingSide.Moves.rests
    | ok value _ =>
      obtain ⟨plaintext, staged⟩ := value
      have ratcheted := ratcheted_of_stageDecrypt isState decrypted
      obtain ⟨_, received, _, generation, _, same, _, route, _, _, resulting⟩ :=
        stageDecrypt_eq_ok decrypted
      cases isState.symm.trans same
      refine ⟨received.recording ⟨generation, message.header.chainIndex⟩, ?_, ?_⟩
      · rw [← resulting, ← commit_of_established isState]
        exact connection_attempt_of_ok (Crypto.bind_eq_ok.2 ⟨_, _, decrypted, rfl⟩)
      · simp only [sendingEvent?, decrypted, ratcheted, decide_eq_true_eq]
        exact route.moves _
  | restore _ => cases keeps

/-! ### Runs -/

/-- A run of messages and requested turns, each with a provider of its own, and the events that it
causes on the sending side, the oldest first. -/
inductive Logged (first : Connection) : List SendingEvent → Connection → Prop
  | start : Logged first [] first
  | step {σ : Type} {events : List SendingEvent} {middle : Connection}
      (logged : Logged first events middle) (provider : Provider σ) (request : Request)
      (keeps : request.keepsLimits = true) (before : σ) :
      Logged first (events ++ (middle.sendingEvent? provider request before).toList)
        (middle.attempt provider request before).connection

/-- The ratchet key under which a session sends before its first turn, if it can. -/
def openingKeys (first : Connection) : List X25519PublicKey :=
  match first.phase with
  | .established start => (start.sendingChain.map (fun _ => start.keyPair.publicKey)).toList
  | _ => []

section Runs

variable {first last : Connection} {events : List SendingEvent} {start : RatchetState}

theorem Logged.follows (logged : Logged first events last)
    (isStart : first.phase = .established start)
    (initially : start.sendingSide.Follows first.limits.chainRatchetThreshold []) :
    ∃ state, last = { first with phase := .established state } ∧
      state.sendingSide.Follows first.limits.chainRatchetThreshold events := by
  induction logged with
  | start => exact ⟨start, by rw [← isStart], initially⟩
  | step _ provider request keeps before inductionHypothesis =>
    obtain ⟨state, rfl, follows⟩ := inductionHypothesis
    have isState : Connection.phase { first with phase := .established state } =
      .established state := rfl
    obtain ⟨result, isResult, moves⟩ := attempt_moves isState provider keeps before
    exact ⟨result, isResult, moves.follows follows⟩

theorem Logged.numbers (logged : Logged first events last)
    (isStart : first.phase = .established start)
    (initially : start.sendingSide.Numbers (openingKeys first) [])
    (distinct : (openingKeys first ++ SendingEvent.freshKeys events).Nodup) :
    ∃ state, last = { first with phase := .established state } ∧
      state.sendingSide.Numbers (openingKeys first ++ SendingEvent.freshKeys events)
        (SendingEvent.headers events) := by
  induction logged with
  | start =>
    refine ⟨start, by rw [← isStart], ?_⟩
    rw [show SendingEvent.freshKeys [] = [] from rfl, List.append_nil]
    exact initially
  | @step _ events middle _ provider request keeps before inductionHypothesis =>
    -- The keys of the events before are a part of all keys.
    have keys : openingKeys first ++ SendingEvent.freshKeys
          (events ++ (middle.sendingEvent? provider request before).toList) =
        openingKeys first ++ SendingEvent.freshKeys events ++
          ((middle.sendingEvent? provider request before).bind SendingEvent.freshKey?).toList := by
      cases middle.sendingEvent? provider request before <;> simp
    rw [keys] at distinct ⊢
    obtain ⟨state, rfl, numbers⟩ := inductionHypothesis (List.nodup_append.1 distinct).1
    have isState : Connection.phase { first with phase := .established state } =
      .established state := rfl
    obtain ⟨result, isResult, moves⟩ := attempt_moves isState provider keeps before
    exact ⟨result, isResult, moves.numbers numbers distinct⟩

/-- The counters at the beginning of a session, in either role. -/
theorem sendingSide_of_ofSeed {seed : SessionSeed}
    (seeded : RatchetState.ofSeed provider limits seed before = .ok start after) :
    start.sendingSide.previousLength = 0 ∧
      start.sendingSide.pending = start.sendingSide.nextIndex.isNone ∧
      ∀ index, start.sendingSide.nextIndex = some index → index = 0 := by
  obtain ⟨_, _, _, _, ⟨role, _, _, _, rfl⟩ | ⟨role, _, _, _, rfl⟩⟩ :=
    RatchetState.ofSeed_eq_ok seeded
  · refine ⟨rfl, ?_, ?_⟩
    · simp [RatchetState.sendingSide, RatchetState.initial, role]
    · rintro _ ⟨⟩
      rfl
  · refine ⟨rfl, ?_, ?_⟩
    · simp [RatchetState.sendingSide, RatchetState.initial, role]
    · rintro _ ⟨⟩

theorem openingKeys_of_next (isStart : first.phase = .established start) {index : UInt32}
    (isNext : start.sendingSide.nextIndex = some index) :
    start.sendingSide.key ∈ openingKeys first := by
  obtain ⟨chain, isChain, _⟩ := Option.map_eq_some_iff.1 isNext
  simp [openingKeys, isStart, isChain, RatchetState.sendingSide]

/-- The headers of a session follow from each other. Along every run from its establishment, of
messages and requested turns, successful or not and with any provider at each step:

- every index is below the threshold at which a chain ends, or zero;
- while the fresh ratchet keys are distinct, no position occurs twice;
- the first message has index zero and no chain before it; a later one is on the chain of the one
  before, at the next index, unless a turn is due; then it is the first under a key that is made for
  it, and its header counts the messages under the key before. -/
theorem headers_follow_previous {seed : SessionSeed} {fresh : Connection}
    (established : fresh.establish provider seed before = .ok first after)
    (logged : Logged first events last) :
    (∀ header ∈ SendingEvent.headers events,
      header.chainIndex.toNat < max 1 fresh.limits.chainRatchetThreshold.toNat) ∧
    ((openingKeys first ++ SendingEvent.freshKeys events).Nodup →
      ((SendingEvent.headers events).map MessageHeader.position).Nodup) ∧
    ∀ {τ : Type} (sender : Provider τ) (plaintext associatedData : Bytes) (now later : τ)
      (message : RatchetMessage) (next : Connection),
      last.encryptNext sender plaintext associatedData now = .ok (message, next) later →
      (SendingEvent.headers events = [] →
        message.header.chainIndex = 0 ∧ message.header.previousChainLength = 0) ∧
      ∀ previous, (SendingEvent.headers events).getLast? = some previous →
        (¬ SendingEvent.TurnDue fresh.limits.chainRatchetThreshold events previous →
          message.header.ratchetKey = previous.ratchetKey ∧
          message.header.previousChainLength = previous.previousChainLength ∧
          message.header.chainIndex.toNat = previous.chainIndex.toNat + 1) ∧
        (SendingEvent.TurnDue fresh.limits.chainRatchetThreshold events previous →
          sender.Makes now message.header.ratchetKey ∧ message.header.chainIndex = 0 ∧
          message.header.previousChainLength.toNat = previous.chainIndex.toNat + 1 ∧
          ((openingKeys first ++ SendingEvent.freshKeys events).Nodup →
            message.header.previousChainLength.toNat = (SendingEvent.headers events).countP
              (fun header => header.ratchetKey = previous.ratchetKey))) := by
  obtain ⟨start, seeded, rfl⟩ := establish_eq_ok established
  obtain ⟨noPrevious, pending, unused⟩ := sendingSide_of_ofSeed seeded
  obtain ⟨state, rfl, follows⟩ :=
    logged.follows rfl (SendingSide.follows_nil noPrevious pending unused)
  have numbers := logged.numbers rfl
    (SendingSide.numbers_nil (fun _ isNext => openingKeys_of_next rfl isNext) unused)
  refine ⟨follows.below, ?_, ?_⟩
  · intro distinct
    obtain ⟨_, _, numbered⟩ := numbers distinct
    exact numbered.once
  · intro τ sender plaintext associatedData now later message next encrypted
    obtain ⟨_, encrypts, _⟩ := encryptNext_eq_ok encrypted
    obtain ⟨_, source, _, _, _, _, _, ⟨⟩, sends, isChain, advanced, _, isHeader, _⟩ :=
      stageEncrypt_eq_ok encrypts
    have moves := sends.moves isChain advanced
    rw [← isHeader] at moves
    have goesOut : SendingEvent.header? (if needsTurn fresh.limits state then
        .turned message.header else .continued message.header) = some message.header := by
      split <;> rfl
    obtain ⟨begins, goesOn⟩ := follows.header_of_moves moves goesOut
    refine ⟨begins, fun previous isLast => ⟨(goesOn previous isLast).1, fun due => ?_⟩⟩
    obtain ⟨isMade, isFirst, counted⟩ := (goesOn previous isLast).2 due
    refine ⟨isMade, isFirst, counted, fun distinct => ?_⟩
    obtain ⟨_, same, numbered⟩ := numbers distinct
    cases same
    obtain ⟨sameKey, _, index, isNext, isIndex⟩ := follows.goesOn previous isLast
    rw [counted, sameKey, numbered.countP_eq isNext, isIndex]

/-- Two messages go out and a turn is asked for: the third message is the first under a key of its
own, and its header counts the two. -/
theorem headers_follow_previous_sample :
    ∃ (first last next : Connection) (events : List SendingEvent) (previous : MessageHeader)
      (message : RatchetMessage),
      (∃ after, (new 1 (.sample 100)).establish .transparent .sample 0 = .ok first after) ∧
      Logged first events last ∧
      (∃ after, last.encryptNext .transparent [5] [3] 5 = .ok (message, next) after) ∧
      (SendingEvent.headers events).getLast? = some previous ∧ previous.chainIndex = 1 ∧
      SendingEvent.TurnDue 100 events previous ∧
      (openingKeys first ++ SendingEvent.freshKeys events).Nodup ∧
      Provider.transparent.Makes 5 message.header.ratchetKey ∧ message.header.chainIndex = 0 ∧
      message.header.previousChainLength.toNat = 2 ∧
      ((SendingEvent.headers events).map MessageHeader.position).Nodup := by
  obtain ⟨first, middle, reached, next, earlier, previous, message, ⟨_, established⟩,
      ⟨_, encrypted⟩, isMiddle, isReached, sentEarlier, sentPrevious, asked, isSecond, opening⟩ :
      ∃ (first middle reached next : Connection) (earlier previous : MessageHeader)
        (message : RatchetMessage),
        (∃ after, (new 1 (.sample 100)).establish .transparent .sample 0 = .ok first after) ∧
        (∃ after, (reached.attempt .transparent .forceRatchet 4).connection.encryptNext
          .transparent [5] [3] 5 = .ok (message, next) after) ∧
        (first.attempt .transparent (.encrypt [1] [3]) 2).connection = middle ∧
        (middle.attempt .transparent (.encrypt [2] [3]) 3).connection = reached ∧
        first.sendingEvent? .transparent (.encrypt [1] [3]) 2 = some (.continued earlier) ∧
        middle.sendingEvent? .transparent (.encrypt [2] [3]) 3 = some (.continued previous) ∧
        reached.sendingEvent? .transparent .forceRatchet 4 = some .asked ∧
        previous.chainIndex = 1 ∧ openingKeys first = [⟨.replicate 32 0⟩] :=
    ⟨_, _, _, _, _, _, _, ⟨_, rfl⟩, ⟨_, rfl⟩, rfl, rfl, rfl, rfl, rfl, rfl, by decide +kernel⟩
  subst isMiddle isReached
  have logged : Logged first _ _ :=
    ((Logged.start.step .transparent (.encrypt [1] [3]) rfl 2).step .transparent
      (.encrypt [2] [3]) rfl 3).step .transparent .forceRatchet rfl 4
  rw [sentEarlier, sentPrevious, asked] at logged
  obtain ⟨_, once, goesOn⟩ := headers_follow_previous established logged
  have isLast : (SendingEvent.headers
      ([] ++ [.continued earlier] ++ [.continued previous] ++ [.asked])).getLast? =
        some previous := rfl
  have due : SendingEvent.TurnDue 100
      ([] ++ [.continued earlier] ++ [.continued previous] ++ [.asked]) previous := .inl rfl
  have distinct : (openingKeys first ++ SendingEvent.freshKeys
      ([] ++ [.continued earlier] ++ [.continued previous] ++ [.asked])).Nodup := by
    rw [opening]
    exact List.nodup_singleton _
  obtain ⟨isMade, isFirst, counted, _⟩ := ((goesOn _ _ _ _ _ _ _ encrypted).2 _ isLast).2 due
  refine ⟨first, _, next, _, previous, message, ⟨_, established⟩, logged, ⟨_, encrypted⟩, isLast,
    isSecond, due, distinct, isMade, isFirst, ?_, once distinct⟩
  rw [counted, isSecond]
  rfl

end Runs

end Connection

end RatchetMessaging
