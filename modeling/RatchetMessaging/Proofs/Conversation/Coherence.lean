import RatchetMessaging.Proofs.Conversation.Sending

/-!
Contract: a conversation stays coherent as messages are sent and received.

Owns:
- the laws of `Links` and `Leads`: a side that has followed every turn of its peer may lead, and
  only it may take a turn;
- `Timely`, for messages of a turn that the receiver knows or has to follow next;
- the coherence of the conversation after a message is sent, with a turn or without, and after a
  timely message is accepted.

Does not own: schedules, which decide whether turns cross and messages are timely.
-/

namespace RatchetMessaging

variable {σ : Type} {provider : Provider σ} {primitives : Primitives}
  {usable : FixedBytes 32 → Prop} {session : Bytes} {before after : σ}
  {conversation : Conversation} {ledger : Side → List Turn} {state : Side → RatchetState}

/-! ### Root keys -/

section Links

variable {secret rootKey final : FixedBytes 32} {turns : List Turn} {turn : Turn}

theorem Links.append (links : Links primitives secret rootKey turns final)
    (isFirst : turn.chainKey =
      some (primitives.stepRoot final (primitives.agree secret turn.pair.secret)).2) :
    Links primitives secret rootKey (turns ++ [turn])
      (primitives.stepRoot final (primitives.agree secret turn.pair.secret)).1 := by
  induction turns generalizing rootKey with
  | nil =>
    cases links
    exact ⟨isFirst, rfl⟩
  | cons first rest inductionHypothesis =>
    obtain ⟨isNext, others⟩ := links
    exact ⟨isNext, inductionHypothesis others⟩

/-- Only the pairs and the first keys of the turns matter. -/
theorem Links.congr {others : List Turn}
    (same : turns.map (fun turn => (turn.pair, turn.chainKey)) =
      others.map (fun turn => (turn.pair, turn.chainKey)))
    (links : Links primitives secret rootKey turns final) :
    Links primitives secret rootKey others final := by
  induction turns generalizing rootKey others with
  | nil =>
    cases others with
    | nil => exact links
    | cons _ _ => cases same
  | cons first rest inductionHypothesis =>
    cases others with
    | nil => cases same
    | cons second others =>
      simp only [List.map_cons, List.cons.injEq, Prod.mk.injEq] at same
      obtain ⟨⟨samePair, sameKey⟩, sameRest⟩ := same
      obtain ⟨isNext, links⟩ := links
      rw [samePair] at isNext links
      exact ⟨sameKey ▸ isNext, inductionHypothesis sameRest links⟩

end Links

section Leads

variable {leader side : Side}

/-- A side that has followed every turn of its peer leads. -/
theorem Leads.of_caughtUp (leads : Leads primitives ledger state leader)
    (caughtUp : (ledger side.other).length = (state side).receivingGeneration.toNat + 1) :
    Leads primitives ledger state side := by
  rcases Side.eq_or_eq_other side leader with rfl | rfl
  · exact leads
  · have peerCaughtUp := leads.caughtUp
    have links := leads.links
    rw [Side.other_other] at peerCaughtUp links
    rw [← caughtUp, List.drop_length] at links
    refine ⟨caughtUp, ?_⟩
    rw [← peerCaughtUp, List.drop_length]
    exact links.symm

/-- A side that has not followed every turn of its peer does not lead. -/
theorem Leads.eq_other (leads : Leads primitives ledger state leader)
    (behind : (state side).receivingGeneration.toNat + 1 < (ledger side.other).length) :
    leader = side.other := by
  rcases Side.eq_or_eq_other side leader with rfl | rfl
  · have caughtUp := leads.caughtUp
    omega
  · rfl

end Leads

/-- The message belongs to a turn that the receiver knows, or to the one that it has to follow
next. -/
def Timely (ledger : List Turn) (state : RatchetState) (header : MessageHeader) : Prop :=
  ∀ (place : Nat) (turn : Turn), ledger[place]? = some turn →
    header.ratchetKey = turn.publicKey →
      (state.remoteKey = none → place = 0) ∧
        (state.place turn.publicKey = .ratchet → place = state.receivingGeneration.toNat + 1)

/-! ### Steps -/

namespace Coherent

variable {side : Side}

/-- Replace one side of a conversation. -/
theorem replace (coherent : Coherent provider primitives usable session conversation ledger state)
    {endpoint : Endpoint} {changed : RatchetState} {grown : List Turn}
    (phase : endpoint.connection.phase = .established changed)
    (sameSession : changed.associatedData = session)
    (half : Half provider primitives usable session endpoint (conversation side.other) changed
      (state side.other) grown)
    (back : Half provider primitives usable session (conversation side.other) endpoint
      (state side.other) changed (ledger side.other))
    (leads : ∃ leader, Leads primitives (Function.update ledger side grown)
      (Function.update state side changed) leader) :
    Coherent provider primitives usable session (Function.update conversation side endpoint)
      (Function.update ledger side grown) (Function.update state side changed) where
  phase probe := by
    rcases Side.eq_or_eq_other side probe with rfl | rfl
    · simpa using phase
    · simpa using coherent.phase side.other
  sameSession probe := by
    rcases Side.eq_or_eq_other side probe with rfl | rfl
    · simpa using sameSession
    · simpa using coherent.sameSession side.other
  half probe := by
    rcases Side.eq_or_eq_other side probe with rfl | rfl
    · simpa using half
    · simpa using back
  leads := leads

/-- What the peer has sent, read by a state that differs in its sending side only. -/
theorem back (coherent : Coherent provider primitives usable session conversation ledger state)
    {endpoint : Endpoint} {changed : RatchetState}
    (reads : Reads primitives (ledger side.other) changed endpoint.accepted endpoint.roomy) :
    Half provider primitives usable session (conversation side.other) endpoint
      (state side.other) changed (ledger side.other) := by
  have half := coherent.half side.other
  exact ⟨half.proper, half.ratchetKeys, half.writes, half.logged, reads⟩

theorem reads (coherent : Coherent provider primitives usable session conversation ledger state)
    (side : Side) :
    Reads primitives (ledger side.other) (state side) (conversation side).accepted
      (conversation side).roomy := by
  have half := coherent.half side.other
  rw [Side.other_other] at half
  exact half.reads

theorem owns (coherent : Coherent provider primitives usable session conversation ledger state)
    (side : Side) : primitives.Owns usable (state side).keyPair := by
  have half := coherent.half side
  obtain ⟨closed, current, isLedger, writes⟩ := half.writes
  rw [writes.keyPair]
  exact half.proper.owns current (by simp [isLedger])

/-- A side that has followed every turn of its peer knows the peer's present key, if any. -/
theorem remoteKey_of_caughtUp
    (coherent : Coherent provider primitives usable session conversation ledger state)
    (caughtUp : (ledger side.other).length = (state side).receivingGeneration.toNat + 1)
    (known : (state side).remoteKey.isSome = true) :
    (state side).remoteKey = some (state side.other).keyPair.publicKey := by
  obtain ⟨present, follows⟩ := (coherent.reads side).follows
  obtain ⟨closed, current, isLedger, writes⟩ := (coherent.half side.other).writes
  have isPresent := follows.isPresent
  rw [isLedger, List.length_append, List.length_singleton] at caughtUp
  rw [isLedger, ← Nat.succ.inj caughtUp, List.getElem?_concat_length] at isPresent
  cases isPresent
  rcases follows.remoteKey with isKey | ⟨unknown, _⟩
  · rw [isKey, writes.keyPair]
    rfl
  · rw [unknown] at known
    cases known

section Steps

variable {message : RatchetMessage} {plaintext associatedData : Bytes} {staged : Staged}

theorem phase_afterSending
    (coherent : Coherent provider primitives usable session conversation ledger state)
    (side : Side) (sent : Sent) (staged : Staged) :
    ((conversation side).afterSending sent staged).connection.phase =
      .established (staged.resulting (state side)) := by
  rw [Endpoint.afterSending, Connection.commit_of_established (coherent.phase side)]

/-- A message on the present chain. -/
theorem sentMessage (dependable : provider.Dependable primitives usable)
    (coherent : Coherent provider primitives usable session conversation ledger state)
    (encrypted : (conversation side).connection.stageEncrypt provider plaintext associatedData
      before = .ok (message, staged) after)
    (notDue : Connection.needsTurn (conversation side).connection.limits (state side) = false) :
    ∃ closed current chain, ledger side = closed ++ [current] ∧ current.length ≠ 0xFFFFFFFF ∧
      message.header = current.headerAt current.length ∧
      staged.resulting (state side) = { state side with sendingChain := some chain } ∧
      Coherent provider primitives usable session
        (Function.update conversation side
          ((conversation side).afterSending ⟨message, plaintext, associatedData⟩ staged))
        (Function.update ledger side (closed ++ [current.longer]))
        (Function.update state side (staged.resulting (state side))) := by
  obtain ⟨closed, current, chain, isLedger, notLast, isHeader, resulting, half⟩ :=
    (coherent.half side).sentMessage dependable (coherent.phase side) (coherent.sameSession side)
      encrypted notDue
  refine ⟨closed, current, chain, isLedger, notLast, isHeader, resulting, ?_⟩
  refine coherent.replace (coherent.phase_afterSending side _ staged) ?_ half ?_ ?_
  · rw [resulting]
    exact coherent.sameSession side
  · rw [resulting]
    exact coherent.back ((coherent.reads side).sending _ (some chain) _ _ _ _)
  · obtain ⟨leader, leads⟩ := coherent.leads
    have sameTurns : (ledger side).map (fun turn => (turn.pair, turn.chainKey)) =
        (closed ++ [current.longer]).map (fun turn => (turn.pair, turn.chainKey)) := by
      rw [isLedger, List.map_append, List.map_append]
      rfl
    have sameLength : (closed ++ [current.longer]).length = (ledger side).length := by
      rw [isLedger, List.length_append, List.length_append]
      rfl
    refine ⟨leader, ?_⟩
    rw [resulting]
    rcases Side.eq_or_eq_other side leader with rfl | rfl
    · refine ⟨by simpa using leads.caughtUp, ?_⟩
      have links := leads.links
      simp only [Function.update_self, Function.update_of_ne (Side.other_ne _)]
      refine links.congr ?_
      rw [List.map_drop, List.map_drop, sameTurns]
    · refine ⟨?_, ?_⟩
      · have caughtUp := leads.caughtUp
        simp only [Side.other_other, Function.update_self,
          Function.update_of_ne (Side.other_ne _)] at caughtUp ⊢
        rw [sameLength]
        exact caughtUp
      · simpa using leads.links

/-- A side that takes a turn knows a key of its peer. -/
theorem remoteKey_of_sends
    (coherent : Coherent provider primitives usable session conversation ledger state)
    (encrypted : (conversation side).connection.stageEncrypt provider plaintext associatedData
      before = .ok (message, staged) after)
    (due : Connection.needsTurn (conversation side).connection.limits (state side) = true) :
    (state side).remoteKey.isSome = true := by
  obtain ⟨_, _, _, _, _, _, _, isState, sends, _⟩ := Connection.stageEncrypt_eq_ok encrypted
  cases (coherent.phase side).symm.trans isState
  cases sends with
  | same notDue => simp [due] at notDue
  | turned _ turns =>
    obtain ⟨_, _, _, _, _, _, _, remote, _⟩ := RatchetState.sendingTurn_eq_ok turns
    rw [remote]
    rfl

/-- A message after a turn. Only a side that has followed every turn of its peer may take one. -/
theorem sentTurn (dependable : provider.Dependable primitives usable)
    (coherent : Coherent provider primitives usable session conversation ledger state)
    (encrypted : (conversation side).connection.stageEncrypt provider plaintext associatedData
      before = .ok (message, staged) after)
    (due : Connection.needsTurn (conversation side).connection.limits (state side) = true)
    (remoteKey : (state side).remoteKey = some (state side.other).keyPair.publicKey)
    (caughtUp : (ledger side.other).length = (state side).receivingGeneration.toNat + 1)
    (distinct : ((conversation side).afterSending ⟨message, plaintext, associatedData⟩
      staged).ratchetKeys.Nodup) :
    ∃ turn chain rootKey previousLength, turn.length = 1 ∧ message.header = turn.headerAt 0 ∧
      staged.resulting (state side) = { state side with
        rootKey := rootKey
        previousSendingChainLength := previousLength
        sendingChain := some chain
        keyPair := turn.pair
        sendingRatchetPending := false
        ratchetSteps := (state side).ratchetSteps + 1 } ∧
      Coherent provider primitives usable session
        (Function.update conversation side
          ((conversation side).afterSending ⟨message, plaintext, associatedData⟩ staged))
        (Function.update ledger side (ledger side ++ [turn]))
        (Function.update state side (staged.resulting (state side))) := by
  obtain ⟨turn, chain, previousLength, isShort, isHeader, isFirst, resulting, half⟩ :=
    (coherent.half side).sentTurn dependable (coherent.phase side) (coherent.sameSession side)
      encrypted due (coherent.owns side.other) remoteKey distinct
  refine ⟨turn, chain, _, previousLength, isShort, isHeader, resulting, ?_⟩
  refine coherent.replace (coherent.phase_afterSending side _ staged) ?_ half ?_ ⟨side, ?_, ?_⟩
  · rw [resulting]
    exact coherent.sameSession side
  · rw [resulting]
    exact coherent.back ((coherent.reads side).sending _ (some chain) _ _ _ _)
  · rw [resulting]
    simpa using caughtUp
  · obtain ⟨leader, leads⟩ := coherent.leads
    have links := (leads.of_caughtUp caughtUp).links.append isFirst
    obtain ⟨present, follows⟩ := (coherent.half side).reads.follows
    have bound := (List.getElem?_eq_some_iff.1 follows.isPresent).1
    rw [resulting]
    simp only [Function.update_self, Function.update_of_ne (Side.other_ne _)]
    rw [List.drop_append_of_le_length bound]
    exact links

/-- The chain of the turn that is followed next comes from the receiver's own root key. -/
theorem chainKey_of_next
    (coherent : Coherent provider primitives usable session conversation ledger state)
    {turn : Turn} {first : FixedBytes 32}
    (isTurn : (ledger side.other)[(state side).receivingGeneration.toNat + 1]? = some turn)
    (isFirst : turn.chainKey = some first) :
    first = (primitives.stepRoot (state side).rootKey
        (primitives.agree (state side).keyPair.secret turn.pair.secret)).2 ∧
      ∀ {root}, root = (primitives.stepRoot (state side).rootKey
          (primitives.agree (state side).keyPair.secret turn.pair.secret)).1 →
        Links primitives (state side).keyPair.secret root
          ((ledger side.other).drop ((state side).receivingGeneration.toNat + 2))
          (state side.other).rootKey ∧
        (ledger side).length = (state side.other).receivingGeneration.toNat + 1 := by
  have bound := (List.getElem?_eq_some_iff.1 isTurn).1
  obtain ⟨leader, leads⟩ := coherent.leads
  obtain rfl := leads.eq_other bound
  have links := leads.links
  have caughtUp := leads.caughtUp
  rw [Side.other_other] at links caughtUp
  rw [List.drop_eq_getElem_cons bound] at links
  have same : (ledger side.other)[(state side).receivingGeneration.toNat + 1] = turn :=
    (List.getElem?_eq_some_iff.1 isTurn).2
  rw [same] at links
  obtain ⟨isNext, rest⟩ := links
  rw [isNext] at isFirst
  refine ⟨(Option.some.inj isFirst).symm, ?_⟩
  rintro root rfl
  exact ⟨rest, caughtUp⟩

/-- A timely message that is accepted keeps the conversation coherent. -/
theorem received (dependable : provider.Dependable primitives usable)
    (coherent : Coherent provider primitives usable session conversation ledger state)
    {sent : Sent} (member : sent ∈ (conversation side.other).sent)
    (timely : Timely (ledger side.other) (state side) sent.message.header)
    (decrypted : (conversation side).connection.stageDecrypt provider sent.message
      sent.associatedData before = .ok (plaintext, staged) after) :
    Coherent provider primitives usable session
      (Function.update conversation side
        ((conversation side).afterReceiving sent.message.header staged))
      ledger (Function.update state side (staged.resulting (state side))) := by
  obtain ⟨place, turn, first, index, isTurn, isFirst, below, isHeader, _⟩ :=
    (coherent.half side.other).logged sent member
  obtain ⟨_, changed, key, generation, _, isState, _, route, _, _, resulting⟩ :=
    Connection.stageDecrypt_eq_ok decrypted
  cases (coherent.phase side).symm.trans isState
  have isKey : sent.message.header.ratchetKey = turn.publicKey := by
    rw [isHeader]
    rfl
  obtain ⟨adopts, next⟩ := timely place turn isTurn isKey
  have turns : (state side).place turn.publicKey = .ratchet →
      place = (state side).receivingGeneration.toNat + 1 ∧
        first = (primitives.stepRoot (state side).rootKey
          (primitives.agree (state side).keyPair.secret turn.pair.secret)).2 := by
    intro placed
    have isNext := next placed
    exact ⟨isNext, (coherent.chainKey_of_next (isNext ▸ isTurn) isFirst).1⟩
  have room : (conversation side).hasRoom sent.message.header =
      decide ((state side).skipped.size + (state side).passedOver sent.message.header ≤
        (state side).skipped.capacity) := by
    rw [Endpoint.hasRoom, coherent.phase side]
  have reads : Reads primitives (ledger side.other) (staged.resulting (state side))
      ((conversation side).accepted ++ [sent.message.header])
      ((conversation side).roomy && (conversation side).hasRoom sent.message.header) := by
    rw [resulting, room, isHeader]
    rw [isHeader] at route
    exact (coherent.reads side).route dependable (coherent.half side.other).proper
      (coherent.owns side) isTurn isFirst below adopts turns route
  obtain ⟨sameKeyPair, sameChain, samePrevious, sameSession, _, kept⟩ := route.frame
  have half := coherent.half side
  obtain ⟨closed, current, isLedger, writes⟩ := half.writes
  rw [← Function.update_eq_self side ledger]
  refine coherent.replace ?_ ?_ ?_ (coherent.back reads) ?_
  · rw [Endpoint.afterReceiving, Connection.commit_of_established (coherent.phase side)]
  · rw [resulting]
    exact sameSession.trans (coherent.sameSession side)
  · refine ⟨half.proper, half.ratchetKeys, ⟨closed, current, isLedger, ?_⟩, half.logged, half.reads⟩
    rw [resulting]
    exact ⟨sameKeyPair.trans writes.keyPair, sameChain.trans writes.chain,
      samePrevious.trans writes.previousLength⟩
  · rw [Function.update_eq_self, resulting]
    by_cases placed : (state side).place sent.message.header.ratchetKey = .ratchet
    · obtain ⟨notLast, _, nextGeneration, _, _, _, _, _, _, _, _, agreement, stepped, isRoot⟩ :=
        route.turned placed
      have isNext := (turns (isKey ▸ placed)).1
      have turnOwns := (coherent.half side.other).proper.owns turn (List.mem_of_getElem? isTurn)
      rw [isKey] at agreement
      obtain rfl := (dependable.shared (coherent.owns side) turnOwns).eq_of_ok agreement
      have root := (Prod.ext_iff.1 ((dependable.stepRoot _ _).eq_of_ok stepped)).1
      obtain ⟨links, caughtUp⟩ :=
        (coherent.chainKey_of_next (isNext ▸ isTurn) isFirst).2 (isRoot.trans root)
      refine ⟨side.other, ?_, ?_⟩
      · simpa using caughtUp
      · simp only [Side.other_other, Function.update_self, Function.update_of_ne (Side.other_ne _)]
        change Links primitives changed.keyPair.secret changed.rootKey
          ((ledger side.other).drop (changed.receivingGeneration.toNat + 1)) _
        rw [sameKeyPair, nextGeneration, toNat_succ_of_ne_last notLast]
        exact links
    · obtain ⟨sameRoot, _, sameGeneration⟩ := kept placed
      obtain ⟨leader, leads⟩ := coherent.leads
      refine ⟨leader, ?_⟩
      have caughtUp := leads.caughtUp
      have links := leads.links
      rcases Side.eq_or_eq_other side leader with rfl | rfl
      · refine ⟨?_, ?_⟩
        · simp only [Function.update_self]
          change _ = changed.receivingGeneration.toNat + 1
          rw [sameGeneration]
          exact caughtUp
        · simp only [Function.update_self, Function.update_of_ne (Side.other_ne _)]
          change Links primitives _ _ _ changed.rootKey
          rw [sameRoot]
          exact links
      · refine ⟨by simpa using caughtUp, ?_⟩
        simp only [Side.other_other, Function.update_self,
          Function.update_of_ne (Side.other_ne _)] at links ⊢
        change Links primitives changed.keyPair.secret changed.rootKey
          ((ledger side.other).drop (changed.receivingGeneration.toNat + 1)) _
        rw [sameKeyPair, sameRoot, sameGeneration]
        exact links

/-- The first delivery of a timely message within the limits returns its plaintext. -/
theorem decryptNext_of_timely (dependable : provider.Dependable primitives usable)
    (coherent : Coherent provider primitives usable session conversation ledger state)
    {sent : Sent} (member : sent ∈ (conversation side.other).sent)
    (notAccepted : sent.message.header ∉ (conversation side).accepted)
    (accommodates : (conversation side).Accommodates sent.message.header)
    (timely : Timely (ledger side.other) (state side) sent.message.header) (before : σ) :
    ∃ next after, (conversation side).connection.decryptNext provider sent.message
      sent.associatedData before = .ok (sent.plaintext, next) after := by
  obtain ⟨place, turn, first, index, isTurn, isFirst, below, isHeader, opens⟩ :=
    (coherent.half side.other).logged sent member
  obtain ⟨_, isState, deliverable⟩ := accommodates
  cases (coherent.phase side).symm.trans isState
  have isKey : sent.message.header.ratchetKey = turn.publicKey := by
    rw [isHeader]
    rfl
  obtain ⟨adopts, next⟩ := timely place turn isTurn isKey
  rw [isHeader] at deliverable notAccepted
  rw [← coherent.sameSession side] at opens
  obtain ⟨staged, after, decrypted⟩ := stageDecrypt_of_deliverable dependable isState
    (coherent.half side.other).proper (coherent.reads side) (coherent.owns side) isTurn isFirst
    below adopts (fun placed => ⟨next placed, (coherent.chainKey_of_next
      (next placed ▸ isTurn) isFirst).1⟩) deliverable notAccepted isHeader opens before
  refine ⟨(conversation side).connection.commit staged, after, ?_⟩
  unfold Connection.decryptNext
  rw [Crypto.bind_of_ok decrypted]
  rfl

end Steps

end Coherent

end RatchetMessaging
