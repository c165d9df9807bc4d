import RatchetMessaging.Proofs.Conversation.Basic

/-!
Contract: one sent message, with a dependable provider.

Owns: the growth of a ledger by a message or by a turn, what it leaves of the reader's knowledge,
and the coherence of the conversation after a message was sent, with a turn of the ratchet or
without.

Does not own: when a turn is due.
-/

namespace RatchetMessaging

variable {σ : Type} {provider : Provider σ} {primitives : Primitives}
  {usable : FixedBytes 32 → Prop} {session : Bytes} {before after : σ}
  {ledger next closed : List Turn} {state : RatchetState} {turn current : Turn}
  {accepted : List MessageHeader} {roomy : Bool}

/-! ### Growth of a ledger -/

/-- The same turn, with at least as many messages. -/
structure Turn.GrowsTo (turn grown : Turn) : Prop where
  pair : grown.pair = turn.pair
  chainKey : grown.chainKey = turn.chainKey
  previousLength : grown.previousLength = turn.previousLength
  length : turn.length ≤ grown.length

namespace Turn.GrowsTo

variable {grown : Turn}

theorem refl (turn : Turn) : turn.GrowsTo turn := ⟨rfl, rfl, rfl, UInt32.le_refl _⟩

theorem publicKey (grows : turn.GrowsTo grown) : grown.publicKey = turn.publicKey :=
  congrArg X25519KeyPair.publicKey grows.pair

theorem headerAt (grows : turn.GrowsTo grown) (index : UInt32) :
    grown.headerAt index = turn.headerAt index := by
  unfold Turn.headerAt
  rw [grows.publicKey, grows.previousLength]

end Turn.GrowsTo

/-- Turns stay where they are, and only the last one gets more messages. -/
def LedgerGrows (ledger next : List Turn) : Prop :=
  ∀ (place : Nat) (turn : Turn), ledger[place]? = some turn →
    ∃ grown, next[place]? = some grown ∧ turn.GrowsTo grown ∧
      (place + 1 < ledger.length → grown = turn)

theorem ledgerGrows_message (closed : List Turn) {current grown : Turn}
    (grows : current.GrowsTo grown) :
    LedgerGrows (closed ++ [current]) (closed ++ [grown]) := by
  intro place turn isTurn
  by_cases earlier : place < closed.length
  · rw [List.getElem?_append_left earlier] at isTurn ⊢
    exact ⟨turn, isTurn, .refl turn, fun _ => rfl⟩
  · have bound := (List.getElem?_eq_some_iff.1 isTurn).1
    rw [List.length_append, List.length_singleton] at bound
    have isLast : place = closed.length := by omega
    subst isLast
    rw [List.getElem?_append_right (Nat.le_refl _), Nat.sub_self] at isTurn ⊢
    cases isTurn
    refine ⟨grown, rfl, grows, fun notLast => ?_⟩
    rw [List.length_append, List.length_singleton] at notLast
    omega

theorem ledgerGrows_turn (ledger : List Turn) (turn : Turn) :
    LedgerGrows ledger (ledger ++ [turn]) := by
  intro place found isFound
  refine ⟨found, ?_, .refl found, fun _ => rfl⟩
  rw [List.getElem?_append_left (List.getElem?_eq_some_iff.1 isFound).1]
  exact isFound

/-- What is logged stays logged. -/
theorem Logged.grow {sent : Sent} (logged : Logged provider primitives session ledger sent)
    (grows : LedgerGrows ledger next) : Logged provider primitives session next sent := by
  obtain ⟨place, turn, first, index, isTurn, isFirst, below, isHeader, opens⟩ := logged
  obtain ⟨grown, isGrown, same, _⟩ := grows place turn isTurn
  exact ⟨place, grown, first, index, isGrown, same.chainKey.trans isFirst,
    UInt32.lt_of_lt_of_le below same.length, isHeader.trans (same.headerAt index).symm, opens⟩

/-- A reader knows a grown ledger as it knew the ledger. -/
theorem Reads.grow (reads : Reads primitives ledger state accepted roomy)
    (grows : LedgerGrows ledger next) : Reads primitives next state accepted roomy := by
  obtain ⟨present, follows⟩ := reads.follows
  obtain ⟨grown, isGrown, same, _⟩ := grows _ present follows.isPresent
  have presentBound := (List.getElem?_eq_some_iff.1 follows.isPresent).1
  have followsNext : Follows primitives next state grown := by
    refine ⟨isGrown, ?_, ?_, ?_, ?_⟩
    · rcases follows.chain with ⟨noKey, noChain⟩ | ⟨first, position, isFirst, within, isChain⟩
      · exact .inl ⟨same.chainKey.trans noKey, noChain⟩
      · exact .inr ⟨first, position, same.chainKey.trans isFirst,
          UInt32.le_trans within same.length, isChain⟩
    · rw [same.publicKey]
      exact follows.remoteKey
    · intro superseded member
      obtain ⟨older, turn, isTurn, itsKey⟩ := follows.superseded superseded member
      obtain ⟨other, isOther, sameTurn, _⟩ := grows _ turn isTurn
      exact ⟨older, other, isOther, sameTurn.publicKey.trans itsKey⟩
    · intro key retired
      obtain ⟨place, turn, older, isTurn, itsKey⟩ := follows.retired key retired
      obtain ⟨other, isOther, sameTurn, _⟩ := grows _ turn isTurn
      exact ⟨place, other, older, isOther, sameTurn.publicKey.trans itsKey⟩
  refine ⟨reads.sound, ⟨grown, followsNext⟩, ⟨?_, ?_⟩, ?_⟩
  · intro slot key found
    obtain ⟨turn, first, isTurn, isFirst, value⟩ := reads.caches.value slot key found
    obtain ⟨other, isOther, sameTurn, _⟩ := grows _ turn isTurn
    exact ⟨other, first, isOther, sameTurn.chainKey.trans isFirst, value⟩
  · intro isRoomy slot other isOther within behind serves notAccepted
    have notLater : slot.generation.toNat ≤ state.receivingGeneration.toNat := by
      rcases behind with older | ⟨isPresent, _⟩
      · exact Nat.le_of_lt (UInt32.lt_iff_toNat_lt.1 older)
      · exact Nat.le_of_eq (congrArg UInt32.toNat isPresent)
    obtain ⟨turn, isTurn⟩ : ∃ turn, ledger[slot.generation.toNat]? = some turn :=
      ⟨_, List.getElem?_eq_getElem (by omega)⟩
    obtain ⟨grownTurn, isGrownTurn, sameTurn, unchanged⟩ := grows _ turn isTurn
    rw [isOther] at isGrownTurn
    cases isGrownTurn
    rw [sameTurn.headerAt] at notAccepted
    refine reads.caches.complete isRoomy slot turn isTurn ?_ behind serves notAccepted
    rcases serves with isPresent | ⟨superseded, member, sameGeneration⟩
    · -- Of the present turn nothing is behind but what was sent before.
      rw [isPresent, follows.isPresent] at isTurn
      cases isTurn
      rcases behind with older | ⟨_, position, isPosition, below⟩
      · exact absurd (isPresent ▸ older) (UInt32.lt_irrefl _)
      · rcases follows.chain with ⟨_, noChain⟩ | ⟨first, reached, _, reachedBound, isChain⟩
        · simp [noChain] at isPosition
        · simp only [isChain, Option.map_some, Option.mem_def, Option.some.injEq] at isPosition
          subst isPosition
          exact UInt32.lt_of_lt_of_le below reachedBound
    · have older := UInt32.lt_iff_toNat_lt.1 (follows.superseded superseded member).1
      rw [sameGeneration] at older
      rw [unchanged (by omega)] at within
      exact within
  · refine ⟨reads.recalls.someGeneration, reads.recalls.floor, reads.recalls.highestSeen, ?_⟩
    intro slot seen
    obtain ⟨behind, turn, isTurn, isAccepted⟩ := reads.recalls.seen slot seen
    obtain ⟨other, isOther, sameTurn, _⟩ := grows _ turn isTurn
    exact ⟨behind, other, isOther, (sameTurn.headerAt slot.index) ▸ isAccepted⟩

/-- Sending leaves the receiving side alone. -/
theorem Reads.sending (reads : Reads primitives ledger state accepted roomy)
    (rootKey : FixedBytes 32) (sendingChain : Option Chain) (keyPair : X25519KeyPair)
    (previousLength : UInt32) (pending : Bool) (steps : UInt64) :
    Reads primitives ledger { state with
      rootKey := rootKey
      sendingChain := sendingChain
      keyPair := keyPair
      previousSendingChainLength := previousLength
      sendingRatchetPending := pending
      ratchetSteps := steps } accepted roomy := by
  obtain ⟨present, follows⟩ := reads.follows
  exact ⟨⟨reads.sound.cachesBehind, reads.sound.distinctKeys⟩,
    ⟨present, follows.isPresent, follows.chain, follows.remoteKey, follows.superseded,
      follows.retired⟩, ⟨reads.caches.value, reads.caches.complete⟩, reads.recalls⟩

/-! ### One message -/

theorem getElem?_concat_eq_some {α : Type} {init : List α} {last found : α} {place : Nat}
    (isFound : (init ++ [last])[place]? = some found) :
    init[place]? = some found ∨ place = init.length ∧ found = last := by
  by_cases earlier : place < init.length
  · rw [List.getElem?_append_left earlier] at isFound
    exact .inl isFound
  · have bound := (List.getElem?_eq_some_iff.1 isFound).1
    rw [List.length_append, List.length_singleton] at bound
    have isLast : place = init.length := by omega
    subst isLast
    rw [List.getElem?_concat_length] at isFound
    exact .inr ⟨rfl, (Option.some.inj isFound).symm⟩

/-- A turn with one message more. -/
def Turn.longer (turn : Turn) : Turn := { turn with length := turn.length + 1 }

theorem ProperLedger.longer (proper : ProperLedger primitives usable (closed ++ [current]))
    (hasChain : current.chainKey ≠ none) :
    ProperLedger primitives usable (closed ++ [current.longer]) where
  owns turn member := by
    rcases List.mem_append.1 member with earlier | isLast
    · exact proper.owns turn (List.mem_append_left _ earlier)
    · rw [List.mem_singleton.1 isLast]
      exact proper.owns current (by simp)
  distinct := by
    have distinct := proper.distinct
    rw [List.map_append] at distinct ⊢
    exact distinct
  silent turn member noKey := by
    rcases List.mem_append.1 member with earlier | isLast
    · exact proper.silent turn (List.mem_append_left _ earlier) noKey
    · rw [List.mem_singleton.1 isLast] at noKey
      exact absurd noKey hasChain
  previousLength place earlier later isEarlier isLater := by
    have before : (closed ++ [current])[place]? = some earlier := by
      have bound := (List.getElem?_eq_some_iff.1 isLater).1
      rw [List.length_append, List.length_singleton] at bound
      rw [List.getElem?_append_left (by omega)] at isEarlier ⊢
      exact isEarlier
    rcases getElem?_concat_eq_some isLater with inClosed | ⟨isLast, rfl⟩
    · refine proper.previousLength place earlier later before ?_
      rw [List.getElem?_append_left (List.getElem?_eq_some_iff.1 inClosed).1]
      exact inClosed
    · refine proper.previousLength place earlier current before ?_
      rw [isLast, List.getElem?_concat_length]

theorem ProperLedger.turned (proper : ProperLedger primitives usable (closed ++ [current]))
    (owns : primitives.Owns usable turn.pair)
    (distinct : ((closed ++ [current] ++ [turn]).map Turn.publicKey).Nodup)
    (hasChain : turn.chainKey ≠ none) (previousLength : turn.previousLength = current.length) :
    ProperLedger primitives usable (closed ++ [current] ++ [turn]) where
  owns other member := by
    rcases List.mem_append.1 member with earlier | isLast
    · exact proper.owns other earlier
    · rw [List.mem_singleton.1 isLast]
      exact owns
  distinct := distinct
  silent other member noKey := by
    rcases List.mem_append.1 member with earlier | isLast
    · exact proper.silent other earlier noKey
    · rw [List.mem_singleton.1 isLast] at noKey
      exact absurd noKey hasChain
  previousLength place earlier later isEarlier isLater := by
    have bound := (List.getElem?_eq_some_iff.1 isLater).1
    rw [List.length_append, List.length_singleton] at bound
    rw [List.getElem?_append_left (by omega)] at isEarlier
    rcases getElem?_concat_eq_some isLater with inLedger | ⟨isLast, rfl⟩
    · exact proper.previousLength place earlier later isEarlier inLedger
    · have isClosed : place = closed.length := by
        rw [List.length_append, List.length_singleton] at isLast
        omega
      rw [isClosed, List.getElem?_concat_length] at isEarlier
      cases isEarlier
      exact previousLength

section Message

variable {writer reader : Endpoint} {writing reading : RatchetState} {message : RatchetMessage}
  {plaintext associatedData : Bytes} {staged : Staged}

/-- A message on the present chain makes the last turn longer. -/
theorem Half.sentMessage (dependable : provider.Dependable primitives usable)
    (half : Half provider primitives usable session writer reader writing reading ledger)
    (isState : writer.connection.phase = .established writing)
    (sameSession : writing.associatedData = session)
    (encrypted : writer.connection.stageEncrypt provider plaintext associatedData before =
      .ok (message, staged) after)
    (notDue : Connection.needsTurn writer.connection.limits writing = false) :
    ∃ closed current chain, ledger = closed ++ [current] ∧
      current.length ≠ 0xFFFFFFFF ∧
      message.header = current.headerAt current.length ∧
      staged.resulting writing = { writing with sendingChain := some chain } ∧
      Half provider primitives usable session
        (writer.afterSending ⟨message, plaintext, associatedData⟩ staged) reader
        (staged.resulting writing) reading (closed ++ [current.longer]) := by
  obtain ⟨closed, current, isLedger, writes⟩ := half.writes
  obtain ⟨_, source, chain, moved, messageKey, _, _, same, sends, isChain, advanced, sealed,
    isHeader, ratcheted, resulting⟩ := Connection.stageEncrypt_eq_ok encrypted
  cases isState.symm.trans same
  cases sends with
  | turned due _ => simp [notDue] at due
  | same _ =>
    rw [writes.chain] at isChain
    obtain ⟨first, isFirst, rfl⟩ := Option.map_eq_some_iff.1 isChain
    have notLast : current.length ≠ 0xFFFFFFFF := (Chain.advance_eq_ok advanced).1
    obtain ⟨rfl, rfl⟩ := dependable.advance_eq_ok advanced
    have isHeaderAt : message.header = current.headerAt current.length := by
      rw [isHeader, Connection.headerAt, Turn.headerAt, Turn.publicKey, writes.keyPair,
        writes.previousLength]
    have longer : current.length < current.length + 1 := by
      rw [UInt32.lt_iff_toNat_lt, toNat_succ_of_ne_last notLast]
      exact Nat.lt_succ_self _
    have growsTo : current.GrowsTo current.longer := ⟨rfl, rfl, rfl, UInt32.le_of_lt longer⟩
    have grows : LedgerGrows ledger (closed ++ [current.longer]) :=
      isLedger ▸ ledgerGrows_message closed growsTo
    refine ⟨closed, current, _, isLedger, notLast, isHeaderAt, resulting, ?_⟩
    have hasChain : current.chainKey ≠ none := by
      rw [isFirst]
      exact Option.some_ne_none first
    refine ⟨(isLedger ▸ half.proper).longer hasChain, ?_, ⟨closed, current.longer, rfl, ?_⟩, ?_,
      half.reads.grow grows⟩
    · rw [Endpoint.afterSending, ratcheted, notDue, half.ratchetKeys, isLedger, List.map_append,
        List.map_append]
      rfl
    · rw [resulting]
      refine ⟨writes.keyPair, ?_, writes.previousLength⟩
      rw [show current.longer.chainKey = some first from isFirst]
      rfl
    · intro sent member
      rcases List.mem_append.1 member with earlier | isNew
      · exact (half.logged sent earlier).grow grows
      · rw [List.mem_singleton.1 isNew]
        refine ⟨closed.length, current.longer, first, current.length,
          List.getElem?_concat_length, isFirst, longer, isHeaderAt, ?_⟩
        have opens := dependable.decrypts sealed
        rw [← isHeader, sameSession] at opens
        exact opens

/-- A message after a turn starts a new turn of the ledger. -/
theorem Half.sentTurn (dependable : provider.Dependable primitives usable)
    (half : Half provider primitives usable session writer reader writing reading ledger)
    (isState : writer.connection.phase = .established writing)
    (sameSession : writing.associatedData = session)
    (encrypted : writer.connection.stageEncrypt provider plaintext associatedData before =
      .ok (message, staged) after)
    (due : Connection.needsTurn writer.connection.limits writing = true)
    {peer : X25519KeyPair} (peerOwns : primitives.Owns usable peer)
    (remoteKey : writing.remoteKey = some peer.publicKey)
    (distinct :
      (writer.afterSending ⟨message, plaintext, associatedData⟩ staged).ratchetKeys.Nodup) :
    ∃ turn chain previousLength, turn.length = 1 ∧
      message.header = turn.headerAt 0 ∧
      turn.chainKey = some (primitives.stepRoot writing.rootKey
        (primitives.agree peer.secret turn.pair.secret)).2 ∧
      staged.resulting writing = { writing with
        rootKey := (primitives.stepRoot writing.rootKey
          (primitives.agree peer.secret turn.pair.secret)).1
        previousSendingChainLength := previousLength
        sendingChain := some chain
        keyPair := turn.pair
        sendingRatchetPending := false
        ratchetSteps := writing.ratchetSteps + 1 } ∧
      Half provider primitives usable session
        (writer.afterSending ⟨message, plaintext, associatedData⟩ staged) reader
        (staged.resulting writing) reading (ledger ++ [turn]) := by
  obtain ⟨closed, current, isLedger, writes⟩ := half.writes
  obtain ⟨_, source, chain, moved, messageKey, _, _, same, sends, isChain, advanced, sealed,
    isHeader, ratcheted, resulting⟩ := Connection.stageEncrypt_eq_ok encrypted
  cases isState.symm.trans same
  cases sends with
  | same notDue => simp [due] at notDue
  | turned _ turns =>
    obtain ⟨_, pair, shared, rootKey, chainKey, _, _, remote, generated, agreement, stepped, rfl⟩ :=
      RatchetState.sendingTurn_eq_ok turns
    cases remoteKey.symm.trans remote
    have owns := dependable.generate_eq_ok generated
    obtain rfl := (dependable.shared owns peerOwns).eq_of_ok agreement
    rw [dependable.symmetric owns.1 peerOwns.1] at stepped
    obtain ⟨rfl, rfl⟩ := Prod.ext_iff.1 ((dependable.stepRoot _ _).eq_of_ok stepped)
    simp only [Option.some.injEq] at isChain
    subst isChain
    have previous : (writing.sendingChain.map Chain.index).getD 0 = current.length := by
      rw [writes.chain]
      cases isFirst : current.chainKey with
      | none => exact (half.proper.silent current (by simp [isLedger]) isFirst).symm
      | some first => rfl
    change (primitives.chainAt .sending _ 0).advance provider _ = _ at advanced
    obtain ⟨rfl, rfl⟩ := dependable.advance_eq_ok advanced
    let turn : Turn := ⟨pair, some (primitives.stepRoot writing.rootKey
      (primitives.agree peer.secret pair.secret)).2, current.length, 1⟩
    have isHeaderAt : message.header = turn.headerAt 0 := by
      rw [isHeader]
      simp only [Connection.headerAt, previous]
      rfl
    have keys : (writer.afterSending ⟨message, plaintext, associatedData⟩ staged).ratchetKeys =
        (ledger ++ [turn]).map Turn.publicKey := by
      rw [Endpoint.afterSending, ratcheted, due, half.ratchetKeys, List.map_append]
      simp only [if_true, isHeaderAt]
      rfl
    have grows := ledgerGrows_turn ledger turn
    refine ⟨turn, _, _, rfl, isHeaderAt, rfl, resulting, ?_, keys, ⟨ledger, turn, rfl, ?_⟩, ?_,
      half.reads.grow grows⟩
    · rw [keys, isLedger] at distinct
      rw [isLedger]
      exact (isLedger ▸ half.proper).turned owns distinct (Option.some_ne_none _) rfl
    · rw [resulting]
      refine ⟨rfl, rfl, previous⟩
    · intro sent member
      rcases List.mem_append.1 member with earlier | isNew
      · exact (half.logged sent earlier).grow grows
      · rw [List.mem_singleton.1 isNew]
        refine ⟨ledger.length, turn, _, 0, List.getElem?_concat_length, rfl,
          (by decide : (0 : UInt32) < 1), isHeaderAt, ?_⟩
        have opens := dependable.decrypts sealed
        rw [← isHeader, sameSession] at opens
        exact opens

end Message

end RatchetMessaging
