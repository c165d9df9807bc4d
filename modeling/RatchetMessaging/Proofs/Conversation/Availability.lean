import RatchetMessaging.Proofs.Conversation.Reading

/-!
Contract: when the first delivery of a message has to succeed.

Owns: `Deliverable`, the limits within which a message can arrive late, early or on a new chain,
and the key that is found within them.

Does not own: the decryption with that key.
-/

namespace RatchetMessaging

/-- The message arrives within the limits of its receiver. -/
inductive Deliverable (limits : RatchetLimits) (state : RatchetState) (roomy : Bool)
    (header : MessageHeader) : Prop
  /-- At the position of the present chain or beyond, within the largest gap. -/
  | ahead {generation : UInt32} {chain : Chain}
      (placed : state.place header.ratchetKey = .current generation ∨
        state.place header.ratchetKey = .adopt generation)
      (isChain : state.receivingChain = some chain) (reached : chain.index ≤ header.chainIndex)
      (gap : header.chainIndex - chain.index ≤ limits.maxSkip)
  /-- Behind the position of the present chain. The replay memory covers the message, and its key
  is cached, or no key ever had to leave the cache. -/
  | behind {generation : UInt32} {chain : Chain}
      (placed : state.place header.ratchetKey = .current generation ∨
        state.place header.ratchetKey = .adopt generation)
      (isChain : state.receivingChain = some chain) (below : header.chainIndex < chain.index)
      (kept : roomy = true ∨ state.skipped.contains ⟨generation, header.chainIndex⟩ = true)
      (covered : state.replay.Covers ⟨generation, header.chainIndex⟩)
  /-- On a superseded chain that is not given up yet. -/
  | late {generation : UInt32}
      (placed : state.place header.ratchetKey = .previous generation)
      (kept : roomy = true ∨ state.skipped.contains ⟨generation, header.chainIndex⟩ = true)
      (covered : state.replay.Covers ⟨generation, header.chainIndex⟩)
  /-- On a new chain, with both gaps within the limit. -/
  | turn (placed : state.place header.ratchetKey = .ratchet)
      (notLast : state.receivingGeneration ≠ 0xFFFFFFFF)
      (oldGap : ∀ chain, state.receivingChain = some chain →
        chain.index < header.previousChainLength →
          header.previousChainLength - chain.index ≤ limits.maxSkip)
      (newGap : header.chainIndex ≤ limits.maxSkip)

variable {σ : Type} {provider : Provider σ} {primitives : Primitives}
  {usable : FixedBytes 32 → Prop} {limits : RatchetLimits} {ledger : List Turn}
  {state : RatchetState} {turn : Turn} {accepted : List MessageHeader} {roomy : Bool}
  {index generation : UInt32} {place : Nat}

namespace Reads

/-- The turn of a message on the present chain is the present one. -/
theorem place_of_present (reads : Reads primitives ledger state accepted roomy)
    (proper : ProperLedger primitives usable ledger) (isTurn : ledger[place]? = some turn)
    (adopts : state.remoteKey = none → place = 0)
    (placed : state.place turn.publicKey = .current generation ∨
      state.place turn.publicKey = .adopt generation) :
    generation = state.receivingGeneration ∧ state.receivingGeneration.toNat = place := by
  obtain ⟨present, follows⟩ := reads.follows
  rcases placed with current | adopt
  · exact ⟨(RatchetState.place_eq_current current).2.2,
      follows.place_of_current proper isTurn current⟩
  · obtain ⟨unknown, _, same, _⟩ := RatchetState.place_eq_adopt adopt
    refine ⟨same, ?_⟩
    rcases follows.remoteKey with known | ⟨_, isFirst, _⟩
    · rw [unknown] at known
      cases known
    · rw [adopts unknown, isFirst]
      rfl

/-- A position whose header was not accepted is not remembered as seen. -/
theorem not_seen (reads : Reads primitives ledger state accepted roomy)
    (isTurn : ledger[generation.toNat]? = some turn)
    (notAccepted : turn.headerAt index ∉ accepted) : ¬ state.replay.Seen ⟨generation, index⟩ := by
  intro seen
  obtain ⟨_, other, isOther, isAccepted⟩ := reads.recalls.seen _ seen
  rw [isTurn] at isOther
  cases isOther
  exact notAccepted isAccepted

/-- A deliverable message that was not accepted is not refused as replayed. -/
theorem not_replayed (reads : Reads primitives ledger state accepted roomy)
    (proper : ProperLedger primitives usable ledger) (isTurn : ledger[place]? = some turn)
    (adopts : state.remoteKey = none → place = 0)
    (deliverable : Deliverable limits state roomy (turn.headerAt index))
    (notAccepted : turn.headerAt index ∉ accepted) :
    Connection.isReplayed state (turn.headerAt index) = false := by
  have known : ∀ generation, generation.toNat = place →
      (state.place turn.publicKey).knownGeneration = some generation →
      state.replay.Covers ⟨generation, index⟩ →
        Connection.isReplayed state (turn.headerAt index) = false := by
    intro generation samePlace placed covers
    have unseen := reads.not_seen (samePlace ▸ isTurn) notAccepted
    have notReplay := ReplayWindow.isReplay_eq_false covers unseen
    unfold Connection.isReplayed
    rw [show (turn.headerAt index).ratchetKey = turn.publicKey from rfl, placed]
    exact notReplay
  obtain ⟨present, follows⟩ := reads.follows
  cases deliverable with
  | ahead placed isChain reached gap =>
    obtain ⟨rfl, samePlace⟩ := reads.place_of_present proper isTurn adopts placed
    refine known _ samePlace ?_ (reads.recalls.covers_ahead (UInt32.le_refl _) ?_).1
    · rcases placed with current | adopt
      · rw [show turn.publicKey = (turn.headerAt index).ratchetKey from rfl, current]
        rfl
      · rw [show turn.publicKey = (turn.headerAt index).ratchetKey from rfl, adopt]
        rfl
    · rintro probe ⟨behind, _⟩
      rcases (RatchetState.behind_iff isChain).1 behind with older | ⟨_, below⟩
      · exact absurd older (UInt32.lt_irrefl _)
      · exact UInt32.lt_of_lt_of_le below reached
  | behind placed isChain below kept covered =>
    obtain ⟨rfl, samePlace⟩ := reads.place_of_present proper isTurn adopts placed
    refine known _ samePlace ?_ covered
    rcases placed with current | adopt
    · rw [show turn.publicKey = (turn.headerAt index).ratchetKey from rfl, current]
      rfl
    · rw [show turn.publicKey = (turn.headerAt index).ratchetKey from rfl, adopt]
      rfl
  | late placed kept covered =>
    refine known _ (follows.place_of_previous proper isTurn placed) ?_ covered
    rw [show turn.publicKey = (turn.headerAt index).ratchetKey from rfl, placed]
    rfl
  | turn placed notLast oldGap newGap =>
    unfold Connection.isReplayed
    rw [placed]
    rfl

/-- The key of a deliverable message that was not accepted can be had from every state of the
provider. -/
theorem receivingKey_succeeds (dependable : provider.Dependable primitives usable)
    (proper : ProperLedger primitives usable ledger)
    (reads : Reads primitives ledger state accepted roomy)
    (owns : primitives.Owns usable state.keyPair) (isTurn : ledger[place]? = some turn)
    (sent : index < turn.length) (adopts : state.remoteKey = none → place = 0)
    (deliverable : Deliverable limits state roomy (turn.headerAt index))
    (notAccepted : turn.headerAt index ∉ accepted) :
    Crypto.Succeeds (Connection.receivingKey provider limits state (turn.headerAt index)) := by
  obtain ⟨present, follows⟩ := reads.follows
  have notLastIndex : index ≠ 0xFFFFFFFF := by
    rintro rfl
    have bound := turn.length.toNat_lt
    rw [UInt32.lt_iff_toNat_lt] at sent
    exact absurd sent (by simp; omega)
  -- A message on the present chain is received there, wherever its key comes from.
  have onChain : ∀ generation, (state.place turn.publicKey = .current generation ∨
      state.place turn.publicKey = .adopt generation) →
      Crypto.Succeeds (state.stageReceive provider limits index) →
      Crypto.Succeeds (Connection.receivingKey provider limits state (turn.headerAt index)) := by
    intro generation placed staged
    unfold Connection.receivingKey
    rw [show (turn.headerAt index).ratchetKey = turn.publicKey from rfl]
    rcases placed with current | adopt
    · rw [current]
      exact staged.bind (fun _ _ => Crypto.succeeds_pure _)
    · rw [adopt]
      exact staged.bind (fun _ _ => Crypto.succeeds_pure _)
  cases deliverable with
  | ahead placed isChain reached gap =>
    refine onChain _ placed ?_
    rcases follows.chain with ⟨_, noChain⟩ | ⟨first, position, _, _, isChainAt⟩
    · rw [noChain] at isChain
      cases isChain
    · rw [isChainAt] at isChain
      cases isChain
      exact dependable.stageReceive_succeeds isChainAt (.inr ⟨reached, gap, notLastIndex⟩)
  | behind placed isChain below kept covered =>
    obtain ⟨rfl, samePlace⟩ := reads.place_of_present proper isTurn adopts placed
    refine onChain _ placed ?_
    have held : state.skipped.contains ⟨state.receivingGeneration, index⟩ = true := by
      rcases kept with isRoomy | held
      · exact reads.caches.complete isRoomy _ turn (samePlace ▸ isTurn) sent
          ((RatchetState.behind_iff isChain).2 (.inr ⟨rfl, below⟩)) (.inl rfl) notAccepted
      · exact held
    rcases follows.chain with ⟨_, noChain⟩ | ⟨first, position, _, _, isChainAt⟩
    · rw [noChain] at isChain
      cases isChain
    · rw [isChainAt] at isChain
      cases isChain
      exact dependable.stageReceive_succeeds isChainAt (.inl ⟨below, held⟩)
  | late placed kept covered =>
    rename_i generation
    have samePlace := follows.place_of_previous proper isTurn placed
    have held : state.skipped.contains ⟨generation, index⟩ = true := by
      rcases kept with isRoomy | held
      · obtain ⟨_, member⟩ := RatchetState.place_eq_previous placed
        exact reads.caches.complete isRoomy _ turn (samePlace ▸ isTurn) sent
          (.inl (follows.superseded _ member).1) (.inr ⟨_, member, rfl⟩) notAccepted
      · exact held
    obtain ⟨key, found⟩ := SkippedKeys.contains_iff.1 held
    unfold Connection.receivingKey
    rw [placed]
    simp only
    rw [show (turn.headerAt index).chainIndex = index from rfl, found]
    exact Crypto.succeeds_pure _
  | turn placed notLast oldGap newGap =>
    unfold Connection.receivingKey
    rw [placed]
    have turnOwns := proper.owns turn (List.mem_of_getElem? isTurn)
    refine (dependable.receivingTurn_succeeds owns turnOwns rfl notLast ?_).bind ?_
    · intro chain isChain
      rcases follows.chain with ⟨_, noChain⟩ | ⟨first, position, _, _, isChainAt⟩
      · rw [noChain] at isChain
        cases isChain
      · refine ⟨first, ?_, oldGap chain isChain⟩
        rw [isChainAt] at isChain
        cases isChain
        rfl
    · rintro turned ⟨_, _, turns⟩
      obtain ⟨_, _, _, chainKey, _, _, _, _, _, _, rfl⟩ := RatchetState.receivingTurn_eq_ok turns
      refine (dependable.receive_succeeds
        (show _ = some (primitives.chainAt .receiving chainKey 0) from rfl)
        (.inr ⟨UInt32.zero_le, ?_, notLastIndex⟩)).bind (fun _ _ => Crypto.succeeds_pure _)
      rw [UInt32.sub_zero]
      exact newGap

end Reads

/-- The first delivery of a message within the limits returns its plaintext. -/
theorem stageDecrypt_of_deliverable (dependable : provider.Dependable primitives usable)
    {connection : Connection} (isState : connection.phase = .established state)
    (proper : ProperLedger primitives usable ledger)
    (reads : Reads primitives ledger state accepted roomy)
    (owns : primitives.Owns usable state.keyPair)
    {first : FixedBytes 32} (isTurn : ledger[place]? = some turn)
    (isFirst : turn.chainKey = some first) (sent : index < turn.length)
    (adopts : state.remoteKey = none → place = 0)
    (turns : state.place turn.publicKey = .ratchet →
      place = state.receivingGeneration.toNat + 1 ∧
        first = (primitives.stepRoot state.rootKey
          (primitives.agree state.keyPair.secret turn.pair.secret)).2)
    (deliverable : Deliverable connection.limits state roomy (turn.headerAt index))
    (notAccepted : turn.headerAt index ∉ accepted)
    {message : RatchetMessage} {plaintext associatedData : Bytes}
    (isHeader : message.header = turn.headerAt index)
    (opens : Crypto.Returns
      (MessageCipher.decrypt provider (primitives.messageKeyAt first index) message.ciphertext
        (MessageCipher.associatedData state.associatedData associatedData message.header))
      plaintext) (before : σ) :
    ∃ staged after, connection.stageDecrypt provider message associatedData before =
      .ok (plaintext, staged) after := by
  obtain ⟨⟨key, generation, change⟩, middle, found⟩ :=
    reads.receivingKey_succeeds dependable proper owns isTurn sent adopts deliverable notAccepted
      before
  have route := Connection.receivingKey_eq_ok found
  obtain ⟨_, rfl, _⟩ :=
    reads.route_follows dependable proper owns isTurn isFirst sent adopts turns route
  obtain ⟨after, opened⟩ := opens middle
  refine ⟨⟨change, some ⟨generation, message.header.chainIndex⟩⟩, after, ?_⟩
  have notReplayed := reads.not_replayed proper isTurn adopts deliverable notAccepted
  rw [← isHeader] at notReplayed found
  unfold Connection.stageDecrypt
  rw [Crypto.bind_of_ok (Connection.ofExcept_state_eq_ok.2 ⟨isState, rfl⟩), notReplayed]
  simp only [Bool.false_eq_true, if_false]
  rw [Crypto.bind_of_ok found, Crypto.bind_of_ok opened]
  rfl

end RatchetMessaging
