import RatchetMessaging.Proofs.Conversation.Caching

/-!
Contract: one received message, with a dependable provider.

Owns: the key that each route finds, which is that of the message's position in the peer's ledger,
and the state that the route leaves, which reads the ledger as before.

Does not own: whether a route is open.
-/

namespace RatchetMessaging

variable {σ : Type} {provider : Provider σ} {primitives : Primitives}
  {usable : FixedBytes 32 → Prop} {before after : σ} {limits : RatchetLimits}
  {ledger : List Turn} {state result : RatchetState} {present turn : Turn}
  {accepted more : List MessageHeader} {roomy still : Bool} {key first : FixedBytes 32}
  {index : UInt32}

/-- The receiving chain of a turn that has one. -/
theorem Follows.chainAt (follows : Follows primitives ledger state present)
    (isFirst : present.chainKey = some first) :
    ∃ position, position ≤ present.length ∧
      state.receivingChain = some (primitives.chainAt .receiving first position) := by
  rcases follows.chain with ⟨noKey, _⟩ | ⟨other, position, isOther, within, isChain⟩
  · rw [noKey] at isFirst
    cases isFirst
  · rw [isOther] at isFirst
    cases isFirst
    exact ⟨position, within, isChain⟩

/-- Reception on the present turn. -/
theorem Follows.received (dependable : provider.Dependable primitives usable)
    (follows : Follows primitives ledger state present)
    (caches : Caches primitives ledger state accepted roomy)
    (isFirst : present.chainKey = some first) (sent : index < present.length)
    (isAccepted : present.headerAt index ∈ more) (grown : accepted ⊆ more)
    (room : still = true → roomy = true ∧ ∀ chain, state.receivingChain = some chain →
      state.skipped.size + (index.toNat - chain.index.toNat) ≤ state.skipped.capacity)
    (received : state.receive provider limits index before = .ok (key, result) after) :
    key = primitives.messageKeyAt first index ∧ Follows primitives ledger result present ∧
      Caches primitives ledger result more still := by
  obtain ⟨position, within, isChain⟩ := follows.chainAt isFirst
  rcases RatchetState.receive_eq_ok received with
    ⟨_, _, _, found, rfl⟩ |
    ⟨chain, messageKeys, last, messageKey, next, _, isChain', reached, _, passed, advanced, rfl,
      rfl⟩
  · obtain ⟨other, otherFirst, isOther, isOtherFirst, value⟩ := caches.value _ _ found
    rw [follows.isPresent] at isOther
    cases isOther
    rw [isFirst] at isOtherFirst
    cases isOtherFirst
    refine ⟨value, ⟨follows.isPresent, follows.chain, follows.remoteKey, follows.superseded,
      follows.retired⟩, ?_⟩
    exact caches.erased follows.isPresent isAccepted grown (fun isRoomy => (room isRoomy).1)
      state.remoteKey
  · have sameChain := isChain'
    rw [isChain] at sameChain
    cases sameChain
    have values := dependable.advanceBy_eq_ok passed
    have moved := (Chain.advanceBy_eq_ok passed).2
    rw [UInt32.toNat_sub_of_le _ _ reached] at moved
    have reachedNat := UInt32.le_iff_toNat_le.1 reached
    have lastPosition : last.index = index :=
      UInt32.toNat_inj.1 (moved.trans (Nat.add_sub_cancel' reachedNat))
    rw [values.2, lastPosition] at advanced
    have notLast : index ≠ 0xFFFFFFFF := (Chain.advance_eq_ok advanced).1
    obtain ⟨rfl, rfl⟩ := dependable.advance_eq_ok advanced
    have nextPosition := toNat_succ_of_ne_last notLast
    have sentNat := UInt32.lt_iff_toNat_lt.1 sent
    refine ⟨rfl, ?_, ?_⟩
    · refine follows.moved isFirst ?_ (.inl rfl) _
      rw [UInt32.le_iff_toNat_le]
      omega
    · refine caches.moved follows.isPresent isFirst isChain values.1 ?_ grown ?_ state.remoteKey
      · intro probe atLeast below
        have belowNat : probe.toNat < (index + 1).toNat := UInt32.lt_iff_toNat_lt.1 below
        by_cases isLast : probe = index
        · exact .inr (isLast ▸ isAccepted)
        · have different : probe.toNat ≠ index.toNat := fun same =>
            isLast (UInt32.toNat_inj.1 same)
          refine .inl (Chain.exists_mem_advanceBy passed (UInt32.le_iff_toNat_le.1 atLeast) ?_)
          rw [UInt32.toNat_sub_of_le _ _ reached]
          omega
      · intro isRoomy
        obtain ⟨wasRoomy, fits⟩ := room isRoomy
        refine ⟨wasRoomy, ?_⟩
        rw [Chain.length_advanceBy passed, UInt32.toNat_sub_of_le _ _ reached]
        exact fits _ isChain

/-- Passing over the rest of the present turn. -/
theorem Follows.finished (dependable : provider.Dependable primitives usable)
    (proper : ProperLedger primitives usable ledger)
    (follows : Follows primitives ledger state present)
    (caches : Caches primitives ledger state accepted roomy)
    (room : still = true → roomy = true ∧ ∀ chain, state.receivingChain = some chain →
      state.skipped.size + (present.length.toNat - chain.index.toNat) ≤ state.skipped.capacity)
    (skipped : state.skipReceivingUntil provider limits present.length before = .ok result after) :
    Follows primitives ledger result present ∧
      Caches primitives ledger result accepted still ∧
      ∀ index, index < present.length → result.Behind ⟨result.receivingGeneration, index⟩ := by
  have wasRoomy : still = true → roomy = true := fun isRoomy => (room isRoomy).1
  rcases RatchetState.skipReceivingUntil_eq_ok skipped with
    ⟨rfl, reached⟩ | ⟨chain, messageKeys, next, isChain, notReached, _, advanced, rfl⟩
  · refine ⟨follows, ⟨caches.value, fun isRoomy => caches.complete (wasRoomy isRoomy)⟩, ?_⟩
    intro index sent
    rcases follows.chain with ⟨noKey, _⟩ | ⟨first, position, _, _, isChain⟩
    · have silent := proper.silent present (List.mem_of_getElem? follows.isPresent) noKey
      rw [silent] at sent
      exact absurd sent (UInt32.not_lt.2 UInt32.zero_le)
    · exact (RatchetState.behind_iff isChain).2
        (.inr ⟨rfl, UInt32.lt_of_lt_of_le sent (reached _ isChain)⟩)
  · rcases follows.chain with ⟨_, noChain⟩ | ⟨first, position, isFirst, _, isChain'⟩
    · rw [noChain] at isChain
      cases isChain
    · have sameChain := isChain
      rw [isChain'] at sameChain
      cases sameChain
      have values := dependable.advanceBy_eq_ok advanced
      have moved := (Chain.advanceBy_eq_ok advanced).2
      have within := UInt32.le_of_lt notReached
      rw [UInt32.toNat_sub_of_le _ _ within] at moved
      have lastPosition : next.index = present.length :=
        UInt32.toNat_inj.1 (moved.trans (Nat.add_sub_cancel' (UInt32.le_iff_toNat_le.1 within)))
      refine ⟨?_, ?_, ?_⟩
      · rw [values.2, lastPosition]
        exact follows.moved isFirst (UInt32.le_refl _) (.inl rfl) _
      · refine caches.moved follows.isPresent isFirst isChain values.1 ?_ (List.Subset.refl _) ?_
          state.remoteKey
        · intro probe atLeast below
          rw [lastPosition] at below
          refine .inl (Chain.exists_mem_advanceBy advanced (UInt32.le_iff_toNat_le.1 atLeast) ?_)
          rw [UInt32.toNat_sub_of_le _ _ within]
          rw [UInt32.lt_iff_toNat_lt] at below
          omega
        · intro isRoomy
          obtain ⟨was, fits⟩ := room isRoomy
          refine ⟨was, ?_⟩
          rw [Chain.length_advanceBy advanced, UInt32.toNat_sub_of_le _ _ within]
          exact fits _ isChain
      · intro index sent
        refine (RatchetState.behind_iff rfl).2 (.inr ⟨rfl, ?_⟩)
        rw [lastPosition]
        exact sent

/-- The turn of the receiver, and reception on the chain that it starts. -/
theorem Follows.receivedTurn (dependable : provider.Dependable primitives usable)
    (proper : ProperLedger primitives usable ledger)
    (follows : Follows primitives ledger state present)
    (caches : Caches primitives ledger state accepted roomy)
    (distinct : (state.placedKeys.map SupersededKey.key).Nodup)
    (owns : primitives.Owns usable state.keyPair)
    (isTurn : ledger[state.receivingGeneration.toNat + 1]? = some turn)
    (isFirst : turn.chainKey = some (primitives.stepRoot state.rootKey
      (primitives.agree state.keyPair.secret turn.pair.secret)).2)
    (sent : index < turn.length) (isAccepted : turn.headerAt index ∈ more)
    (grown : accepted ⊆ more)
    (room : still = true → roomy = true ∧
      state.skipped.size +
        ((if state.receivingChain.isSome then
            turn.previousLength.toNat - state.position else 0) +
          index.toNat) ≤ state.skipped.capacity)
    {turned : RatchetState} {middle : σ}
    (turns : state.receivingTurn provider limits (turn.headerAt index) before = .ok turned middle)
    (received : turned.receive provider limits index middle = .ok (key, result) after) :
    key = primitives.messageKeyAt
        (primitives.stepRoot state.rootKey
          (primitives.agree state.keyPair.secret turn.pair.secret)).2 index ∧
      Follows primitives ledger result turn ∧ Caches primitives ledger result more still := by
  obtain ⟨passed, shared, rootKey, chainKey, _, _, skipped, notLast, agreement, stepped, rfl⟩ :=
    RatchetState.receivingTurn_eq_ok turns
  have finishedLength : turn.previousLength = present.length :=
    proper.previousLength _ present turn follows.isPresent isTurn
  have bounds : ∀ chain, state.receivingChain = some chain → still = true →
      state.skipped.size + (present.length.toNat - chain.index.toNat) + index.toNat ≤
        state.skipped.capacity := by
    intro chain isChain isRoomy
    have fits := (room isRoomy).2
    simp only [RatchetState.position, isChain, Option.isSome_some, if_true, Option.map_some,
      Option.getD_some, finishedLength] at fits
    omega
  have sizes : still = true → passed.skipped.size + index.toNat ≤ passed.skipped.capacity := by
    intro isRoomy
    rcases RatchetState.skipReceivingUntil_eq_ok skipped with
      ⟨rfl, _⟩ | ⟨chain, messageKeys, _, isChain, notReached, _, advanced, rfl⟩
    · have fits := (room isRoomy).2
      omega
    · have grownSize := SkippedKeys.size_insertAll_le state.receivingGeneration messageKeys
        state.skipped
      have fits := bounds chain isChain isRoomy
      rw [Chain.length_advanceBy advanced, UInt32.toNat_sub_of_le _ _ (UInt32.le_of_lt notReached),
        show (turn.headerAt index).previousChainLength = present.length from finishedLength]
        at grownSize
      simp only [SkippedKeys.capacity_insertAll]
      omega
  obtain ⟨last, cache, rfl⟩ := RatchetState.skipReceivingUntil_frame skipped
  rw [show (turn.headerAt index).previousChainLength = present.length from finishedLength]
    at skipped
  have oldRoom : still = true → roomy = true ∧ ∀ chain, state.receivingChain = some chain →
      state.skipped.size + (present.length.toNat - chain.index.toNat) ≤
        state.skipped.capacity := by
    intro isRoomy
    refine ⟨(room isRoomy).1, fun chain isChain => ?_⟩
    have fits := bounds chain isChain isRoomy
    omega
  obtain ⟨followsPassed, cachesPassed, finished⟩ :=
    follows.finished dependable proper caches oldRoom skipped
  have turnOwns := proper.owns turn (List.mem_of_getElem? isTurn)
  obtain rfl := (dependable.shared owns turnOwns).eq_of_ok agreement
  obtain ⟨rfl, rfl⟩ := Prod.ext_iff.1 ((dependable.stepRoot _ _).eq_of_ok stepped)
  have followsTurned := followsPassed.turned notLast isTurn isFirst limits
    (primitives.stepRoot state.rootKey
      (primitives.agree state.keyPair.secret turn.pair.secret)).1 (state.ratchetSteps + 1)
  refine followsTurned.received dependable (cachesPassed.turned followsPassed distinct finished
    limits _ _ (some turn.publicKey) (state.ratchetSteps + 1)) isFirst sent isAccepted grown ?_
    received
  intro isRoomy
  refine ⟨isRoomy, fun chain isChain => ?_⟩
  have fits := sizes isRoomy
  obtain ⟨smaller, sameCapacity⟩ := RatchetState.skipped_supersede limits
    { state with receivingChain := last, skipped := cache }
  simp only at fits smaller sameCapacity ⊢
  omega

/-! ### Routes -/

section Routes

variable {header : MessageHeader} {generation : UInt32} {received : RatchetState} {place : Nat}

/-- The key that a route finds is that of the message's position, and the chain and the cache
follow the ledger as before. -/
theorem Reads.route_follows (dependable : provider.Dependable primitives usable)
    (proper : ProperLedger primitives usable ledger)
    (reads : Reads primitives ledger state accepted roomy)
    (owns : primitives.Owns usable state.keyPair)
    (isTurn : ledger[place]? = some turn) (isFirst : turn.chainKey = some first)
    (sent : index < turn.length)
    (adopts : state.remoteKey = none → place = 0)
    (turns : state.place turn.publicKey = .ratchet →
      place = state.receivingGeneration.toNat + 1 ∧
        first = (primitives.stepRoot state.rootKey
          (primitives.agree state.keyPair.secret turn.pair.secret)).2)
    (route : Connection.Route provider limits state (turn.headerAt index) before after key
      generation received) :
    generation.toNat = place ∧ key = primitives.messageKeyAt first index ∧
      (∃ present, Follows primitives ledger received present) ∧
      Caches primitives ledger received (accepted ++ [turn.headerAt index])
        (roomy && decide (state.skipped.size + state.passedOver (turn.headerAt index) ≤
          state.skipped.capacity)) := by
  obtain ⟨present, follows⟩ := reads.follows
  have grown : accepted ⊆ accepted ++ [turn.headerAt index] := List.subset_append_left _ _
  have isAccepted : turn.headerAt index ∈ accepted ++ [turn.headerAt index] := by simp
  cases route with
  | late placed cached =>
    have same := follows.place_of_previous proper isTurn placed
    obtain ⟨other, otherFirst, isOther, isOtherFirst, value⟩ := reads.caches.value _ _ cached
    rw [same, isTurn] at isOther
    cases isOther
    rw [isFirst] at isOtherFirst
    cases isOtherFirst
    refine ⟨same, value, ⟨present, follows.isPresent, follows.chain, follows.remoteKey,
      follows.superseded, follows.retired⟩, ?_⟩
    refine reads.caches.erased (by rw [same]; exact isTurn) isAccepted grown (fun isRoomy => ?_)
      state.remoteKey
    simp only [Bool.and_eq_true] at isRoomy
    exact isRoomy.1
  | present placed receives =>
    have isPresent : state.receivingGeneration.toNat = place := by
      rcases placed with current | adopt
      · exact follows.place_of_current proper isTurn current
      · obtain ⟨unknown, _⟩ := RatchetState.place_eq_adopt adopt
        rcases follows.remoteKey with known | ⟨_, isFirstGeneration, _⟩
        · rw [unknown] at known
          cases known
        · rw [adopts unknown, isFirstGeneration]
          rfl
    have same : present = turn := by
      have isPresentTurn := follows.isPresent
      rw [isPresent, isTurn] at isPresentTurn
      exact (Option.some.inj isPresentTurn).symm
    subst same
    have learnt : Follows primitives ledger
        { state with remoteKey := some present.publicKey } present :=
      ⟨follows.isPresent, follows.chain, .inl rfl, follows.superseded, follows.retired⟩
    have cachesLearnt : Caches primitives ledger
        { state with remoteKey := some present.publicKey } accepted roomy :=
      ⟨reads.caches.value, reads.caches.complete⟩
    have room : (roomy && decide (state.skipped.size +
        state.passedOver (present.headerAt index) ≤ state.skipped.capacity)) = true →
        roomy = true ∧ ∀ chain, state.receivingChain = some chain →
          state.skipped.size + (index.toNat - chain.index.toNat) ≤ state.skipped.capacity := by
      intro isRoomy
      simp only [Bool.and_eq_true, decide_eq_true_eq] at isRoomy
      refine ⟨isRoomy.1, fun chain isChain => ?_⟩
      have fits := isRoomy.2
      unfold RatchetState.passedOver RatchetState.position at fits
      rw [show (present.headerAt index).ratchetKey = present.publicKey from rfl] at fits placed
      rcases placed with current | adopt
      · rw [current, isChain] at fits
        exact fits
      · rw [adopt, isChain] at fits
        exact fits
    obtain ⟨value, followsReceived, cachesReceived⟩ :=
      learnt.received dependable cachesLearnt isFirst sent isAccepted grown room receives
    exact ⟨isPresent, value, ⟨_, followsReceived⟩, cachesReceived⟩
  | turn placed turned receives =>
    obtain ⟨isNext, rfl⟩ := turns placed
    subst isNext
    have room : (roomy && decide (state.skipped.size +
        state.passedOver (turn.headerAt index) ≤ state.skipped.capacity)) = true →
        roomy = true ∧ state.skipped.size +
          ((if state.receivingChain.isSome then turn.previousLength.toNat - state.position else 0) +
            index.toNat) ≤ state.skipped.capacity := by
      intro isRoomy
      simp only [Bool.and_eq_true, decide_eq_true_eq] at isRoomy
      refine ⟨isRoomy.1, ?_⟩
      have fits := isRoomy.2
      unfold RatchetState.passedOver at fits
      rw [show (turn.headerAt index).ratchetKey = turn.publicKey from rfl] at fits placed
      rw [placed] at fits
      exact fits
    have next := (Connection.Route.turn placed turned receives).turned placed
    obtain ⟨value, followsReceived, cachesReceived⟩ :=
      follows.receivedTurn dependable proper reads.caches reads.sound.distinctKeys owns isTurn
        isFirst sent isAccepted grown room turned receives
    refine ⟨?_, value, ⟨_, followsReceived⟩, cachesReceived⟩
    rw [next.2.1, toNat_succ_of_ne_last next.1]

/-- The receiving generation does not fall. -/
theorem receivingGeneration_le_of_route
    (route : Connection.Route provider limits state header before after key generation received) :
    state.receivingGeneration ≤ received.receivingGeneration := by
  by_cases placed : state.place header.ratchetKey = .ratchet
  · obtain ⟨notLast, _, next, _⟩ := route.turned placed
    rw [next, UInt32.le_iff_toNat_le, toNat_succ_of_ne_last notLast]
    exact Nat.le_succ _
  · obtain ⟨_, _, _, _, _, kept⟩ := route.frame
    rw [(kept placed).2.2]
    exact UInt32.le_refl _

/-- After a received message the state reads the ledger as before, with one header more
accepted. -/
theorem Reads.route (dependable : provider.Dependable primitives usable)
    (proper : ProperLedger primitives usable ledger)
    (reads : Reads primitives ledger state accepted roomy)
    (owns : primitives.Owns usable state.keyPair)
    (isTurn : ledger[place]? = some turn) (isFirst : turn.chainKey = some first)
    (sent : index < turn.length)
    (adopts : state.remoteKey = none → place = 0)
    (turns : state.place turn.publicKey = .ratchet →
      place = state.receivingGeneration.toNat + 1 ∧
        first = (primitives.stepRoot state.rootKey
          (primitives.agree state.keyPair.secret turn.pair.secret)).2)
    (route : Connection.Route provider limits state (turn.headerAt index) before after key
      generation received) :
    Reads primitives ledger (received.recording ⟨generation, index⟩)
      (accepted ++ [turn.headerAt index])
      (roomy && decide (state.skipped.size + state.passedOver (turn.headerAt index) ≤
        state.skipped.capacity)) := by
  obtain ⟨samePlace, _, ⟨present, follows⟩, caches⟩ :=
    reads.route_follows dependable proper owns isTurn isFirst sent adopts turns route
  have advances := route.advances reads.sound
  obtain ⟨_, spent, _⟩ := advances.spends _ rfl
  obtain ⟨_, _, _, _, sameReplay, _⟩ := route.frame
  refine ⟨(advances.recording _).sound, ⟨present, follows.isPresent, follows.chain,
    follows.remoteKey, follows.superseded, follows.retired⟩, ⟨caches.value, caches.complete⟩, ?_⟩
  change (received.replay.accept generation index).2.Remembers _ received.receivingGeneration
  rw [sameReplay]
  refine reads.recalls.accept ?_ (receivingGeneration_le_of_route route) ⟨?_, turn, ?_, ?_⟩ ?_
  · rintro slot ⟨behind, other, isOther, isAccepted⟩
    exact ⟨advances.narrows.behind slot behind, other, isOther,
      List.mem_append_left _ isAccepted⟩
  · exact (RatchetState.not_obtainable_iff.1 spent).2
  · rw [samePlace]
    exact isTurn
  · simp
  · rintro slot ⟨behind, _⟩
    rcases behind with older | ⟨same, _⟩
    · exact UInt32.le_of_lt older
    · rw [same]
      exact UInt32.le_refl _

end Routes

end RatchetMessaging
