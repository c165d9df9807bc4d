import RatchetMessaging.Proofs.Conversation.Following

/-!
Contract: the cache holds the keys of the peer's messages that were passed over.

Owns: `Caches` when a key is taken out of the cache, when the chain moves on, and when a turn
of the receiver gives up the oldest chains.

Does not own: the chain itself.
-/

namespace RatchetMessaging.Caches

variable {primitives : Primitives} {usable : FixedBytes 32 → Prop} {ledger : List Turn}
  {state : RatchetState} {present turn : Turn} {accepted more : List MessageHeader}
  {roomy still : Bool}

/-- A key leaves the cache whose position is accepted. -/
theorem erased (caches : Caches primitives ledger state accepted roomy) {slot : Slot}
    (isTurn : ledger[slot.generation.toNat]? = some turn)
    (isAccepted : turn.headerAt slot.index ∈ more) (grown : accepted ⊆ more)
    (wasRoomy : still = true → roomy = true) (remoteKey : Option X25519PublicKey) :
    Caches primitives ledger
      { state with remoteKey := remoteKey, skipped := state.skipped.erase slot } more still where
  value probe key found := caches.value probe key (SkippedKeys.get?_of_get?_erase found)
  complete isRoomy probe other isOther within behind serves notAccepted := by
    have held := caches.complete (wasRoomy isRoomy) probe other isOther within behind serves
      (fun earlier => notAccepted (grown earlier))
    obtain ⟨key, found⟩ := SkippedKeys.contains_iff.1 held
    have different : slot ≠ probe := by
      rintro rfl
      rw [isTurn] at isOther
      cases isOther
      exact notAccepted isAccepted
    refine SkippedKeys.contains_iff.2 ⟨key, ?_⟩
    rw [SkippedKeys.get?_erase, if_neg different]
    exact found

/-- The receiving chain moves on, and the keys on the way are cached. -/
theorem moved (caches : Caches primitives ledger state accepted roomy)
    (isPresent : ledger[state.receivingGeneration.toNat]? = some present)
    {first : FixedBytes 32} (isFirst : present.chainKey = some first) {chain next : Chain}
    (isChain : state.receivingChain = some chain) {messageKeys : List MessageKey}
    (values : ∀ messageKey ∈ messageKeys,
      messageKey.key = primitives.messageKeyAt first messageKey.index)
    (passed : ∀ index, chain.index ≤ index → index < next.index →
      (∃ messageKey ∈ messageKeys, messageKey.index = index) ∨ present.headerAt index ∈ more)
    (grown : accepted ⊆ more)
    (room : still = true → roomy = true ∧
      state.skipped.size + messageKeys.length ≤ state.skipped.capacity)
    (remoteKey : Option X25519PublicKey) :
    Caches primitives ledger
      { state with
        remoteKey := remoteKey
        receivingChain := some next
        skipped := state.skipped.insertAll state.receivingGeneration messageKeys } more still where
  value probe key found := by
    rcases SkippedKeys.get?_of_get?_insertAll found with ⟨messageKey, member, rfl, rfl⟩ | earlier
    · exact ⟨present, first, isPresent, isFirst, values messageKey member⟩
    · exact caches.value probe key earlier
  complete isRoomy probe other isOther within behind serves notAccepted := by
    obtain ⟨wasRoomy, fits⟩ := room isRoomy
    refine SkippedKeys.contains_insertAll_of_room fits ?_
    have old : state.Behind probe → state.skipped.contains probe = true := fun behindBefore =>
      caches.complete wasRoomy probe other isOther within behindBefore serves
        (fun earlier => notAccepted (grown earlier))
    rcases (RatchetState.behind_iff rfl).1 behind with older | ⟨same, below⟩
    · exact .inl (old (.inl older))
    · by_cases before : probe.index < chain.index
      · exact .inl (old ((RatchetState.behind_iff isChain).2 (.inr ⟨same, before⟩)))
      · rcases passed probe.index (UInt32.not_lt.1 before) below with
          ⟨messageKey, member, sameIndex⟩ | isAccepted
        · refine .inr ⟨messageKey, member, ?_⟩
          rw [sameIndex, ← same]
        · rw [same, isPresent] at isOther
          cases isOther
          exact absurd isAccepted notAccepted

/-- The turn of the receiver gives up the cached keys of the oldest chains only. -/
theorem turned (caches : Caches primitives ledger state accepted roomy)
    (follows : Follows primitives ledger state present)
    (distinct : (state.placedKeys.map SupersededKey.key).Nodup)
    (finished : ∀ index, index < present.length →
      state.Behind ⟨state.receivingGeneration, index⟩)
    (limits : RatchetLimits) (rootKey : FixedBytes 32) (chainKey : FixedBytes 32)
    (remoteKey : Option X25519PublicKey) (ratchetSteps : UInt64) :
    Caches primitives ledger { state.supersede limits with
      rootKey := rootKey
      receivingChain := some ⟨.receiving, chainKey, 0⟩
      receivingGeneration := state.receivingGeneration + 1
      remoteKey := remoteKey
      sendingRatchetPending := true
      ratchetSteps := ratchetSteps } accepted roomy := by
  obtain ⟨gone, kept, parts, superseded⟩ := RatchetState.supersede_eq limits state
  rw [superseded]
  refine ⟨fun probe key found => caches.value probe key
    (RatchetState.get?_of_get?_forgetChains found), ?_⟩
  intro isRoomy probe other isOther within behind serves notAccepted
  rcases serves with isNew | ⟨placed, member, sameGeneration⟩
  · -- Nothing of the new generation was passed.
    rcases (RatchetState.behind_iff rfl).1 behind with older | ⟨_, below⟩
    · exact absurd (isNew ▸ older) (UInt32.lt_irrefl _)
    · exact absurd below (UInt32.not_lt.2 UInt32.zero_le)
  · have wasPlaced : placed ∈ state.placedKeys := parts ▸ List.mem_append_right _ member
    have notGone : ∀ other ∈ gone, probe.generation ≠ other.generation := by
      intro other isGone same
      obtain ⟨_, first, isFirst, firstKey⟩ := follows.turn_of_placed wasPlaced
      obtain ⟨_, second, isSecond, secondKey⟩ :=
        follows.turn_of_placed (parts ▸ List.mem_append_left _ isGone)
      rw [sameGeneration, same, isSecond] at isFirst
      cases isFirst
      rw [parts, List.map_append, List.nodup_append] at distinct
      exact distinct.2.2 _ (List.mem_map_of_mem isGone) _ (List.mem_map_of_mem member)
        (secondKey.symm.trans firstKey)
    have held : state.skipped.contains probe = true := by
      rcases List.mem_append.1 wasPlaced with old | isPresent
      · have older := (follows.superseded placed old).1
        exact caches.complete isRoomy probe other isOther within (.inl (sameGeneration ▸ older))
          (.inr ⟨placed, old, sameGeneration⟩) notAccepted
      · simp only [Option.mem_toList, Option.map_eq_some_iff] at isPresent
        obtain ⟨_, _, rfl⟩ := isPresent
        simp only at sameGeneration
        rw [← sameGeneration, follows.isPresent] at isOther
        cases isOther
        refine caches.complete isRoomy probe present ?_ within ?_ (.inl sameGeneration.symm)
          notAccepted
        · rw [← sameGeneration]
          exact follows.isPresent
        · have reached := finished probe.index within
          rw [sameGeneration] at reached
          exact reached
    obtain ⟨key, found⟩ := SkippedKeys.contains_iff.1 held
    refine SkippedKeys.contains_iff.2 ⟨key, ?_⟩
    rw [RatchetState.get?_forgetChains_of_kept notGone]
    exact found

end RatchetMessaging.Caches
