import RatchetMessaging.Proofs.Conversation.Ledger

/-!
Contract: the receiving chain and the keys of the peer follow the peer's ledger.

Owns: the turn that a placement means, and `Follows` along reception and along the turn of the
receiver.

Does not own: the cache and the replay memory.
-/

namespace RatchetMessaging

variable {primitives : Primitives} {usable : FixedBytes 32 → Prop} {ledger : List Turn}
  {state : RatchetState} {present turn : Turn} {place : Nat} {generation : UInt32}

namespace Follows

/-! ### Placement -/

theorem place_of_current (follows : Follows primitives ledger state present)
    (proper : ProperLedger primitives usable ledger) (isTurn : ledger[place]? = some turn)
    (placed : state.place turn.publicKey = .current generation) :
    state.receivingGeneration.toNat = place := by
  obtain ⟨remote, _, _⟩ := RatchetState.place_eq_current placed
  rcases follows.remoteKey with known | ⟨unknown, _⟩
  · exact proper.place_unique follows.isPresent isTurn (Option.some.inj (known.symm.trans remote))
  · rw [unknown] at remote
    cases remote

theorem place_of_previous (follows : Follows primitives ledger state present)
    (proper : ProperLedger primitives usable ledger) (isTurn : ledger[place]? = some turn)
    (placed : state.place turn.publicKey = .previous generation) :
    generation.toNat = place := by
  obtain ⟨_, member⟩ := RatchetState.place_eq_previous placed
  obtain ⟨_, superseded, isSuperseded, sameKey⟩ := follows.superseded _ member
  exact proper.place_unique isSuperseded isTurn sameKey

/-- The next turn of the other side is not tracked yet. -/
theorem not_tracks_of_later (follows : Follows primitives ledger state present)
    (proper : ProperLedger primitives usable ledger) (isTurn : ledger[place]? = some turn)
    (later : state.receivingGeneration.toNat < place) : ¬ state.Tracks turn.publicKey := by
  rintro (remote | ⟨superseded, member, sameKey⟩ | retired)
  · rcases follows.remoteKey with known | ⟨unknown, _⟩
    · have same := proper.place_unique follows.isPresent isTurn
        (Option.some.inj (known.symm.trans remote))
      omega
    · rw [unknown] at remote
      cases remote
  · obtain ⟨older, other, isOther, itsKey⟩ := follows.superseded superseded member
    have same := proper.place_unique isOther isTurn (itsKey.trans sameKey)
    rw [UInt32.lt_iff_toNat_lt] at older
    omega
  · obtain ⟨earlier, other, older, isOther, itsKey⟩ := follows.retired _ retired
    have same := proper.place_unique isOther isTurn itsKey
    omega

/-- A message that starts a new chain does not belong to the present turn. -/
theorem place_ne_of_ratchet (follows : Follows primitives ledger state present)
    (isTurn : ledger[place]? = some turn) (placed : state.place turn.publicKey = .ratchet) :
    place ≠ state.receivingGeneration.toNat := by
  rintro rfl
  cases follows.isPresent.symm.trans isTurn
  obtain ⟨unknown, hasKey⟩ := RatchetState.place_eq_ratchet placed
  rcases follows.remoteKey with known | ⟨noKey, _, hasChain⟩
  · exact unknown (.inl known)
  · rcases hasKey with hasKey | noChain
    · exact hasKey noKey
    · rw [noChain] at hasChain
      cases hasChain

/-- A placed key belongs to the turn of its generation. -/
theorem turn_of_placed (follows : Follows primitives ledger state present)
    {placed : SupersededKey} (member : placed ∈ state.placedKeys) :
    placed.generation ≤ state.receivingGeneration ∧
      ∃ turn, ledger[placed.generation.toNat]? = some turn ∧ turn.publicKey = placed.key := by
  rcases List.mem_append.1 member with superseded | isPresent
  · obtain ⟨older, isTurn⟩ := follows.superseded placed superseded
    exact ⟨UInt32.le_of_lt older, isTurn⟩
  · simp only [Option.mem_toList, Option.map_eq_some_iff] at isPresent
    obtain ⟨remoteKey, remote, rfl⟩ := isPresent
    refine ⟨UInt32.le_refl _, present, follows.isPresent, ?_⟩
    rcases follows.remoteKey with known | ⟨unknown, _⟩
    · exact Option.some.inj (known.symm.trans remote)
    · rw [unknown] at remote
      cases remote

/-! ### Steps -/

/-- The receiving chain moves within the present turn, whose key may be learnt. -/
theorem moved (follows : Follows primitives ledger state present) {first : FixedBytes 32}
    {position : UInt32} {remoteKey : Option X25519PublicKey}
    (isFirst : present.chainKey = some first) (within : position ≤ present.length)
    (learnt : remoteKey = state.remoteKey ∨ remoteKey = some present.publicKey)
    (cache : SkippedKeys (FixedBytes 32)) :
    Follows primitives ledger { state with
      remoteKey := remoteKey
      receivingChain := some (primitives.chainAt .receiving first position)
      skipped := cache } present where
  isPresent := follows.isPresent
  chain := .inr ⟨first, position, isFirst, within, rfl⟩
  remoteKey := by
    rcases learnt with rfl | rfl
    · exact follows.remoteKey.imp_right (fun unknown => ⟨unknown.1, unknown.2.1, rfl⟩)
    · exact .inl rfl
  superseded := follows.superseded
  retired := follows.retired

/-- After the turn of the receiver the other side's next turn is the present one. -/
theorem turned (follows : Follows primitives ledger state present) {first : FixedBytes 32}
    (notLast : state.receivingGeneration ≠ 0xFFFFFFFF)
    (isTurn : ledger[state.receivingGeneration.toNat + 1]? = some turn)
    (isFirst : turn.chainKey = some first) (limits : RatchetLimits) (rootKey : FixedBytes 32)
    (ratchetSteps : UInt64) :
    Follows primitives ledger { state.supersede limits with
      rootKey := rootKey
      receivingChain := some (primitives.chainAt .receiving first 0)
      receivingGeneration := state.receivingGeneration + 1
      remoteKey := some turn.publicKey
      sendingRatchetPending := true
      ratchetSteps := ratchetSteps } turn := by
  obtain ⟨gone, kept, parts, superseded⟩ := RatchetState.supersede_eq limits state
  rw [superseded]
  have next := toNat_succ_of_ne_last notLast
  have older : ∀ placed ∈ gone ++ kept, placed.generation < state.receivingGeneration + 1 ∧
      ∃ turn, ledger[placed.generation.toNat]? = some turn ∧ turn.publicKey = placed.key := by
    intro placed member
    obtain ⟨bounded, isPlaced⟩ := follows.turn_of_placed (parts ▸ member)
    rw [UInt32.le_iff_toNat_le] at bounded
    exact ⟨UInt32.lt_iff_toNat_lt.2 (by omega), isPlaced⟩
  refine ⟨?_, .inr ⟨first, 0, isFirst, UInt32.zero_le, rfl⟩, .inl rfl, ?_, ?_⟩
  · rw [next]
    exact isTurn
  · exact fun placed member => older placed (List.mem_append_right _ member)
  · intro key retired
    rw [next]
    rcases RatchetState.mem_of_mem_retireKeys retired with earlier | ⟨placed, member, rfl⟩
    · obtain ⟨place, other, before, isOther⟩ := follows.retired key earlier
      exact ⟨place, other, by omega, isOther⟩
    · obtain ⟨bounded, other, isOther⟩ := older placed (List.mem_append_left _ member)
      rw [UInt32.lt_iff_toNat_lt, next] at bounded
      exact ⟨_, other, bounded, isOther⟩

end Follows

end RatchetMessaging
