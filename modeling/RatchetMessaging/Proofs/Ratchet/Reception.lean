import RatchetMessaging.Ratchet.Reception
import RatchetMessaging.Proofs.Computation
import RatchetMessaging.Proofs.Ratchet.SkippedKeys

/-!
Contract: what happens on a receiving chain, whatever the provider does.

Owns:
- the positions that a chain passes when it advances;
- caching on the way as passing first and caching then;
- the cases of every reception that succeeds, in place and staged.

Does not own: the values of the derived keys.
-/

namespace RatchetMessaging

variable {σ : Type} {provider : Provider σ} {before after : σ}

/-- Positions do not wrap around before the last one. -/
theorem toNat_succ_of_ne_last {position : UInt32} (notLast : position ≠ 0xFFFFFFFF) :
    (position + 1).toNat = position.toNat + 1 := by
  have different : position.toNat ≠ 0xFFFFFFFF := fun same => notLast (UInt32.toNat_inj.1 same)
  have bound := position.toNat_lt
  rw [UInt32.toNat_add, show (1 : UInt32).toNat = 1 from rfl]
  omega

namespace Chain

theorem advance_eq_ok {chain next : Chain} {messageKey : MessageKey}
    (advanced : chain.advance provider before = .ok (messageKey, next) after) :
    chain.index ≠ 0xFFFFFFFF ∧ messageKey.index = chain.index ∧
      next.index = chain.index + 1 := by
  unfold advance at advanced
  split at advanced
  · simp only [Crypto.bind_eq_ok, Crypto.throw_ne_ok, false_and, exists_false] at advanced
  · rename_i notLast
    simp only [Crypto.bind_eq_ok, Crypto.pure_eq_ok] at advanced
    obtain ⟨_, _, _, _, _, _, same, _⟩ := advanced
    cases same
    exact ⟨notLast, rfl, rfl⟩

/-- A chain passes exactly the positions in front of it, one after the other. -/
theorem advanceBy_eq_ok {count : Nat} {chain next : Chain} {messageKeys : List MessageKey}
    (advanced : chain.advanceBy provider count before = .ok (messageKeys, next) after) :
    messageKeys.map (fun messageKey => messageKey.index.toNat) =
        List.range' chain.index.toNat count ∧
      next.index.toNat = chain.index.toNat + count := by
  induction count generalizing chain messageKeys before with
  | zero =>
    simp only [advanceBy, Crypto.pure_eq_ok, Prod.mk.injEq] at advanced
    obtain ⟨⟨rfl, rfl⟩, _⟩ := advanced
    exact ⟨rfl, rfl⟩
  | succ count inductionHypothesis =>
    simp only [advanceBy, Crypto.bind_eq_ok, Crypto.pure_eq_ok, Prod.exists,
      Prod.mk.injEq] at advanced
    obtain ⟨first, second, _, firstStep, rest, last, _, otherSteps, ⟨rfl, rfl⟩, rfl⟩ := advanced
    obtain ⟨notLast, firstIndex, secondIndex⟩ := advance_eq_ok firstStep
    obtain ⟨restIndices, lastIndex⟩ := inductionHypothesis otherSteps
    have moved : second.index.toNat = chain.index.toNat + 1 := by
      rw [secondIndex, toNat_succ_of_ne_last notLast]
    rw [moved] at restIndices lastIndex
    refine ⟨?_, by omega⟩
    rw [List.map_cons, restIndices, firstIndex, List.range'_succ]

theorem index_of_mem_advanceBy {count : Nat} {chain next : Chain} {messageKeys : List MessageKey}
    (advanced : chain.advanceBy provider count before = .ok (messageKeys, next) after)
    {messageKey : MessageKey} (member : messageKey ∈ messageKeys) :
    chain.index.toNat ≤ messageKey.index.toNat ∧
      messageKey.index.toNat < chain.index.toNat + count := by
  have index := List.mem_map_of_mem
    (f := fun messageKey : MessageKey => messageKey.index.toNat) member
  rw [(advanceBy_eq_ok advanced).1, List.mem_range'_1] at index
  exact index

theorem exists_mem_advanceBy {count : Nat} {chain next : Chain} {messageKeys : List MessageKey}
    (advanced : chain.advanceBy provider count before = .ok (messageKeys, next) after)
    {index : UInt32} (reached : chain.index.toNat ≤ index.toNat)
    (below : index.toNat < chain.index.toNat + count) :
    ∃ messageKey ∈ messageKeys, messageKey.index = index := by
  have member : index.toNat ∈ List.range' chain.index.toNat count :=
    List.mem_range'_1.2 ⟨reached, below⟩
  rw [← (advanceBy_eq_ok advanced).1] at member
  obtain ⟨messageKey, isKey, same⟩ := List.mem_map.1 member
  exact ⟨messageKey, isKey, UInt32.toNat_inj.1 same⟩

theorem length_advanceBy {count : Nat} {chain next : Chain} {messageKeys : List MessageKey}
    (advanced : chain.advanceBy provider count before = .ok (messageKeys, next) after) :
    messageKeys.length = count := by
  have lengths := congrArg List.length (advanceBy_eq_ok advanced).1
  simpa using lengths

/-- Caching each key as soon as it is derived comes to the same as deriving all keys first,
also when a derivation fails on the way. -/
theorem cacheNext_eq (provider : Provider σ) (generation : UInt32) (count : Nat) (chain : Chain)
    (skipped : SkippedKeys (FixedBytes 32)) :
    chain.cacheNext provider generation count skipped =
      (do
        let (messageKeys, next) ← chain.advanceBy provider count
        return (next, skipped.insertAll generation messageKeys)) := by
  induction count generalizing chain skipped with
  | zero => simp [cacheNext, advanceBy]
  | succ count inductionHypothesis =>
    simp only [cacheNext, advanceBy, bind_assoc, pure_bind]
    refine congrArg _ (funext fun first => ?_)
    rw [inductionHypothesis]
    rfl

end Chain

namespace RatchetState

variable {limits : RatchetLimits} {state result : RatchetState}

theorem checkGap_eq_ok {gap : UInt32} : checkGap limits gap = .ok () ↔ gap ≤ limits.maxSkip := by
  unfold checkGap
  split
  · rename_i beyond
    simpa using beyond
  · rename_i within
    simpa using within

/-- Passing over the rest of a chain changes the chain and the cache, or nothing. -/
theorem skipReceivingUntil_eq_ok {limit : UInt32}
    (skipped : skipReceivingUntil provider limits limit state before = .ok result after) :
    (result = state ∧ ∀ chain, state.receivingChain = some chain → limit ≤ chain.index) ∨
      ∃ chain messageKeys next,
        state.receivingChain = some chain ∧ chain.index < limit ∧
        limit - chain.index ≤ limits.maxSkip ∧
        chain.advanceBy provider (limit - chain.index).toNat before =
          .ok (messageKeys, next) after ∧
        result = { state with
          receivingChain := some next
          skipped := state.skipped.insertAll state.receivingGeneration messageKeys } := by
  cases isChain : state.receivingChain with
  | none =>
    simp only [skipReceivingUntil, isChain, Crypto.pure_eq_ok] at skipped
    exact .inl ⟨skipped.1.symm, by simp⟩
  | some chain =>
    simp only [skipReceivingUntil, isChain] at skipped
    split at skipped
    · rename_i reached
      obtain ⟨rfl, _⟩ := Crypto.pure_eq_ok.1 skipped
      exact .inl ⟨rfl, by simpa using reached⟩
    · rename_i notReached
      simp only [Crypto.bind_eq_ok, Crypto.ofExcept_eq_ok, Chain.cacheNext_eq,
        Crypto.pure_eq_ok, Prod.exists, Prod.mk.injEq] at skipped
      obtain ⟨_, _, ⟨checked, rfl⟩, _, _, _, ⟨messageKeys, next, _, advanced, ⟨rfl, rfl⟩, rfl⟩,
        rfl, rfl⟩ := skipped
      exact .inr ⟨chain, messageKeys, next, rfl, UInt32.not_le.1 notReached,
        checkGap_eq_ok.1 checked, advanced, rfl⟩

/-- Passing over positions changes the receiving chain and the cache only. -/
theorem skipReceivingUntil_frame {limit : UInt32}
    (skipped : skipReceivingUntil provider limits limit state before = .ok result after) :
    ∃ chain cache, result = { state with receivingChain := chain, skipped := cache } := by
  rcases skipReceivingUntil_eq_ok skipped with ⟨rfl, _⟩ | ⟨_, _, _, _, _, _, _, rfl⟩
  · exact ⟨_, _, rfl⟩
  · exact ⟨_, _, rfl⟩

/-- Staged reception finds the key in the cache, or describes the move of the chain. -/
theorem stageReceive_eq_ok {index : UInt32} {key : FixedBytes 32} {reception : Reception}
    (staged : stageReceive provider limits index state before = .ok (key, reception) after) :
    (∃ chain, state.receivingChain = some chain ∧ index < chain.index ∧
      state.skipped.get? ⟨state.receivingGeneration, index⟩ = some key ∧
      reception = { generation := state.receivingGeneration, index := index, fromCache := true }) ∨
      ∃ chain messageKeys last messageKey next middle,
        state.receivingChain = some chain ∧ chain.index ≤ index ∧
        index - chain.index ≤ limits.maxSkip ∧
        chain.advanceBy provider (index - chain.index).toNat before =
          .ok (messageKeys, last) middle ∧
        last.advance provider middle = .ok (messageKey, next) after ∧
        key = messageKey.key ∧
        reception = {
          generation := state.receivingGeneration
          index := index
          chain := some next
          passedOver := messageKeys } := by
  cases isChain : state.receivingChain with
  | none => simp [stageReceive, isChain] at staged
  | some chain =>
    simp only [stageReceive, isChain] at staged
    split at staged
    · rename_i behind
      cases found : state.skipped.get? ⟨state.receivingGeneration, index⟩ with
      | none => simp [found] at staged
      | some cached =>
        simp only [found, Crypto.pure_eq_ok, Prod.mk.injEq] at staged
        obtain ⟨⟨rfl, rfl⟩, _⟩ := staged
        exact .inl ⟨chain, rfl, behind, rfl, rfl⟩
    · rename_i ahead
      simp only [Crypto.bind_eq_ok, Crypto.ofExcept_eq_ok, Crypto.pure_eq_ok, Prod.exists,
        Prod.mk.injEq] at staged
      obtain ⟨_, _, ⟨checked, rfl⟩, messageKeys, last, middle, passed, messageKey, next, _,
        advanced, ⟨rfl, rfl⟩, rfl⟩ := staged
      exact .inr ⟨chain, messageKeys, last, messageKey, next, middle, rfl,
        UInt32.not_lt.1 ahead, checkGap_eq_ok.1 checked, passed, advanced, rfl, rfl⟩

/-- Reception in place is staged reception applied at once, also when it fails. -/
theorem receive_eq (provider : Provider σ) (limits : RatchetLimits) (index : UInt32)
    (state : RatchetState) :
    state.receive provider limits index =
      (do
        let (key, reception) ← state.stageReceive provider limits index
        return (key, reception.apply state)) := by
  cases isChain : state.receivingChain with
  | none =>
    simp only [receive, stageReceive, isChain]
    rfl
  | some chain =>
    simp only [receive, stageReceive, isChain]
    by_cases behind : index < chain.index
    · rw [if_pos behind, if_pos behind]
      unfold SkippedKeys.take
      cases state.skipped.get? ⟨state.receivingGeneration, index⟩ with
      | none => rfl
      | some key => simp [Reception.apply, isChain]
    · rw [if_neg behind, if_neg behind]
      simp only [skipReceivingUntil, isChain]
      by_cases reached : index ≤ chain.index
      · have same : index = chain.index := UInt32.le_antisymm reached (UInt32.not_lt.1 behind)
        have noGap : checkGap limits (index - chain.index) = .ok () := by
          rw [checkGap_eq_ok, same, UInt32.sub_self]
          exact UInt32.zero_le
        rw [if_pos reached, noGap, same, UInt32.sub_self]
        simp [Chain.advanceBy, Crypto.ofExcept, isChain, Reception.apply]
      · rw [if_neg reached]
        simp [Chain.cacheNext_eq, isChain, Reception.apply, SkippedKeys.insertAll]

theorem receive_eq_ok {index : UInt32} {key : FixedBytes 32}
    (received : receive provider limits index state before = .ok (key, result) after) :
    (∃ chain, state.receivingChain = some chain ∧ index < chain.index ∧
      state.skipped.get? ⟨state.receivingGeneration, index⟩ = some key ∧
      result = { state with
        skipped := state.skipped.erase ⟨state.receivingGeneration, index⟩ }) ∨
      ∃ chain messageKeys last messageKey next middle,
        state.receivingChain = some chain ∧ chain.index ≤ index ∧
        index - chain.index ≤ limits.maxSkip ∧
        chain.advanceBy provider (index - chain.index).toNat before =
          .ok (messageKeys, last) middle ∧
        last.advance provider middle = .ok (messageKey, next) after ∧
        key = messageKey.key ∧
        result = { state with
          receivingChain := some next
          skipped := state.skipped.insertAll state.receivingGeneration messageKeys } := by
  simp only [receive_eq, Crypto.bind_eq_ok, Crypto.pure_eq_ok, Prod.exists,
    Prod.mk.injEq] at received
  obtain ⟨_, reception, _, staged, ⟨rfl, rfl⟩, rfl⟩ := received
  rcases stageReceive_eq_ok staged with
    ⟨chain, isChain, behind, cached, rfl⟩ |
    ⟨chain, messageKeys, last, messageKey, next, middle, isChain, reached, gap, passed, advanced,
      rfl, rfl⟩
  · exact .inl ⟨chain, isChain, behind, cached, rfl⟩
  · exact .inr ⟨chain, messageKeys, last, messageKey, next, middle, isChain, reached, gap, passed,
      advanced, rfl, rfl⟩

/-- Reception changes the receiving chain, which is there, and the cache only. -/
theorem receive_frame {index : UInt32} {key : FixedBytes 32}
    (received : receive provider limits index state before = .ok (key, result) after) :
    ∃ chain cache, result = { state with receivingChain := some chain, skipped := cache } := by
  rcases receive_eq_ok received with
    ⟨chain, isChain, _, _, rfl⟩ | ⟨_, _, _, _, next, _, _, _, _, _, _, _, rfl⟩
  · exact ⟨chain, _, by rw [← isChain]⟩
  · exact ⟨next, _, rfl⟩

end RatchetState

end RatchetMessaging
