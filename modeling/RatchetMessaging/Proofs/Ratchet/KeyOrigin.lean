import Mathlib.Data.List.Nodup
import RatchetMessaging.Proofs.Provider.Dependable
import RatchetMessaging.Proofs.Ratchet.Snapshot
import RatchetMessaging.Proofs.Ratchet.Turn

/-!
Contract: where the keys of a state come from.

Owns:
- `ChainStarts`, the first keys of the receiving chains by generation, and the message key that they
  give to a position;
- `KeysFrom`: each receiving chain has started once, the key of the present one is as many steps
  from its first key as its index says, and every cached key is that of its position;
- what caching, reception, the turn of the receiver and a restored state leave of this, with any
  provider whose authentication codes are right.

Does not own: which message takes which way.
-/

namespace RatchetMessaging

variable {σ : Type} {provider : Provider σ} {primitives : Primitives} {before after : σ}

/-- The generations whose receiving chains have started, with the first key of each chain. -/
abbrev ChainStarts := List (UInt32 × FixedBytes 32)

/-- The key is that of the position: the message key as many steps from the first key of the chain
of its generation as its index says. -/
def ChainStarts.Gives (primitives : Primitives) (starts : ChainStarts) (slot : Slot)
    (key : FixedBytes 32) : Prop :=
  ∃ first, (slot.generation, first) ∈ starts ∧ key = primitives.messageKeyAt first slot.index

theorem ChainStarts.Gives.append {starts : ChainStarts} {slot : Slot} {key : FixedBytes 32}
    (gives : starts.Gives primitives slot key) (more : ChainStarts) :
    ChainStarts.Gives primitives (starts ++ more) slot key := by
  obtain ⟨first, member, value⟩ := gives
  exact ⟨first, List.mem_append_left _ member, value⟩

namespace RatchetState

variable {limits : RatchetLimits} {state result : RatchetState} {starts : ChainStarts}

/-- The chain that a state has just started, with its first key. -/
def chainStart (state : RatchetState) : ChainStarts :=
  (state.receivingChain.map (fun chain => (state.receivingGeneration, chain.key))).toList

/-- All keys of the receiving side come from the first keys of its chains. -/
structure KeysFrom (primitives : Primitives) (starts : ChainStarts) (state : RatchetState) :
    Prop where
  once : (starts.map Prod.fst).Nodup
  reached : ∀ start ∈ starts, start.1 ≤ state.receivingGeneration
  chain : ∀ chain, state.receivingChain = some chain →
    ∃ first, (state.receivingGeneration, first) ∈ starts ∧
      chain.key = primitives.chainKeyAt first chain.index.toNat
  cached : ∀ slot key, state.skipped.get? slot = some key → starts.Gives primitives slot key

/-- A state whose chain, if there is one, has passed nothing, and whose cache is empty. -/
theorem keysFrom_chainStart (first : ∀ chain, state.receivingChain = some chain → chain.index = 0)
    (empty : ∀ slot, state.skipped.get? slot = none) :
    state.KeysFrom primitives state.chainStart := by
  unfold chainStart
  cases isChain : state.receivingChain with
  | none =>
    exact ⟨List.nodup_nil, by simp, by simp [isChain], fun slot key look => by
      rw [empty slot] at look; cases look⟩
  | some chain =>
    refine ⟨List.nodup_singleton _, ?_, fun other isOther => ?_, fun slot key look => ?_⟩
    · simp
    · cases isChain.symm.trans isOther
      refine ⟨chain.key, by simp, ?_⟩
      rw [first chain isChain]
      rfl
    · rw [empty slot] at look
      cases look

namespace KeysFrom

/-- The same chain and at most the same cached keys come from the same first keys. -/
theorem of_kept (keys : state.KeysFrom primitives starts)
    (generation : result.receivingGeneration = state.receivingGeneration)
    (chain : ∀ chain, result.receivingChain = some chain →
      ∃ kept, state.receivingChain = some kept ∧ chain.key = kept.key ∧ chain.index = kept.index)
    (cache : ∀ slot key, result.skipped.get? slot = some key →
      state.skipped.get? slot = some key) : result.KeysFrom primitives starts where
  once := keys.once
  reached := by
    rw [generation]
    exact keys.reached
  chain moved isMoved := by
    obtain ⟨kept, isKept, sameKey, sameIndex⟩ := chain moved isMoved
    rw [generation, sameKey, sameIndex]
    exact keys.chain kept isKept
  cached slot key look := keys.cached slot key (cache slot key look)

/-- What leaves the chain alone, and caches no keys, keeps the first keys. -/
theorem of_same_chain (keys : state.KeysFrom primitives starts)
    (generation : result.receivingGeneration = state.receivingGeneration)
    (chain : result.receivingChain = state.receivingChain)
    (cache : ∀ slot key, result.skipped.get? slot = some key →
      state.skipped.get? slot = some key) : result.KeysFrom primitives starts :=
  keys.of_kept generation (fun kept isKept => ⟨kept, chain ▸ isKept, rfl, rfl⟩) cache

/-- A chain that moves on caches the keys of the positions that it passes. -/
theorem passing (keys : state.KeysFrom primitives starts)
    (authenticates : provider.Authenticates primitives) {chain next : Chain} {count : Nat}
    {messageKeys : List MessageKey} (isChain : state.receivingChain = some chain)
    (advanced : chain.advanceBy provider count before = .ok (messageKeys, next) after) :
    KeysFrom primitives starts { state with
      receivingChain := some next
      skipped := state.skipped.insertAll state.receivingGeneration messageKeys } := by
  obtain ⟨first, member, value⟩ := keys.chain chain isChain
  have atPosition : chain = primitives.chainAt chain.kind first chain.index := by
    rw [Primitives.chainAt, ← value]
  rw [atPosition] at advanced
  obtain ⟨passed, reached⟩ := authenticates.advanceBy_eq_ok advanced
  refine ⟨keys.once, keys.reached, fun moved isMoved => ?_, fun slot key look => ?_⟩
  · cases isMoved
    exact ⟨first, member, congrArg Chain.key reached⟩
  · rcases SkippedKeys.get?_of_get?_insertAll look with ⟨messageKey, isKey, rfl, rfl⟩ | earlier
    · exact ⟨first, member, passed messageKey isKey⟩
    · exact keys.cached slot key earlier

/-- A chain that gives out its next key moves on by one position. -/
theorem advancing (keys : state.KeysFrom primitives starts)
    (authenticates : provider.Authenticates primitives) {chain next : Chain}
    {messageKey : MessageKey} (isChain : state.receivingChain = some chain)
    (advanced : chain.advance provider before = .ok (messageKey, next) after) :
    KeysFrom primitives starts { state with receivingChain := some next } ∧
      starts.Gives primitives ⟨state.receivingGeneration, chain.index⟩ messageKey.key := by
  obtain ⟨first, member, value⟩ := keys.chain chain isChain
  have atPosition : chain = primitives.chainAt chain.kind first chain.index := by
    rw [Primitives.chainAt, ← value]
  rw [atPosition] at advanced
  obtain ⟨rfl, rfl⟩ := authenticates.advance_eq_ok advanced
  refine ⟨⟨keys.once, keys.reached, fun moved isMoved => ?_, keys.cached⟩, first, member, rfl⟩
  cases isMoved
  exact ⟨first, member, rfl⟩

theorem skipReceivingUntil (keys : state.KeysFrom primitives starts)
    (authenticates : provider.Authenticates primitives) {limit : UInt32}
    (skipped : RatchetState.skipReceivingUntil provider limits limit state before =
      .ok result after) : result.KeysFrom primitives starts := by
  rcases skipReceivingUntil_eq_ok skipped with
    ⟨rfl, _⟩ | ⟨chain, messageKeys, next, isChain, _, _, advanced, rfl⟩
  · exact keys
  · exact keys.passing authenticates isChain advanced

/-- Reception gives the key of its position, out of the cache or off the chain. -/
theorem receive (keys : state.KeysFrom primitives starts)
    (authenticates : provider.Authenticates primitives) {index : UInt32} {key : FixedBytes 32}
    (received : RatchetState.receive provider limits index state before =
      .ok (key, result) after) :
    result.KeysFrom primitives starts ∧
      starts.Gives primitives ⟨state.receivingGeneration, index⟩ key := by
  rcases receive_eq_ok received with
    ⟨chain, isChain, _, cached, rfl⟩ |
    ⟨chain, messageKeys, last, messageKey, next, middle, isChain, reached, _, passed, advanced,
      rfl, rfl⟩
  · refine ⟨keys.of_same_chain rfl rfl (fun slot key look => ?_), keys.cached _ _ cached⟩
    exact SkippedKeys.get?_of_get?_erase look
  · have lastPosition : last.index = index := by
      have moved := (Chain.advanceBy_eq_ok passed).2
      rw [UInt32.toNat_sub_of_le _ _ reached] at moved
      rw [UInt32.le_iff_toNat_le] at reached
      exact UInt32.toNat_inj.1 (moved.trans (Nat.add_sub_cancel' reached))
    rw [← lastPosition]
    exact (keys.passing authenticates isChain passed).advancing authenticates rfl advanced

/-- The turn of the receiver starts a chain of a generation that had none. -/
theorem receivingTurn (keys : state.KeysFrom primitives starts)
    (authenticates : provider.Authenticates primitives) {header : MessageHeader}
    (turned : RatchetState.receivingTurn provider limits header state before =
      .ok result after) : result.KeysFrom primitives (starts ++ result.chainStart) := by
  obtain ⟨passed, shared, rootKey, chainKey, middle, agreed, skipped, notLast, _, _, rfl⟩ :=
    receivingTurn_eq_ok turned
  have passedKeys := keys.skipReceivingUntil authenticates skipped
  have next := UInt32.lt_iff_toNat_lt.2
    (show passed.receivingGeneration.toNat < (passed.receivingGeneration + 1).toNat by
      rw [toNat_succ_of_ne_last notLast]
      exact Nat.lt_succ_self _)
  obtain ⟨gone, kept, _, superseded⟩ := supersede_eq limits passed
  change KeysFrom primitives (starts ++ [(passed.receivingGeneration + 1, chainKey)]) _
  refine ⟨?_, fun start member => ?_, fun chain isChain => ?_, fun slot key look => ?_⟩
  · rw [List.map_append, List.nodup_append]
    refine ⟨keys.once, List.nodup_singleton _, fun earlier member fresh isFresh same => ?_⟩
    obtain ⟨start, isStart, rfl⟩ := List.mem_map.1 member
    have isNext : start.1 = passed.receivingGeneration + 1 :=
      same.trans (List.mem_singleton.1 isFresh)
    exact UInt32.not_le.2 next (isNext ▸ passedKeys.reached start isStart)
  · rcases List.mem_append.1 member with earlier | isNew
    · exact UInt32.le_trans (passedKeys.reached start earlier) (UInt32.le_of_lt next)
    · rw [List.mem_singleton.1 isNew]
      exact UInt32.le_refl _
  · cases isChain
    exact ⟨chainKey, List.mem_append_right _ (List.mem_singleton_self _), rfl⟩
  · refine (passedKeys.cached slot key ?_).append _
    rw [superseded] at look
    exact get?_of_get?_forgetChains look

/-- A state that is read back, under any limits, keeps its chain, and its cache gains nothing. -/
theorem restored (keys : state.KeysFrom primitives starts) {connectionId : UInt32}
    (read : ofRecord provider limits (state.toRecord connectionId) before = .ok result after) :
    result.KeysFrom primitives starts := by
  obtain ⟨_, generation, _, chain, cache⟩ := ofRecord_toRecord_eq_ok read
  refine keys.of_kept generation (fun moved isMoved => ?_) cache
  rw [chain] at isMoved
  obtain ⟨kept, isKept, rfl⟩ := Option.map_eq_some_iff.1 isMoved
  exact ⟨kept, isKept, rfl, rfl⟩

end KeysFrom

end RatchetState

end RatchetMessaging
