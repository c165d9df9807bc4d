import RatchetMessaging.Proofs.Ratchet.CacheQueue
import RatchetMessaging.Proofs.Ratchet.Obtainable

/-!
Contract: what becomes of the keys that a chain passes over.

Owns:
- the positions in front of a chain, and the keys that it derives for them;
- the cache after positions were passed, by the end of a chain or on the way to a message, and after
  the turn of the receiver: the newest of the derived keys are cached.

Does not own: the message on the way to which positions are passed.
-/

namespace RatchetMessaging

variable {σ : Type} {provider : Provider σ} {before after : σ}

/-! ### Positions -/

/-- The positions of a generation from `first` on, up to `limit`, which stays out. -/
def Slot.upTo (generation first limit : UInt32) : List Slot :=
  (List.range' first.toNat (limit.toNat - first.toNat)).map
    (fun index => ⟨generation, UInt32.ofNat index⟩)

theorem Slot.mem_upTo {generation first limit : UInt32} {slot : Slot} :
    slot ∈ upTo generation first limit ↔
      slot.generation = generation ∧ first ≤ slot.index ∧ slot.index < limit := by
  simp only [upTo, List.mem_map, List.mem_range'_1, UInt32.le_iff_toNat_le,
    UInt32.lt_iff_toNat_lt]
  constructor
  · rintro ⟨index, ⟨reached, below⟩, rfl⟩
    have small : index < 2 ^ 32 := by
      have bound := limit.toNat_lt
      omega
    rw [UInt32.toNat_ofNat_of_lt' small]
    exact ⟨rfl, reached, by omega⟩
  · rintro ⟨rfl, reached, below⟩
    exact ⟨slot.index.toNat, ⟨reached, by omega⟩, by simp⟩

theorem Slot.nodup_upTo (generation first limit : UInt32) :
    (upTo generation first limit).Nodup := by
  refine List.Nodup.map_on ?_ List.nodup_range'
  intro one isOne two isTwo same
  have small : ∀ index ∈ List.range' first.toNat (limit.toNat - first.toNat),
      index < UInt32.size := by
    intro index member
    have bound := limit.toNat_lt
    rw [List.mem_range'_1] at member
    change index < 2 ^ 32
    omega
  have indices := congrArg UInt32.toNat (Slot.mk.inj same).2
  rwa [UInt32.toNat_ofNat_of_lt' (small one isOne),
    UInt32.toNat_ofNat_of_lt' (small two isTwo)] at indices

theorem Slot.length_upTo (generation first limit : UInt32) :
    (upTo generation first limit).length = limit.toNat - first.toNat := by
  rw [upTo, List.length_map, List.length_range']

/-- A chain that advances derives the keys of the positions that it passes. -/
theorem Chain.slots_advanceBy {chain next : Chain} {messageKeys : List MessageKey}
    (generation : UInt32) {limit : UInt32}
    (advanced : chain.advanceBy provider (limit.toNat - chain.index.toNat) before =
      .ok (messageKeys, next) after) :
    (SkippedKeys.entriesOf generation messageKeys).map Prod.fst =
      Slot.upTo generation chain.index limit := by
  rw [Slot.upTo, ← (advanceBy_eq_ok advanced).1, SkippedKeys.entriesOf, List.map_map, List.map_map]
  exact List.map_congr_left (fun messageKey _ => by simp)

namespace RatchetState

variable {limits : RatchetLimits} {state result : RatchetState} {limit : UInt32}

/-- The positions of the present chain up to `limit` that it has not passed. -/
def positionsUntil (limit : UInt32) (state : RatchetState) : List Slot :=
  match state.receivingChain with
  | none => []
  | some chain => Slot.upTo state.receivingGeneration chain.index limit

/-- The keys that the present chain derives for these positions, from the given state of the
provider. -/
def keysUntil (provider : Provider σ) (limit : UInt32) (state : RatchetState) (before : σ) :
    List (Slot × FixedBytes 32) :=
  match state.receivingChain with
  | none => []
  | some chain =>
    match chain.advanceBy provider (limit.toNat - chain.index.toNat) before with
    | .ok (messageKeys, _) _ => SkippedKeys.entriesOf state.receivingGeneration messageKeys
    | .error _ _ => []

theorem keysUntil_of_advanced {chain next : Chain} {messageKeys : List MessageKey}
    (isChain : state.receivingChain = some chain)
    (advanced : chain.advanceBy provider (limit.toNat - chain.index.toNat) before =
      .ok (messageKeys, next) after) :
    state.keysUntil provider limit before =
        SkippedKeys.entriesOf state.receivingGeneration messageKeys ∧
      (state.keysUntil provider limit before).map Prod.fst = state.positionsUntil limit := by
  have keys : state.keysUntil provider limit before =
      SkippedKeys.entriesOf state.receivingGeneration messageKeys := by
    simp only [keysUntil, isChain, advanced]
  refine ⟨keys, ?_⟩
  rw [keys, Chain.slots_advanceBy _ advanced]
  simp only [positionsUntil, isChain]

/-- A chain that has reached the limit passes nothing. -/
theorem keysUntil_of_reached (reached : ∀ chain, state.receivingChain = some chain →
    limit ≤ chain.index) (provider : Provider σ) (before : σ) :
    state.keysUntil provider limit before = [] ∧ state.positionsUntil limit = [] := by
  cases isChain : state.receivingChain with
  | none => simp only [keysUntil, positionsUntil, isChain, and_self]
  | some chain =>
    have none : limit.toNat - chain.index.toNat = 0 :=
      Nat.sub_eq_zero_of_le (UInt32.le_iff_toNat_le.1 (reached chain isChain))
    simp only [keysUntil, positionsUntil, isChain, Slot.upTo, none]
    exact ⟨rfl, rfl⟩

/-- Positions in front of the chain are not behind it. -/
theorem not_behind_of_positionsUntil {slot : Slot} (member : slot ∈ state.positionsUntil limit) :
    ¬ state.Behind slot := by
  cases isChain : state.receivingChain with
  | none =>
    simp only [positionsUntil, isChain] at member
    cases member
  | some chain =>
    simp only [positionsUntil, isChain, Slot.mem_upTo] at member
    obtain ⟨same, reached, _⟩ := member
    rw [behind_iff isChain]
    rintro (older | ⟨_, below⟩)
    · exact UInt32.lt_irrefl _ (same ▸ older)
    · exact UInt32.not_le.2 below reached

/-! ### The cache -/

/-- Caching the keys that the chain passes keeps the newest entries. -/
theorem toList_insertAll_passed {chain next : Chain} {messageKeys : List MessageKey}
    (coherent : state.skipped.Coherent) (caches : state.CachesBehind)
    (isChain : state.receivingChain = some chain)
    (advanced : chain.advanceBy provider (limit.toNat - chain.index.toNat) before =
      .ok (messageKeys, next) after) :
    (state.skipped.insertAll state.receivingGeneration messageKeys).toList =
      (state.skipped.toList ++ state.keysUntil provider limit before).rtake
        state.skipped.capacity := by
  obtain ⟨keys, positions⟩ := keysUntil_of_advanced isChain advanced
  rw [keys] at positions ⊢
  refine coherent.toList_insertAll ?_ (fun slot member => ?_)
  · rw [Chain.slots_advanceBy _ advanced]
    exact Slot.nodup_upTo _ _ _
  · rw [positions] at member
    rw [← Bool.not_eq_true]
    exact fun held => not_behind_of_positionsUntil member (caches slot held)

/-- Passing over the rest of a chain derives the keys of its positions, no more than the limits
allow, and caches them. -/
theorem skipReceivingUntil_passes
    (skipped : skipReceivingUntil provider limits limit state before = .ok result after)
    (coherent : state.skipped.Coherent) (caches : state.CachesBehind) :
    result.skipped.toList =
        (state.skipped.toList ++ state.keysUntil provider limit before).rtake
          state.skipped.capacity ∧
      (state.keysUntil provider limit before).map Prod.fst = state.positionsUntil limit ∧
      (state.positionsUntil limit).length ≤ limits.maxSkip.toNat := by
  rcases skipReceivingUntil_eq_ok skipped with
    ⟨rfl, reached⟩ | ⟨chain, messageKeys, next, isChain, below, within, advanced, rfl⟩
  · obtain ⟨noKeys, noPositions⟩ := keysUntil_of_reached reached provider before
    rw [noKeys, noPositions, List.append_nil, List.rtake,
      Nat.sub_eq_zero_of_le (coherent.length_toList ▸ coherent.fits), List.drop_zero]
    exact ⟨rfl, rfl, Nat.zero_le _⟩
  · have gap := UInt32.toNat_sub_of_le _ _ (UInt32.le_of_lt below)
    rw [gap] at advanced
    refine ⟨toList_insertAll_passed coherent caches isChain advanced,
      (keysUntil_of_advanced isChain advanced).2, ?_⟩
    simp only [positionsUntil, isChain, Slot.length_upTo]
    rw [← gap]
    exact UInt32.le_iff_toNat_le.1 within

/-- Reception caches the keys of the positions in front of its own, no more than the limits allow.
When its key comes out of the cache, there are none. -/
theorem receive_passes {index : UInt32} {key : FixedBytes 32}
    (received : receive provider limits index state before = .ok (key, result) after)
    (coherent : state.skipped.Coherent) (caches : state.CachesBehind) :
    SkippedKeys.KeepsNewest state.skipped.capacity state.skipped.toList
        (state.keysUntil provider index before) result.skipped.toList ∧
      (state.keysUntil provider index before).map Prod.fst = state.positionsUntil index ∧
      (state.positionsUntil index).length ≤ limits.maxSkip.toNat := by
  rcases receive_eq_ok received with
    ⟨chain, isChain, behind, _, rfl⟩ |
    ⟨chain, messageKeys, last, _, next, _, isChain, reached, within, passed, _, _, rfl⟩
  · have passesNothing : ∀ other, state.receivingChain = some other → index ≤ other.index := by
      intro other isOther
      cases isChain.symm.trans isOther
      exact UInt32.le_of_lt behind
    obtain ⟨noKeys, noPositions⟩ := keysUntil_of_reached passesNothing provider before
    rw [noKeys, noPositions]
    refine ⟨SkippedKeys.keepsNewest_nil ?_, rfl, Nat.zero_le _⟩
    rw [coherent.toList_erase]
    exact List.filter_subset_self _
  · have gap := UInt32.toNat_sub_of_le _ _ reached
    rw [gap] at passed
    refine ⟨?_, (keysUntil_of_advanced isChain passed).2, ?_⟩
    · change SkippedKeys.KeepsNewest _ _ _
        (state.skipped.insertAll state.receivingGeneration messageKeys).toList
      rw [toList_insertAll_passed coherent caches isChain passed]
      exact (SkippedKeys.keepsNewest_nil (List.Subset.refl _)).append _
    · simp only [positionsUntil, isChain, Slot.length_upTo]
      rw [← gap]
      exact UInt32.le_iff_toNat_le.1 within

theorem toList_forgetChains (gone : List SupersededKey) (skipped : SkippedKeys (FixedBytes 32)) :
    (forgetChains gone skipped).toList = skipped.toList.filter
      (fun entry => gone.all (fun superseded => entry.1.generation != superseded.generation)) := by
  induction gone generalizing skipped with
  | nil => simp [forgetChains]
  | cons first rest inductionHypothesis =>
    rw [forgetChains, List.foldl_cons, ← forgetChains, inductionHypothesis,
      SkippedKeys.toList_removeGeneration, List.filter_filter]
    exact List.filter_congr (fun entry _ => by rw [List.all_cons, Bool.and_comm])

end RatchetState

end RatchetMessaging
