import RatchetMessaging.Proofs.Ratchet.Turn

/-!
Contract: the positions whose message key one side of a session can still obtain.

Owns:
- `Behind`, for the positions that the receiving chains have passed, and `Obtainable`, for those
  that are not behind or whose key is cached;
- `Narrows`, for a change after which only positions are obtainable that were so before;
- reception, on a chain and over a turn: it narrows what is obtainable, and it uses up the
  position that it serves.

Does not own: the memory of accepted positions, on which none of this depends.
-/

namespace RatchetMessaging.RatchetState

variable {σ : Type} {provider : Provider σ} {before after : σ}
variable {limits : RatchetLimits} {state middle result : RatchetState} {slot : Slot}

/-- The receiving chains have passed the position. -/
def Behind (state : RatchetState) (slot : Slot) : Prop :=
  slot.generation < state.receivingGeneration ∨
    slot.generation = state.receivingGeneration ∧
      ∃ position ∈ state.receivingChain.map Chain.index, slot.index < position

/-- The key of the position can still be had: out of the cache, or from a chain that has not
passed it. -/
def Obtainable (state : RatchetState) (slot : Slot) : Prop :=
  state.skipped.contains slot = true ∨ ¬ state.Behind slot

/-- Only keys of passed positions are cached. -/
def CachesBehind (state : RatchetState) : Prop :=
  ∀ slot, state.skipped.contains slot = true → state.Behind slot

theorem behind_iff {chain : Chain} (isChain : state.receivingChain = some chain) :
    state.Behind slot ↔
      slot.generation < state.receivingGeneration ∨
        slot.generation = state.receivingGeneration ∧ slot.index < chain.index := by
  simp [Behind, isChain]

theorem generation_le_of_behind (behind : state.Behind slot) :
    slot.generation ≤ state.receivingGeneration := by
  rcases behind with below | ⟨same, _⟩
  · exact UInt32.le_of_lt below
  · exact UInt32.le_of_eq same

theorem not_obtainable_iff :
    ¬ state.Obtainable slot ↔ state.skipped.contains slot = false ∧ state.Behind slot := by
  simp [Obtainable]

/-- A change that passes positions, and caches only keys that were obtainable. -/
structure Narrows (state result : RatchetState) : Prop where
  behind : ∀ slot, state.Behind slot → result.Behind slot
  cached : ∀ slot, result.skipped.contains slot = true → state.Obtainable slot
  cachesBehind : state.CachesBehind → result.CachesBehind

namespace Narrows

theorem obtainable (narrows : Narrows state result) (still : result.Obtainable slot) :
    state.Obtainable slot := by
  rcases still with cached | notBehind
  · exact narrows.cached slot cached
  · exact .inr (fun behind => notBehind (narrows.behind slot behind))

theorem trans (first : Narrows state middle) (second : Narrows middle result) :
    Narrows state result where
  behind slot behind := second.behind slot (first.behind slot behind)
  cached slot cached := first.obtainable (second.cached slot cached)
  cachesBehind caches := second.cachesBehind (first.cachesBehind caches)

/-- A change that leaves the receiving chains alone and caches no further key. -/
theorem of_not_moved (generation : result.receivingGeneration = state.receivingGeneration)
    (position : result.receivingChain.map Chain.index = state.receivingChain.map Chain.index)
    (cache : ∀ slot, result.skipped.contains slot = true → state.skipped.contains slot = true) :
    Narrows state result := by
  have sameBehind : ∀ slot, result.Behind slot ↔ state.Behind slot := by
    intro slot
    rw [Behind, Behind, generation, position]
  exact {
    behind := fun slot behind => (sameBehind slot).2 behind
    cached := fun slot cached => .inl (cache slot cached)
    cachesBehind := fun caches slot cached =>
      (sameBehind slot).2 (caches slot (cache slot cached)) }

/-- The chain moves on, and keys that it has passed are cached. -/
theorem of_moved {chain next : Chain} {messageKeys : List MessageKey}
    (isChain : state.receivingChain = some chain)
    (forward : chain.index.toNat ≤ next.index.toNat)
    (passed : ∀ messageKey ∈ messageKeys, chain.index.toNat ≤ messageKey.index.toNat ∧
      messageKey.index.toNat < next.index.toNat) :
    Narrows state { state with
      receivingChain := some next
      skipped := state.skipped.insertAll state.receivingGeneration messageKeys } := by
  have origin : ∀ slot,
      (state.skipped.insertAll state.receivingGeneration messageKeys).contains slot = true →
        state.skipped.contains slot = true ∨
          slot.generation = state.receivingGeneration ∧
            chain.index.toNat ≤ slot.index.toNat ∧ slot.index.toNat < next.index.toNat := by
    intro slot held
    obtain ⟨key, found⟩ := SkippedKeys.contains_iff.1 held
    rcases SkippedKeys.get?_of_get?_insertAll found with ⟨messageKey, member, rfl, _⟩ | earlier
    · exact .inr ⟨rfl, passed messageKey member⟩
    · exact .inl (SkippedKeys.contains_iff.2 ⟨key, earlier⟩)
  have passes : ∀ slot, state.Behind slot →
      RatchetState.Behind { state with
        receivingChain := some next
        skipped := state.skipped.insertAll state.receivingGeneration messageKeys } slot := by
    intro slot behind
    rw [behind_iff isChain] at behind
    rw [behind_iff rfl]
    rcases behind with older | ⟨same, below⟩
    · exact .inl older
    · rw [UInt32.lt_iff_toNat_lt] at below
      exact .inr ⟨same, UInt32.lt_iff_toNat_lt.2 (by omega)⟩
  refine ⟨passes, ?_, ?_⟩
  · intro slot held
    rcases origin slot held with cached | ⟨same, reached, _⟩
    · exact .inl cached
    · refine .inr (fun behind => ?_)
      rcases (behind_iff isChain).1 behind with older | ⟨_, below⟩
      · exact UInt32.lt_irrefl _ (same ▸ older)
      · rw [UInt32.lt_iff_toNat_lt] at below
        omega
  · intro caches slot held
    rcases origin slot held with cached | ⟨same, _, below⟩
    · exact passes slot (caches slot cached)
    · exact (behind_iff rfl).2 (.inr ⟨same, UInt32.lt_iff_toNat_lt.2 below⟩)

end Narrows

theorem narrows_of_skipReceivingUntil {limit : UInt32}
    (skipped : skipReceivingUntil provider limits limit state before = .ok result after) :
    Narrows state result := by
  rcases skipReceivingUntil_eq_ok skipped with
    ⟨rfl, _⟩ | ⟨chain, messageKeys, next, isChain, _, _, advanced, rfl⟩
  · exact .of_not_moved rfl rfl (fun _ cached => cached)
  · have moved := (Chain.advanceBy_eq_ok advanced).2
    refine .of_moved isChain (by omega) (fun messageKey member => ?_)
    have range := Chain.index_of_mem_advanceBy advanced member
    omega

/-- Reception narrows what is obtainable and uses up the position it serves. -/
theorem receive_narrows {index : UInt32} {key : FixedBytes 32}
    (received : state.receive provider limits index before = .ok (key, result) after) :
    Narrows state result ∧
      (state.CachesBehind →
        state.Obtainable ⟨state.receivingGeneration, index⟩ ∧
          ¬ result.Obtainable ⟨state.receivingGeneration, index⟩) := by
  rcases receive_eq_ok received with
    ⟨chain, isChain, behind, cached, rfl⟩ |
    ⟨chain, messageKeys, last, messageKey, next, _, isChain, reached, _, passed, advanced, rfl,
      rfl⟩
  · refine ⟨.of_not_moved rfl rfl (fun slot held => ?_), fun _ => ⟨?_, ?_⟩⟩
    · obtain ⟨held, found⟩ := SkippedKeys.contains_iff.1 held
      exact SkippedKeys.contains_iff.2 ⟨held, SkippedKeys.get?_of_get?_erase found⟩
    · exact .inl (SkippedKeys.contains_iff.2 ⟨key, cached⟩)
    · exact not_obtainable_iff.2
        ⟨SkippedKeys.contains_erase_self _ _, (behind_iff isChain).2 (.inr ⟨rfl, behind⟩)⟩
  · rw [UInt32.le_iff_toNat_le] at reached
    have lastIndex : last.index.toNat = index.toNat := by
      have moved := (Chain.advanceBy_eq_ok passed).2
      rw [UInt32.toNat_sub_of_le _ _ (UInt32.le_iff_toNat_le.2 reached)] at moved
      omega
    obtain ⟨notLast, _, nextIndex⟩ := Chain.advance_eq_ok advanced
    have nextPosition : next.index.toNat = index.toNat + 1 := by
      rw [nextIndex, toNat_succ_of_ne_last notLast, lastIndex]
    have within : ∀ messageKey ∈ messageKeys, chain.index.toNat ≤ messageKey.index.toNat ∧
        messageKey.index.toNat < index.toNat := by
      intro messageKey member
      have range := Chain.index_of_mem_advanceBy passed member
      rw [UInt32.toNat_sub_of_le _ _ (UInt32.le_iff_toNat_le.2 reached)] at range
      omega
    have ahead : ¬ state.Behind ⟨state.receivingGeneration, index⟩ := by
      rw [behind_iff isChain]
      rintro (older | ⟨_, below⟩)
      · exact UInt32.lt_irrefl _ older
      · rw [UInt32.lt_iff_toNat_lt] at below
        change index.toNat < chain.index.toNat at below
        omega
    refine ⟨.of_moved isChain (by omega) (fun messageKey member => ?_),
      fun caches => ⟨.inr ahead, not_obtainable_iff.2 ⟨?_, ?_⟩⟩⟩
    · have range := within messageKey member
      omega
    · rw [← Bool.not_eq_true]
      intro held
      obtain ⟨found, look⟩ := SkippedKeys.contains_iff.1 held
      rcases SkippedKeys.get?_of_get?_insertAll look with ⟨messageKey, member, same, _⟩ | earlier
      · have range := within messageKey member
        rw [← (Slot.mk.inj same).2] at range
        omega
      · exact ahead (caches _ (SkippedKeys.contains_iff.2 ⟨found, earlier⟩))
    · refine (behind_iff rfl).2 (.inr ⟨rfl, UInt32.lt_iff_toNat_lt.2 ?_⟩)
      change index.toNat < next.index.toNat
      omega

/-- The turn of the receiver passes every position of the generations so far. -/
theorem receivingTurn_narrows {header : MessageHeader}
    (turned : state.receivingTurn provider limits header before = .ok result after) :
    Narrows state result := by
  obtain ⟨passed, _, _, _, _, _, skipped, notLast, _, _, rfl⟩ := receivingTurn_eq_ok turned
  refine (narrows_of_skipReceivingUntil skipped).trans ?_
  obtain ⟨gone, kept, _, superseded⟩ := supersede_eq limits passed
  rw [superseded]
  have older : ∀ slot, passed.Behind slot →
      slot.generation < passed.receivingGeneration + 1 := by
    intro slot behind
    rw [UInt32.lt_iff_toNat_lt, toNat_succ_of_ne_last notLast]
    rcases behind with older | ⟨same, _⟩
    · rw [UInt32.lt_iff_toNat_lt] at older
      omega
    · rw [same]
      exact Nat.lt_succ_self _
  have cachedBefore : ∀ slot, (forgetChains gone passed.skipped).contains slot = true →
      passed.skipped.contains slot = true := by
    intro slot held
    obtain ⟨key, found⟩ := SkippedKeys.contains_iff.1 held
    exact SkippedKeys.contains_iff.2 ⟨key, get?_of_get?_forgetChains found⟩
  exact {
    behind := fun slot behind => .inl (older slot behind)
    cached := fun slot held => .inl (cachedBefore slot held)
    cachesBehind := fun caches slot held =>
      .inl (older slot (caches slot (cachedBefore slot held))) }

end RatchetMessaging.RatchetState
