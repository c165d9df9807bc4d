import RatchetMessaging.Ratchet.Turn
import RatchetMessaging.Proofs.Ratchet.Reception

/-!
Contract: what the turns of the Diffie-Hellman ratchet change, whatever the provider does.

Owns:
- the keys of the peer in the order of their generations, and what becomes of them when a
  key is superseded: the oldest are given up, the others stay;
- the result of every turn that succeeds, on either side.

Does not own: the values of root and chain keys.
-/

namespace RatchetMessaging.RatchetState

variable {σ : Type} {provider : Provider σ} {before after : σ}
variable {limits : RatchetLimits} {state result : RatchetState}

/-! ### Superseded keys -/

/-- The peer's ratchet keys with their generations, the oldest first and the present one
last. -/
def placedKeys (state : RatchetState) : List SupersededKey :=
  state.supersededKeys ++
    (state.remoteKey.map (fun key => ⟨key, state.receivingGeneration⟩)).toList

/-- Forget the cached keys of the generations that are given up. -/
def forgetChains (gone : List SupersededKey) (skipped : SkippedKeys (FixedBytes 32)) :
    SkippedKeys (FixedBytes 32) :=
  gone.foldl (fun skipped superseded => (skipped.removeGeneration superseded.generation).2)
    skipped

/-- Remember keys whose chains are given up. -/
def retireKeys (gone : List SupersededKey) (retiredKeys : List X25519PublicKey) :
    List X25519PublicKey :=
  gone.foldl (fun retiredKeys superseded => pushRetired retiredKeys superseded.key) retiredKeys

theorem foldl_retire (gone : List SupersededKey) (state : RatchetState) :
    gone.foldl retire state =
      { state with
        skipped := forgetChains gone state.skipped
        retiredKeys := retireKeys gone state.retiredKeys } := by
  induction gone generalizing state with
  | nil => rfl
  | cons first rest inductionHypothesis =>
    rw [List.foldl_cons, inductionHypothesis]
    rfl

/-- Superseding the present key gives up the oldest placed keys and keeps the others. -/
theorem supersede_eq (limits : RatchetLimits) (state : RatchetState) :
    ∃ gone kept, state.placedKeys = gone ++ kept ∧
      state.supersede limits = { state with
        supersededKeys := kept
        skipped := forgetChains gone state.skipped
        retiredKeys := retireKeys gone state.retiredKeys } := by
  cases remote : state.remoteKey with
  | none =>
    have unchanged : state.supersede limits = state := by simp only [supersede, remote]
    refine ⟨[], state.supersededKeys, by simp [placedKeys, remote], unchanged.trans ?_⟩
    rw [← remote]
    rfl
  | some key =>
    let placed := state.supersededKeys ++ [⟨key, state.receivingGeneration⟩]
    let surplus := placed.length - limits.maxTrackedGenerations
    refine ⟨placed.take surplus, placed.drop surplus, ?_, ?_⟩
    · rw [List.take_append_drop]
      simp [placed, placedKeys, remote]
    · simp only [supersede, remote]
      rw [foldl_retire]

theorem get?_of_get?_forgetChains {gone : List SupersededKey}
    {skipped : SkippedKeys (FixedBytes 32)} {slot : Slot} {key : FixedBytes 32}
    (look : (forgetChains gone skipped).get? slot = some key) : skipped.get? slot = some key := by
  induction gone generalizing skipped with
  | nil => exact look
  | cons first rest inductionHypothesis =>
    exact SkippedKeys.get?_of_get?_removeGeneration (inductionHypothesis look)

theorem get?_forgetChains_of_kept {gone : List SupersededKey} {slot : Slot}
    (kept : ∀ superseded ∈ gone, slot.generation ≠ superseded.generation)
    (skipped : SkippedKeys (FixedBytes 32)) :
    (forgetChains gone skipped).get? slot = skipped.get? slot := by
  induction gone generalizing skipped with
  | nil => rfl
  | cons first rest inductionHypothesis =>
    rw [forgetChains, List.foldl_cons, ← forgetChains,
      inductionHypothesis
        (fun superseded member => kept superseded (List.mem_cons_of_mem _ member)),
      SkippedKeys.get?_removeGeneration, if_neg (kept first List.mem_cons_self)]

theorem size_forgetChains_le (gone : List SupersededKey) (skipped : SkippedKeys (FixedBytes 32)) :
    (forgetChains gone skipped).size ≤ skipped.size := by
  induction gone generalizing skipped with
  | nil => exact Nat.le_refl _
  | cons first rest inductionHypothesis =>
    exact Nat.le_trans (inductionHypothesis _) (SkippedKeys.size_removeGeneration_le _ _)

@[simp] theorem capacity_forgetChains (gone : List SupersededKey)
    (skipped : SkippedKeys (FixedBytes 32)) :
    (forgetChains gone skipped).capacity = skipped.capacity := by
  induction gone generalizing skipped with
  | nil => rfl
  | cons first rest inductionHypothesis =>
    rw [forgetChains, List.foldl_cons, ← forgetChains, inductionHypothesis,
      SkippedKeys.capacity_removeGeneration]

theorem skipped_supersede (limits : RatchetLimits) (state : RatchetState) :
    (state.supersede limits).skipped.size ≤ state.skipped.size ∧
      (state.supersede limits).skipped.capacity = state.skipped.capacity := by
  obtain ⟨gone, kept, _, superseded⟩ := supersede_eq limits state
  rw [superseded]
  exact ⟨size_forgetChains_le gone state.skipped, capacity_forgetChains gone state.skipped⟩

theorem mem_of_mem_pushRetired {retiredKeys : List X25519PublicKey} {key probe : X25519PublicKey}
    (member : probe ∈ pushRetired retiredKeys key) : probe ∈ retiredKeys ∨ probe = key := by
  unfold pushRetired at member
  simp only at member
  split at member
  · simpa using List.mem_of_mem_drop member
  · simpa using member

theorem mem_of_mem_retireKeys {gone : List SupersededKey} {retiredKeys : List X25519PublicKey}
    {key : X25519PublicKey} (member : key ∈ retireKeys gone retiredKeys) :
    key ∈ retiredKeys ∨ ∃ superseded ∈ gone, superseded.key = key := by
  induction gone generalizing retiredKeys with
  | nil => exact .inl member
  | cons first rest inductionHypothesis =>
    rcases inductionHypothesis member with earlier | ⟨superseded, later, same⟩
    · rcases mem_of_mem_pushRetired earlier with retired | isFirst
      · exact .inl retired
      · exact .inr ⟨first, List.mem_cons_self, isFirst.symm⟩
    · exact .inr ⟨superseded, List.mem_cons_of_mem _ later, same⟩

/-! ### Turns -/

/-- The turn of the sender keeps everything about the receiving side. -/
theorem sendingTurn_eq_ok (turned : sendingTurn provider state before = .ok result after) :
    ∃ remoteKey keyPair shared rootKey chainKey drawn agreed,
      state.remoteKey = some remoteKey ∧
      X25519KeyPair.generate provider before = .ok keyPair drawn ∧
      keyPair.shared provider remoteKey drawn = .ok shared agreed ∧
      stepRoot provider state.rootKey shared agreed = .ok (rootKey, chainKey) after ∧
      result = { state with
        rootKey := rootKey
        previousSendingChainLength := (state.sendingChain.map Chain.index).getD 0
        sendingChain := some ⟨.sending, chainKey, 0⟩
        keyPair := keyPair
        sendingRatchetPending := false
        ratchetSteps := state.ratchetSteps + 1 } := by
  cases remote : state.remoteKey with
  | none => simp [sendingTurn, remote] at turned
  | some remoteKey =>
    simp only [sendingTurn, remote, Crypto.bind_eq_ok, Crypto.pure_eq_ok, Prod.exists] at turned
    obtain ⟨keyPair, drawn, generated, shared, agreed, agreement, rootKey, chainKey, _, stepped,
      rfl, rfl⟩ := turned
    exact ⟨remoteKey, keyPair, shared, rootKey, chainKey, drawn, agreed, rfl, generated,
      agreement, stepped, rfl⟩

/-- The turn of the receiver passes over the rest of the present chain, supersedes the present
key, and starts the next generation on the header's key. -/
theorem receivingTurn_eq_ok {header : MessageHeader}
    (turned : receivingTurn provider limits header state before = .ok result after) :
    ∃ passed shared rootKey chainKey middle agreed,
      skipReceivingUntil provider limits header.previousChainLength state before =
        .ok passed middle ∧
      passed.receivingGeneration ≠ 0xFFFFFFFF ∧
      passed.keyPair.shared provider header.ratchetKey middle = .ok shared agreed ∧
      stepRoot provider passed.rootKey shared agreed = .ok (rootKey, chainKey) after ∧
      result = { passed.supersede limits with
        rootKey := rootKey
        receivingChain := some ⟨.receiving, chainKey, 0⟩
        receivingGeneration := passed.receivingGeneration + 1
        remoteKey := some header.ratchetKey
        sendingRatchetPending := true
        ratchetSteps := passed.ratchetSteps + 1 } := by
  simp only [receivingTurn, Crypto.bind_eq_ok] at turned
  obtain ⟨passed, middle, skipped, turned⟩ := turned
  split at turned
  · simp [Crypto.bind_eq_ok] at turned
  · rename_i notLast
    simp only [Crypto.bind_eq_ok, Crypto.pure_eq_ok, Prod.exists] at turned
    obtain ⟨shared, agreed, agreement, rootKey, chainKey, _, stepped, rfl, rfl⟩ := turned
    exact ⟨passed, shared, rootKey, chainKey, middle, agreed, skipped, notLast, agreement,
      stepped, rfl⟩

end RatchetMessaging.RatchetState
