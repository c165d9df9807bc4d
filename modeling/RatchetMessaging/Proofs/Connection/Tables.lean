import Mathlib.Data.List.Nodup
import RatchetMessaging.Proofs.Connection.TurnFields
import RatchetMessaging.Proofs.Ratchet.EvictionOrder
import RatchetMessaging.Proofs.Ratchet.Obtainable

/-!
Contract: the tables of a state belong together.

Owns:
- `Tables`: the peer's keys are distinct and their generations increase, every cached key can
  still be asked for, the cache lets the oldest positions go first, and all of them are bounded;
- what each part of a reception does to the tables: learning the present key, passing positions,
  taking a cached key, and the turn of the receiver.

Does not own: the memory of accepted positions.
-/

namespace RatchetMessaging.RatchetState

variable {σ : Type} {provider : Provider σ} {before after : σ}
variable {limits : RatchetLimits} {state result : RatchetState} {slot : Slot}

/-- A message may still ask for the position: it lies on a superseded chain that is tracked, or
behind the present chain. -/
def Serves (state : RatchetState) (slot : Slot) : Prop :=
  (∃ superseded ∈ state.supersededKeys, superseded.generation = slot.generation) ∨
    slot.generation = state.receivingGeneration ∧
      ∃ chain, state.receivingChain = some chain ∧ slot.index < chain.index

/-- The tables of keys and cached positions agree with each other and with the limits. -/
structure Tables (limits : RatchetLimits) (state : RatchetState) : Prop where
  /-- The superseded keys, the present one and the retired ones are pairwise distinct. -/
  distinctKeys : (state.placedKeys.map SupersededKey.key ++ state.retiredKeys).Nodup
  /-- The generations of superseded chains increase and lie below the present one. -/
  generations :
    (state.supersededKeys.map SupersededKey.generation ++ [state.receivingGeneration]).Pairwise
      (· < ·)
  cached : ∀ slot, state.skipped.contains slot = true → state.Serves slot
  /-- The queue lists the cached positions, each once, within the capacity. -/
  coherent : state.skipped.Coherent
  /-- The queue is in the order of the positions. -/
  queue : state.skipped.order.Pairwise Slot.Before
  capacity : state.skipped.capacity = limits.maxSkippedMessageKeys
  supersededFit : state.supersededKeys.length ≤ limits.maxTrackedGenerations
  retiredFit : state.retiredKeys.length ≤ maxRetiredKeys

theorem placedKeys_generations (state : RatchetState) :
    (state.placedKeys.map SupersededKey.generation).Sublist
      (state.supersededKeys.map SupersededKey.generation ++ [state.receivingGeneration]) := by
  rw [placedKeys, List.map_append]
  apply (List.Sublist.refl _).append
  cases state.remoteKey with
  | none => exact List.nil_sublist _
  | some key => exact List.Sublist.refl _

namespace Tables

theorem generation_le (tables : state.Tables limits) {placed : SupersededKey}
    (member : placed ∈ state.placedKeys) : placed.generation ≤ state.receivingGeneration := by
  have listed := (placedKeys_generations state).mem
    (List.mem_map_of_mem (f := SupersededKey.generation) member)
  rcases List.mem_append.1 listed with superseded | present
  · exact UInt32.le_of_lt ((List.pairwise_append.1 tables.generations).2.2 _ superseded _
      (List.mem_singleton_self _))
  · rw [List.mem_singleton.1 present]
    exact UInt32.le_refl _

/-- A position that may be asked for has been passed. -/
theorem behind_of_serves (tables : state.Tables limits) (serves : state.Serves slot) :
    state.Behind slot := by
  rcases serves with ⟨superseded, member, same⟩ | ⟨same, chain, isChain, below⟩
  · left
    rw [← same]
    exact (List.pairwise_append.1 tables.generations).2.2 _
      (List.mem_map_of_mem (f := SupersededKey.generation) member) _ (List.mem_singleton_self _)
  · exact (behind_iff isChain).2 (.inr ⟨same, below⟩)

theorem cachesBehind (tables : state.Tables limits) : state.CachesBehind :=
  fun slot held => tables.behind_of_serves (tables.cached slot held)

/-! ### Parts of a reception -/

/-- The present key becomes known. -/
theorem learning (tables : state.Tables limits) {key : X25519PublicKey}
    (unknown : state.remoteKey = some key ∨ state.remoteKey = none ∧ ¬ state.Tracks key) :
    Tables limits { state with remoteKey := some key } := by
  rcases unknown with known | ⟨noRemote, untracked⟩
  · rw [← known]
    exact tables
  · refine { tables with distinctKeys := ?_ }
    have others := tables.distinctKeys
    simp only [placedKeys, noRemote, Option.map_none, Option.toList_none, List.append_nil] at others
    simp only [Tracks, noRemote, not_or] at untracked
    obtain ⟨_, notSuperseded, notRetired⟩ := untracked
    simp only [placedKeys, Option.map_some, Option.toList_some, List.map_append, List.map_cons,
      List.map_nil, List.append_assoc, List.singleton_append]
    refine List.nodup_middle.2 (List.nodup_cons.2 ⟨?_, others⟩)
    rw [List.mem_append, List.mem_map]
    rintro (superseded | retired)
    · exact notSuperseded superseded
    · exact notRetired retired

/-- A cached key is taken. -/
theorem taking (tables : state.Tables limits) (slot : Slot) :
    Tables limits { state with skipped := state.skipped.erase slot } where
  distinctKeys := tables.distinctKeys
  generations := tables.generations
  cached probe held := by
    obtain ⟨key, found⟩ := SkippedKeys.contains_iff.1 held
    exact tables.cached probe
      (SkippedKeys.contains_iff.2 ⟨key, SkippedKeys.get?_of_get?_erase found⟩)
  coherent := tables.coherent.erase slot
  queue := tables.queue.sublist (SkippedKeys.order_erase_sublist _ _)
  capacity := (SkippedKeys.capacity_erase _ _).trans tables.capacity
  supersededFit := tables.supersededFit
  retiredFit := tables.retiredFit

/-- The receiving chain moves on, and the keys that it passes are cached. -/
theorem passing (tables : state.Tables limits) {chain reached next : Chain}
    {messageKeys : List MessageKey} {count : Nat}
    (isChain : state.receivingChain = some chain)
    (passed : chain.advanceBy provider count before = .ok (messageKeys, reached) after)
    (further : reached.index.toNat ≤ next.index.toNat) :
    Tables limits { state with
      receivingChain := some next
      skipped := state.skipped.insertAll state.receivingGeneration messageKeys } where
  distinctKeys := tables.distinctKeys
  generations := tables.generations
  cached slot held := by
    have moved := (Chain.advanceBy_eq_ok passed).2
    obtain ⟨key, found⟩ := SkippedKeys.contains_iff.1 held
    rcases SkippedKeys.get?_of_get?_insertAll found with ⟨messageKey, member, rfl, _⟩ | earlier
    · have range := Chain.index_of_mem_advanceBy passed member
      exact .inr ⟨rfl, next, rfl, UInt32.lt_iff_toNat_lt.2 (by simp only; omega)⟩
    · rcases tables.cached slot (SkippedKeys.contains_iff.2 ⟨key, earlier⟩) with
        superseded | ⟨same, served, isServed, below⟩
      · exact .inl superseded
      · cases isChain.symm.trans isServed
        rw [UInt32.lt_iff_toNat_lt] at below
        exact .inr ⟨same, next, rfl, UInt32.lt_iff_toNat_lt.2 (by omega)⟩
  coherent := tables.coherent.insertAll _ _
  queue := by
    refine List.Pairwise.sublist (SkippedKeys.order_insertAll_sublist _ _ _)
      (List.pairwise_append.2 ⟨tables.queue, ?_, ?_⟩)
    · have increasing : (messageKeys.map (fun messageKey => messageKey.index.toNat)).Pairwise
          (· < ·) := by
        rw [(Chain.advanceBy_eq_ok passed).1]
        exact List.pairwise_lt_range'
      refine List.pairwise_map.2 ((List.pairwise_map.1 increasing).imp ?_)
      intro earlier later below
      exact .inr ⟨rfl, UInt32.lt_iff_toNat_lt.2 below⟩
    · -- What was cached lies behind the chain, and what it passes lies ahead.
      intro earlier member later passes
      obtain ⟨messageKey, isPassed, rfl⟩ := List.mem_map.1 passes
      rcases (behind_iff isChain).1
        (tables.cachesBehind earlier ((tables.coherent.listed earlier).1 member)) with
        older | ⟨same, below⟩
      · exact .inl older
      · have range := Chain.index_of_mem_advanceBy passed isPassed
        rw [UInt32.lt_iff_toNat_lt] at below
        exact .inr ⟨same, UInt32.lt_iff_toNat_lt.2 (by simp only; omega)⟩
  capacity := (SkippedKeys.capacity_insertAll _ _ _).trans tables.capacity
  supersededFit := tables.supersededFit
  retiredFit := tables.retiredFit

theorem skipping (tables : state.Tables limits) {limit : UInt32}
    (skipped : skipReceivingUntil provider limits limit state before = .ok result after) :
    result.Tables limits := by
  rcases skipReceivingUntil_eq_ok skipped with
    ⟨rfl, _⟩ | ⟨chain, messageKeys, next, isChain, _, _, advanced, rfl⟩
  · exact tables
  · exact tables.passing isChain advanced (Nat.le_refl _)

theorem receiving (tables : state.Tables limits) {index : UInt32} {key : FixedBytes 32}
    (received : state.receive provider limits index before = .ok (key, result) after) :
    result.Tables limits := by
  rcases receive_eq_ok received with
    ⟨_, _, _, _, rfl⟩ |
    ⟨chain, messageKeys, reached, messageKey, next, _, isChain, _, _, passed, advanced, _, rfl⟩
  · exact tables.taking _
  · obtain ⟨notLast, _, nextIndex⟩ := Chain.advance_eq_ok advanced
    refine tables.passing isChain passed ?_
    rw [nextIndex, toNat_succ_of_ne_last notLast]
    exact Nat.le_succ _

end Tables

/-! ### The turn of the receiver -/

theorem pushRetired_suffix (retiredKeys : List X25519PublicKey) (key : X25519PublicKey) :
    pushRetired retiredKeys key <:+ retiredKeys ++ [key] := by
  unfold pushRetired
  simp only
  split
  · exact List.drop_suffix 1 _
  · exact List.suffix_rfl

theorem retireKeys_sublist (gone : List SupersededKey) (retiredKeys : List X25519PublicKey) :
    (retireKeys gone retiredKeys).Sublist (retiredKeys ++ gone.map SupersededKey.key) := by
  induction gone generalizing retiredKeys with
  | nil => simp [retireKeys]
  | cons first rest inductionHypothesis =>
    rw [retireKeys, List.foldl_cons, ← retireKeys]
    apply (inductionHypothesis _).trans
    have pushed := (pushRetired_suffix retiredKeys first.key).sublist
    simpa using pushed.append (List.Sublist.refl (rest.map SupersededKey.key))

theorem order_forgetChains_sublist (gone : List SupersededKey)
    (skipped : SkippedKeys (FixedBytes 32)) :
    (forgetChains gone skipped).order.Sublist skipped.order := by
  induction gone generalizing skipped with
  | nil => exact List.Sublist.refl _
  | cons first rest inductionHypothesis =>
    exact (inductionHypothesis _).trans (SkippedKeys.order_removeGeneration_sublist _ _)

theorem coherent_forgetChains {skipped : SkippedKeys (FixedBytes 32)} (coherent : skipped.Coherent)
    (gone : List SupersededKey) : (forgetChains gone skipped).Coherent := by
  induction gone generalizing skipped with
  | nil => exact coherent
  | cons first rest inductionHypothesis =>
    exact inductionHypothesis (coherent.removeGeneration first.generation)

/-- No key of a chain that is given up stays in the cache. -/
theorem generation_ne_of_forgetChains {gone : List SupersededKey}
    {skipped : SkippedKeys (FixedBytes 32)} {key : FixedBytes 32}
    (found : (forgetChains gone skipped).get? slot = some key) {superseded : SupersededKey}
    (member : superseded ∈ gone) : superseded.generation ≠ slot.generation := by
  induction gone generalizing skipped with
  | nil => cases member
  | cons first rest inductionHypothesis =>
    rw [forgetChains, List.foldl_cons, ← forgetChains] at found
    rcases List.mem_cons.1 member with rfl | later
    · intro same
      have left := get?_of_get?_forgetChains found
      rw [SkippedKeys.get?_removeGeneration, if_pos same.symm] at left
      cases left
    · exact inductionHypothesis found later

theorem length_supersede_le (fit : state.supersededKeys.length ≤ limits.maxTrackedGenerations) :
    (state.supersede limits).supersededKeys.length ≤ limits.maxTrackedGenerations := by
  unfold supersede
  split
  · exact fit
  · rw [foldl_retire]
    simp only [List.length_drop]
    omega

/-- A cached position belongs to a chain whose key is known. -/
theorem Tables.exists_placed (tables : state.Tables limits)
    (served : state.remoteKey ≠ none ∨ state.receivingChain = none)
    (held : state.skipped.contains slot = true) :
    ∃ placed ∈ state.placedKeys, placed.generation = slot.generation := by
  rcases tables.cached slot held with ⟨placed, member, same⟩ | ⟨same, chain, isChain, _⟩
  · exact ⟨placed, List.mem_append_left _ member, same⟩
  · obtain ⟨remoteKey, remote⟩ := Option.ne_none_iff_exists'.1
      (served.resolve_right (by simp [isChain]))
    exact ⟨⟨remoteKey, state.receivingGeneration⟩, by simp [placedKeys, remote], same.symm⟩

/-- When the oldest chains are given up, an unknown key has no equal among the keys of the others
and the retired ones. -/
theorem Tables.nodup_turned (tables : state.Tables limits) {key : X25519PublicKey}
    (untracked : ¬ state.Tracks key) {gone kept : List SupersededKey}
    (parts : state.placedKeys = gone ++ kept) :
    (kept.map SupersededKey.key ++ key :: retireKeys gone state.retiredKeys).Nodup := by
  have distinct := tables.distinctKeys
  rw [parts, List.map_append] at distinct
  have rearranged : (kept.map SupersededKey.key ++
      (state.retiredKeys ++ gone.map SupersededKey.key)).Nodup := by
    refine (List.Perm.nodup_iff ?_).1 distinct
    rw [List.append_assoc]
    refine List.perm_append_comm.trans ?_
    rw [List.append_assoc]
  have known : ∀ placed ∈ gone ++ kept, placed.key ≠ key := by
    rintro placed member rfl
    rw [← parts] at member
    exact untracked (tracks_of_mem_placedKeys member)
  refine List.nodup_middle.2 (List.nodup_cons.2 ⟨?_, ?_⟩)
  · rw [List.mem_append, List.mem_map]
    rintro (⟨placed, member, same⟩ | retired)
    · exact known placed (List.mem_append_right gone member) same
    · rcases mem_of_mem_retireKeys retired with earlier | ⟨placed, member, same⟩
      · exact untracked (.inr (.inr earlier))
      · exact known placed (List.mem_append_left kept member) same
  · exact rearranged.sublist
      ((List.Sublist.refl _).append (retireKeys_sublist gone state.retiredKeys))

/-- Superseding gives up the oldest chains with all that belongs to them, and makes room for the
key of the next chain. -/
theorem Tables.turning (tables : state.Tables limits) {header : MessageHeader}
    (untracked : ¬ state.Tracks header.ratchetKey)
    (served : state.remoteKey ≠ none ∨ state.receivingChain = none)
    (turned : state.receivingTurn provider limits header before = .ok result after) :
    result.Tables limits := by
  obtain ⟨passed, shared, rootKey, chainKey, _, _, skipped, notLast, _, _, rfl⟩ :=
    receivingTurn_eq_ok turned
  have passedTables := tables.skipping skipped
  have passedServed : passed.remoteKey ≠ none ∨ passed.receivingChain = none := by
    rcases skipReceivingUntil_eq_ok skipped with ⟨rfl, _⟩ | ⟨_, _, _, isChain, _, _, _, rfl⟩
    · exact served
    · exact .inl (served.resolve_right (by simp [isChain]))
  have passedUntracked : ¬ passed.Tracks header.ratchetKey := by
    obtain ⟨_, _, rfl⟩ := skipReceivingUntil_frame skipped
    exact untracked
  have fits := length_supersede_le passedTables.supersededFit
  obtain ⟨gone, kept, parts, superseded⟩ := supersede_eq limits passed
  rw [superseded] at fits ⊢
  have keptMember : ∀ placed ∈ kept, placed ∈ passed.placedKeys := by
    intro placed member
    rw [parts]
    exact List.mem_append_right gone member
  constructor
  case distinctKeys =>
    have distinct := passedTables.nodup_turned passedUntracked parts
    simpa [placedKeys] using distinct
  case generations =>
    have increasing := passedTables.generations.sublist (placedKeys_generations passed)
    rw [parts, List.map_append] at increasing
    refine List.pairwise_append.2
      ⟨(List.pairwise_append.1 increasing).2.1, List.pairwise_singleton _ _, ?_⟩
    intro generation member next isNext
    obtain ⟨placed, isKept, rfl⟩ := List.mem_map.1 member
    have bound := passedTables.generation_le (keptMember placed isKept)
    rw [List.mem_singleton.1 isNext, UInt32.lt_iff_toNat_lt, toNat_succ_of_ne_last notLast]
    rw [UInt32.le_iff_toNat_le] at bound
    omega
  case cached =>
    intro slot held
    obtain ⟨key, found⟩ := SkippedKeys.contains_iff.1 held
    have heldBefore := SkippedKeys.contains_iff.2 ⟨key, get?_of_get?_forgetChains found⟩
    obtain ⟨placed, member, same⟩ := passedTables.exists_placed passedServed heldBefore
    rw [parts, List.mem_append] at member
    have notGone : placed ∉ gone := fun isGone => generation_ne_of_forgetChains found isGone same
    exact .inl ⟨placed, member.resolve_left notGone, same⟩
  case coherent => exact coherent_forgetChains passedTables.coherent gone
  case queue => exact passedTables.queue.sublist (order_forgetChains_sublist gone _)
  case capacity => exact (capacity_forgetChains gone _).trans passedTables.capacity
  case supersededFit => exact fits
  case retiredFit => exact length_retireKeys_le gone passedTables.retiredFit

end RatchetMessaging.RatchetState
