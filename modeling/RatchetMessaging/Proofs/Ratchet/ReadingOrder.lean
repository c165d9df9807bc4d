import RatchetMessaging.Proofs.Provider.Steady
import RatchetMessaging.Proofs.Ratchet.PassedKeys
import RatchetMessaging.Proofs.Ratchet.RecordingOrder

/-!
Contract: what a state has become after positions of known chains were read.

Owns:
- `Chain.Leads`, a chain that has moved on and the keys that it has derived, which a steady provider
  derives in one way only;
- `EvictsNothing`, for a reception that leaves every cached key and every passed one in the cache;
- `HasRead`, a description of the state after a list of positions: of all keys that there were and
  that the chain has derived, those of the positions that were not read are cached in their order;
- that the description fixes the state, and does not depend on the order of the positions.

Does not own: messages, and the keys of new chains.
-/

namespace RatchetMessaging

variable {σ : Type} {provider : Provider σ} {healthy : σ → Prop} {before after : σ}

/-! ### Chains -/

namespace Chain

variable {chain middle next other : Chain} {messageKeys otherKeys more : List MessageKey}

theorem advanceBy_append {between : σ} {count further : Nat}
    (first : chain.advanceBy provider count before = .ok (messageKeys, middle) between)
    (second : middle.advanceBy provider further between = .ok (more, next) after) :
    chain.advanceBy provider (count + further) before = .ok (messageKeys ++ more, next) after := by
  induction count generalizing chain messageKeys before with
  | zero =>
    simp only [advanceBy, Crypto.pure_eq_ok, Prod.mk.injEq] at first
    obtain ⟨⟨rfl, rfl⟩, rfl⟩ := first
    rw [Nat.zero_add]
    exact second
  | succ count inductionHypothesis =>
    simp only [advanceBy, Crypto.bind_eq_ok, Crypto.pure_eq_ok, Prod.exists,
      Prod.mk.injEq] at first
    obtain ⟨_, _, _, advanced, _, _, _, others, ⟨rfl, rfl⟩, rfl⟩ := first
    rw [Nat.succ_add]
    simp only [advanceBy, Crypto.bind_eq_ok, Crypto.pure_eq_ok, Prod.exists, Prod.mk.injEq]
    exact ⟨_, _, _, advanced, _, _, _, inductionHypothesis others, ⟨rfl, rfl⟩, rfl⟩

theorem advanceBy_one {messageKey : MessageKey}
    (advanced : chain.advance provider before = .ok (messageKey, next) after) :
    chain.advanceBy provider 1 before = .ok ([messageKey], next) after := by
  simp only [advanceBy, Crypto.bind_eq_ok, Crypto.pure_eq_ok, Prod.exists, Prod.mk.injEq]
  exact ⟨_, _, _, advanced, _, _, _, ⟨⟨rfl, rfl⟩, rfl⟩, ⟨rfl, rfl⟩, rfl⟩

/-- The keys that a chain, if there is one, has derived on its way to another. -/
inductive Leads (provider : Provider σ) (healthy : σ → Prop) :
    Option Chain → List MessageKey → Option Chain → Prop
  | stays (chain : Option Chain) : Leads provider healthy chain [] chain
  | moves {chain next : Chain} {messageKeys : List MessageKey} {before after : σ}
      (isHealthy : healthy before)
      (advanced : chain.advanceBy provider messageKeys.length before =
        .ok (messageKeys, next) after) :
      Leads provider healthy (some chain) messageKeys (some next)

namespace Leads

variable {from? to? other? : Option Chain}

theorem isSome_eq (leads : Leads provider healthy from? messageKeys to?) :
    to?.isSome = from?.isSome := by
  cases leads with
  | stays => rfl
  | moves => rfl

theorem of_none (leads : Leads provider healthy none messageKeys to?) : messageKeys = [] := by
  cases leads
  rfl

theorem indices (leads : Leads provider healthy (some chain) messageKeys to?) :
    messageKeys.map (fun messageKey => messageKey.index.toNat) =
        List.range' chain.index.toNat messageKeys.length ∧
      ∃ next, to? = some next ∧ next.index.toNat = chain.index.toNat + messageKeys.length := by
  cases leads with
  | stays => exact ⟨rfl, chain, rfl, rfl⟩
  | moves _ advanced =>
    obtain ⟨indices, position⟩ := advanceBy_eq_ok advanced
    exact ⟨indices, _, rfl, position⟩

/-- A chain that has moved on moves on. -/
theorem append (steady : provider.Steady healthy)
    (leads : Leads provider healthy from? messageKeys (some middle)) (isHealthy : healthy before)
    (advanced : middle.advanceBy provider more.length before = .ok (more, next) after) :
    Leads provider healthy from? (messageKeys ++ more) (some next) := by
  cases leads with
  | stays => exact .moves isHealthy advanced
  | moves startsHealthy earlier =>
    -- The further keys are the same from the state in which the first ones were derived.
    have between := (steady.met.advanceBy _ _ _ _ _ startsHealthy earlier).1
    obtain ⟨_, again⟩ := (steady.met.advanceBy _ _ _ _ _ isHealthy advanced).2 _ between
    have whole := advanceBy_append earlier again
    rw [← List.length_append] at whole
    exact .moves startsHealthy whole

theorem of_nil (leads : Leads provider healthy from? [] to?) : to? = from? := by
  cases leads with
  | stays => rfl
  | moves _ advanced =>
    simp only [List.length_nil, advanceBy, Crypto.pure_eq_ok, Prod.mk.injEq] at advanced
    rw [advanced.1.2]

/-- Equally many keys are the same keys, and lead to the same chain. -/
theorem eq_of_length (steady : provider.Steady healthy)
    (leads : Leads provider healthy from? messageKeys to?)
    (otherLeads : Leads provider healthy from? otherKeys other?)
    (sameLength : messageKeys.length = otherKeys.length) :
    messageKeys = otherKeys ∧ to? = other? := by
  cases leads with
  | stays =>
    cases List.eq_nil_of_length_eq_zero sameLength.symm
    exact ⟨rfl, otherLeads.of_nil.symm⟩
  | moves isHealthy advanced =>
    cases otherLeads with
    | stays =>
      cases List.eq_nil_of_length_eq_zero sameLength
      exact ⟨rfl, (Leads.moves isHealthy advanced).of_nil⟩
    | moves otherHealthy otherAdvanced =>
      obtain ⟨_, again⟩ := (steady.met.advanceBy _ _ _ _ _ isHealthy advanced).2 _ otherHealthy
      rw [sameLength, otherAdvanced] at again
      cases again
      exact ⟨rfl, rfl⟩

end Leads

end Chain

/-! ### One position -/

namespace RatchetState

variable {limits : RatchetLimits} {base state result other : RatchetState}
  {slots others : List Slot} {slot : Slot} {messageKeys otherKeys : List MessageKey}
  {key : FixedBytes 32}

/-- Every key that was cached, except that of the position that is read, and every key that is
passed over is cached afterwards. A cache without room never holds a key. -/
def EvictsNothing (state : RatchetState) (passed : List Slot) (slot : Slot)
    (result : RatchetState) : Prop :=
  state.skipped.capacity = 0 ∨
    ∀ probe, state.skipped.contains probe = true ∨ probe ∈ passed → probe ≠ slot →
      result.skipped.contains probe = true

theorem evictsNothing_iff {passed : List Slot} : EvictsNothing state passed slot result ↔
    state.skipped.capacity = 0 ∨ ∀ probe ∈ state.skipped.keys.keys ++ passed, probe ≠ slot →
      result.skipped.contains probe = true := by
  have isCached : ∀ probe, probe ∈ state.skipped.keys.keys ++ passed ↔
      state.skipped.contains probe = true ∨ probe ∈ passed := by
    intro probe
    rw [List.mem_append, OrderedMap.mem_keys_iff, SkippedKeys.contains_iff]
    rfl
  simp only [EvictsNothing, isCached]

instance (state : RatchetState) (passed : List Slot) (slot : Slot) (result : RatchetState) :
    Decidable (EvictsNothing state passed slot result) :=
  decidable_of_iff' _ evictsNothing_iff

/-- All entries of a queue are left when their positions are. -/
theorem rtake_eq_self_of_slots {capacity : Nat} {entries : List (Slot × FixedBytes 32)}
    (distinct : (entries.map Prod.fst).Nodup)
    (kept : ∀ entry ∈ entries, entry.1 ∈ (entries.rtake capacity).map Prod.fst) :
    entries.rtake capacity = entries := by
  have newest : SkippedKeys.KeepsNewest capacity [] entries (entries.rtake capacity) :=
    ⟨[], rfl, List.Subset.refl _⟩
  have fits := (newest.forall_mem_iff distinct.of_map (fun _ _ => List.not_mem_nil)).1 ?_
  · rw [List.rtake, Nat.sub_eq_zero_of_le fits, List.drop_zero]
  · intro entry member
    obtain ⟨held, isHeld, samePosition⟩ := List.mem_map.1 (kept entry member)
    rw [← List.inj_on_of_nodup_map distinct (List.mem_of_mem_drop isHeld) member samePosition]
    exact isHeld

/-- The keys that a chain passes on its way to a position belong to positions in front of the chain
and below that one. -/
theorem entries_ahead {chain last : Chain} {middle : σ} {index : UInt32}
    (isChain : state.receivingChain = some chain)
    (passes : chain.advanceBy provider (index.toNat - chain.index.toNat) before =
      .ok (messageKeys, last) middle) :
    ∀ entry ∈ SkippedKeys.entriesOf state.receivingGeneration messageKeys,
      entry.1 ∈ state.positionsUntil index ∧ ¬ state.Behind entry.1 ∧ entry.1.index < index := by
  obtain ⟨keys, positions⟩ := keysUntil_of_advanced isChain passes
  rw [keys] at positions
  intro entry member
  have isPassed : entry.1 ∈ state.positionsUntil index := by
    rw [← positions]
    exact List.mem_map_of_mem member
  refine ⟨isPassed, not_behind_of_positionsUntil isPassed, ?_⟩
  simp only [positionsUntil, isChain, Slot.mem_upTo] at isPassed
  exact isPassed.2.2

/-- Without eviction the cache takes in all keys that the chain passes. -/
theorem toList_insertAll_of_kept {chain last : Chain} {middle : σ}
    (coherent : state.skipped.Coherent) (caches : state.CachesBehind)
    (isChain : state.receivingChain = some chain)
    (passes : chain.advanceBy provider (slot.index.toNat - chain.index.toNat) before =
      .ok (messageKeys, last) middle)
    (isAhead : ¬ state.Behind slot)
    (kept : ∀ probe, state.skipped.contains probe = true ∨
      probe ∈ state.positionsUntil slot.index → probe ≠ slot →
      (state.skipped.insertAll state.receivingGeneration messageKeys).contains probe = true) :
    (state.skipped.insertAll state.receivingGeneration messageKeys).toList =
      state.skipped.toList ++ SkippedKeys.entriesOf state.receivingGeneration messageKeys := by
  have ahead := entries_ahead isChain passes
  have entries := toList_insertAll_passed coherent caches isChain passes
  rw [(keysUntil_of_advanced isChain passes).1] at entries
  have held : ∀ entry ∈ state.skipped.toList, state.skipped.contains entry.1 = true :=
    fun entry member => coherent.mem_slots.1 (List.mem_map_of_mem member)
  have distinct : ((state.skipped.toList ++
      SkippedKeys.entriesOf state.receivingGeneration messageKeys).map Prod.fst).Nodup := by
    rw [List.map_append, List.nodup_append]
    refine ⟨coherent.nodup_toList, ?_, ?_⟩
    · rw [Chain.slots_advanceBy _ passes]
      exact Slot.nodup_upTo _ _ _
    · rintro probe isHeld _ isNew rfl
      obtain ⟨entry, member, rfl⟩ := List.mem_map.1 isNew
      exact (ahead entry member).2.1 (caches _ (coherent.mem_slots.1 isHeld))
  rw [entries]
  apply rtake_eq_self_of_slots distinct
  intro entry member
  rw [← entries, (coherent.insertAll _ _).mem_slots]
  rcases List.mem_append.1 member with isHeld | isNew
  · refine kept _ (.inl (held entry isHeld)) (fun same => isAhead ?_)
    exact same ▸ caches _ (held entry isHeld)
  · obtain ⟨isPassed, _, below⟩ := ahead entry isNew
    refine kept _ (.inr isPassed) ?_
    rintro rfl
    exact UInt32.lt_irrefl _ below

/-! ### Many positions -/

/-- The state after positions were read, in whatever order. -/
structure HasRead (provider : Provider σ) (healthy : σ → Prop) (base : RatchetState)
    (slots : List Slot) (messageKeys : List MessageKey) (state : RatchetState) : Prop where
  frame : state = { base with
    receivingChain := state.receivingChain, skipped := state.skipped, replay := state.replay }
  leads : Chain.Leads provider healthy base.receivingChain messageKeys state.receivingChain
  behind : ∀ slot ∈ slots, state.Behind slot
  /-- The chain has moved on no further than to a position that was read. -/
  last : ∀ messageKey, messageKeys.getLast? = some messageKey →
    ⟨base.receivingGeneration, messageKey.index⟩ ∈ slots
  caches : state.CachesBehind
  coherent : state.skipped.Coherent
  capacity : state.skipped.capacity = base.skipped.capacity
  entries : base.skipped.capacity ≠ 0 → state.skipped.toList =
    (base.skipped.toList ++ SkippedKeys.entriesOf base.receivingGeneration messageKeys).filter
      (fun entry => entry.1 ∉ slots)
  replay : state.replay = base.replay.recordingAll slots

namespace HasRead

theorem start (caches : base.CachesBehind) (coherent : base.skipped.Coherent) :
    HasRead provider healthy base [] [] base where
  frame := rfl
  leads := .stays _
  behind _ member := by cases member
  last _ isLast := by cases isLast
  caches := caches
  coherent := coherent
  capacity := rfl
  entries _ := by simp [SkippedKeys.entriesOf]
  replay := rfl

theorem generation (hasRead : HasRead provider healthy base slots messageKeys state) :
    state.receivingGeneration = base.receivingGeneration := by
  rw [hasRead.frame]

theorem toList_of_no_capacity (hasRead : HasRead provider healthy base slots messageKeys state)
    (noCapacity : base.skipped.capacity = 0) : state.skipped.toList = [] := by
  have size := hasRead.coherent.fits
  rwa [hasRead.capacity, noCapacity, ← hasRead.coherent.length_toList, Nat.le_zero,
    List.length_eq_zero_iff] at size

/-- Whatever is cached was cached at first, or the chain has derived it. -/
theorem mem_of_cached (hasRead : HasRead provider healthy base slots messageKeys state)
    (found : state.skipped.get? slot = some key) :
    (slot, key) ∈ base.skipped.toList ++
      SkippedKeys.entriesOf base.receivingGeneration messageKeys := by
  have member := hasRead.coherent.mem_toList.2 found
  by_cases noCapacity : base.skipped.capacity = 0
  · rw [hasRead.toList_of_no_capacity noCapacity] at member
    cases member
  · rw [hasRead.entries noCapacity] at member
    exact List.mem_of_mem_filter member

/-- A key is taken out of the cache. -/
theorem cached (hasRead : HasRead provider healthy base slots messageKeys state)
    (found : state.skipped.get? slot = some key) :
    HasRead provider healthy base (slots ++ [slot]) messageKeys
      (RatchetState.recording { state with skipped := state.skipped.erase slot } slot) where
  frame := by
    rw [hasRead.frame]
    rfl
  leads := hasRead.leads
  behind probe member := by
    rcases List.mem_append.1 member with earlier | isNew
    · exact hasRead.behind probe earlier
    · rw [List.mem_singleton.1 isNew]
      exact hasRead.caches slot (SkippedKeys.contains_iff.2 ⟨key, found⟩)
  last messageKey isLast := List.mem_append_left _ (hasRead.last messageKey isLast)
  caches probe held := by
    obtain ⟨_, look⟩ := SkippedKeys.contains_iff.1 held
    exact hasRead.caches probe
      (SkippedKeys.contains_iff.2 ⟨_, SkippedKeys.get?_of_get?_erase look⟩)
  coherent := hasRead.coherent.erase slot
  capacity := (SkippedKeys.capacity_erase _ _).trans hasRead.capacity
  entries someCapacity := by
    change (state.skipped.erase slot).toList = _
    rw [hasRead.coherent.toList_erase, hasRead.entries someCapacity, List.filter_filter]
    apply List.filter_congr
    intro entry _
    rw [Bool.eq_iff_iff]
    simp [and_comm]
  replay := by
    rw [ReplayWindow.recordingAll_concat, ← hasRead.replay]
    rfl

/-- The keys that a chain passes on its way to a position in front of it join what is left. -/
theorem toList_append (hasRead : HasRead provider healthy base slots messageKeys state)
    (someCapacity : base.skipped.capacity ≠ 0) {passedKeys : List MessageKey}
    {messageKey : MessageKey} (slot : Slot)
    (isSlot : ⟨base.receivingGeneration, messageKey.index⟩ = slot) (isAhead : ¬ state.Behind slot)
    (ahead : ∀ entry ∈ SkippedKeys.entriesOf base.receivingGeneration passedKeys,
      ¬ state.Behind entry.1 ∧ entry.1 ≠ slot) :
    state.skipped.toList ++ SkippedKeys.entriesOf base.receivingGeneration passedKeys =
      (base.skipped.toList ++ SkippedKeys.entriesOf base.receivingGeneration
        (messageKeys ++ (passedKeys ++ [messageKey]))).filter
          (fun entry => entry.1 ∉ slots ++ [slot]) := by
  have earlier : state.skipped.toList =
      (base.skipped.toList ++ SkippedKeys.entriesOf base.receivingGeneration messageKeys).filter
        (fun entry => entry.1 ∉ slots ++ [slot]) := by
    -- The position itself was not cached.
    have others : state.skipped.toList =
        state.skipped.toList.filter (fun entry => entry.1 ≠ slot) := by
      symm
      rw [List.filter_eq_self]
      intro entry member
      have behind := hasRead.caches _
        (hasRead.coherent.mem_slots.1 (List.mem_map_of_mem (f := Prod.fst) member))
      exact decide_eq_true (fun same => isAhead (same ▸ behind))
    rw [others, hasRead.entries someCapacity, List.filter_filter]
    apply List.filter_congr
    intro entry _
    rw [Bool.eq_iff_iff]
    simp [and_comm]
  have passed : (SkippedKeys.entriesOf base.receivingGeneration passedKeys).filter
      (fun entry => entry.1 ∉ slots ++ [slot]) =
        SkippedKeys.entriesOf base.receivingGeneration passedKeys := by
    rw [List.filter_eq_self]
    intro entry member
    obtain ⟨notBehind, different⟩ := ahead entry member
    apply decide_eq_true
    rw [List.mem_append, List.mem_singleton]
    rintro (wasRead | same)
    · exact notBehind (hasRead.behind _ wasRead)
    · exact different same
  have itself : (SkippedKeys.entriesOf base.receivingGeneration [messageKey]).filter
      (fun entry => entry.1 ∉ slots ++ [slot]) = [] := by
    simp [SkippedKeys.entriesOf, isSlot]
  have parts : base.skipped.toList ++ SkippedKeys.entriesOf base.receivingGeneration
        (messageKeys ++ (passedKeys ++ [messageKey])) =
      base.skipped.toList ++ SkippedKeys.entriesOf base.receivingGeneration messageKeys ++
        (SkippedKeys.entriesOf base.receivingGeneration passedKeys ++
          SkippedKeys.entriesOf base.receivingGeneration [messageKey]) := by
    rw [SkippedKeys.entriesOf_append, SkippedKeys.entriesOf_append, List.append_assoc]
  rw [parts, List.filter_append, ← earlier, List.filter_append, passed, itself, List.append_nil]

/-- The chain moves on to a position in front of it, and caches the keys on the way. -/
theorem passed (steady : provider.Steady healthy)
    (hasRead : HasRead provider healthy base slots messageKeys state) {index : UInt32}
    {chain last next : Chain} {passedKeys : List MessageKey} {messageKey : MessageKey} {middle : σ}
    (isHealthy : healthy before) (isChain : state.receivingChain = some chain)
    (reached : chain.index ≤ index)
    (passes : chain.advanceBy provider (index.toNat - chain.index.toNat) before =
      .ok (passedKeys, last) middle)
    (advanced : last.advance provider middle = .ok (messageKey, next) after)
    (narrows : Narrows state result) (isBehind : result.Behind ⟨state.receivingGeneration, index⟩)
    (isResult : result = { state with
      receivingChain := some next
      skipped := state.skipped.insertAll state.receivingGeneration passedKeys })
    (evictsNothing : EvictsNothing state (state.positionsUntil index)
      ⟨state.receivingGeneration, index⟩ result) :
    HasRead provider healthy base (slots ++ [⟨state.receivingGeneration, index⟩])
        (messageKeys ++ (passedKeys ++ [messageKey]))
        (result.recording ⟨state.receivingGeneration, index⟩) ∧
      (⟨state.receivingGeneration, index⟩, messageKey.key) ∈ base.skipped.toList ++
        SkippedKeys.entriesOf base.receivingGeneration
          (messageKeys ++ (passedKeys ++ [messageKey])) := by
  have lastIndex : last.index = index := by
    have moved := (Chain.advanceBy_eq_ok passes).2
    rw [UInt32.le_iff_toNat_le] at reached
    exact UInt32.toNat_inj.1 (by omega)
  obtain ⟨_, keyIndex, _⟩ := Chain.advance_eq_ok advanced
  have isSlot : (⟨base.receivingGeneration, messageKey.index⟩ : Slot) =
      ⟨state.receivingGeneration, index⟩ := by
    rw [hasRead.generation, keyIndex, lastIndex]
  have isAhead : ¬ state.Behind ⟨state.receivingGeneration, index⟩ := by
    rw [behind_iff isChain]
    rintro (older | ⟨_, below⟩)
    · exact UInt32.lt_irrefl _ older
    · exact UInt32.not_lt.2 reached below
  subst isResult
  constructor
  · constructor
    case frame =>
      rw [hasRead.frame]
      rfl
    case leads =>
      have whole := Chain.advanceBy_append passes (Chain.advanceBy_one advanced)
      rw [← Chain.length_advanceBy passes, ← List.length_singleton (a := messageKey),
        ← List.length_append] at whole
      have leads := hasRead.leads
      rw [isChain] at leads
      exact leads.append steady isHealthy whole
    case behind =>
      intro probe member
      rcases List.mem_append.1 member with earlier | isNew
      · exact narrows.behind probe (hasRead.behind probe earlier)
      · rw [List.mem_singleton.1 isNew]
        exact isBehind
    case last =>
      intro lastKey isLast
      rw [← List.append_assoc, List.getLast?_concat] at isLast
      cases isLast
      rw [isSlot]
      exact List.mem_append_right _ List.mem_cons_self
    case caches => exact narrows.cachesBehind hasRead.caches
    case coherent => exact hasRead.coherent.insertAll _ _
    case capacity => exact (SkippedKeys.capacity_insertAll _ _ _).trans hasRead.capacity
    case replay =>
      rw [ReplayWindow.recordingAll_concat, ← hasRead.replay]
      rfl
    case entries =>
      intro someCapacity
      have kept := evictsNothing.resolve_left (hasRead.capacity ▸ someCapacity)
      have ahead := entries_ahead isChain passes
      change (state.skipped.insertAll state.receivingGeneration passedKeys).toList = _
      rw [toList_insertAll_of_kept hasRead.coherent hasRead.caches isChain passes isAhead kept]
      rw [hasRead.generation] at isSlot isAhead ahead ⊢
      refine hasRead.toList_append someCapacity _ isSlot isAhead (fun entry member => ?_)
      obtain ⟨_, notBehind, below⟩ := ahead entry member
      refine ⟨notBehind, fun same => ?_⟩
      rw [same] at below
      exact UInt32.lt_irrefl _ below
  · rw [← isSlot, SkippedKeys.entriesOf_append, SkippedKeys.entriesOf_append]
    exact List.mem_append_right _ (List.mem_append_right _
      (List.mem_append_right _ List.mem_cons_self))

/-- A position of the present chain is read: its key is cached, or the chain moves on to it. -/
theorem receive (steady : provider.Steady healthy)
    (hasRead : HasRead provider healthy base slots messageKeys state) {index : UInt32}
    (received : state.receive provider limits index before = .ok (key, result) after)
    (isHealthy : healthy before)
    (evictsNothing : EvictsNothing state (state.positionsUntil index)
      ⟨state.receivingGeneration, index⟩ result) :
    ∃ more, HasRead provider healthy base (slots ++ [⟨state.receivingGeneration, index⟩])
        (messageKeys ++ more) (result.recording ⟨state.receivingGeneration, index⟩) ∧
      (⟨state.receivingGeneration, index⟩, key) ∈ base.skipped.toList ++
        SkippedKeys.entriesOf base.receivingGeneration (messageKeys ++ more) := by
  obtain ⟨narrows, uses⟩ := receive_narrows received
  obtain ⟨_, isBehind⟩ := not_obtainable_iff.1 (uses hasRead.caches).2
  rcases receive_eq_ok received with
    ⟨_, _, _, found, rfl⟩ |
    ⟨chain, passedKeys, last, messageKey, next, middle, isChain, reached, _, passes, advanced, rfl,
      isResult⟩
  · refine ⟨[], ?_⟩
    rw [List.append_nil]
    exact ⟨hasRead.cached found, hasRead.mem_of_cached found⟩
  · rw [UInt32.toNat_sub_of_le _ _ reached] at passes
    exact ⟨_, hasRead.passed steady isHealthy isChain reached passes advanced narrows isBehind
      isResult evictsNothing⟩

/-! ### Any order -/

/-- A position that was read is behind the chain, so at least the keys up to it are derived. -/
theorem length_le (hasRead : HasRead provider healthy base slots messageKeys state)
    (otherRead : HasRead provider healthy base others otherKeys other)
    (subset : slots ⊆ others) : messageKeys.length ≤ otherKeys.length := by
  cases isChain : base.receivingChain with
  | none =>
    have leads := hasRead.leads
    rw [isChain] at leads
    rw [leads.of_none]
    exact Nat.zero_le _
  | some chain =>
    rcases List.eq_nil_or_concat' messageKeys with rfl | ⟨front, last, rfl⟩
    · exact Nat.zero_le _
    · have leads := hasRead.leads
      have otherLeads := otherRead.leads
      rw [isChain] at leads otherLeads
      obtain ⟨indices, _⟩ := leads.indices
      obtain ⟨_, next, isNext, position⟩ := otherLeads.indices
      have lastIndex : last.index.toNat = chain.index.toNat + front.length := by
        have ends := congrArg List.getLast? indices
        rw [List.length_append, List.length_singleton, List.range'_1_concat] at ends
        simpa using ends
      have isLast := hasRead.last last List.getLast?_concat
      rcases (behind_iff isNext).1 (otherRead.behind _ (subset isLast)) with older | ⟨_, below⟩
      · exact absurd (otherRead.generation ▸ older) (UInt32.lt_irrefl _)
      · rw [UInt32.lt_iff_toNat_lt] at below
        rw [List.length_append, List.length_singleton]
        change last.index.toNat < _ at below
        omega

/-- The state does not depend on the order in which the positions were read. -/
theorem eq_of_perm (steady : provider.Steady healthy) (orderly : base.replay.Orderly)
    (hasRead : HasRead provider healthy base slots messageKeys state)
    (otherRead : HasRead provider healthy base others otherKeys other)
    (rearranged : slots.Perm others) : messageKeys = otherKeys ∧ state = other := by
  have sameLength : messageKeys.length = otherKeys.length :=
    Nat.le_antisymm (hasRead.length_le otherRead rearranged.subset)
      (otherRead.length_le hasRead rearranged.symm.subset)
  obtain ⟨rfl, sameChain⟩ := hasRead.leads.eq_of_length steady otherRead.leads sameLength
  have sameEntries : state.skipped.toList = other.skipped.toList := by
    by_cases noCapacity : base.skipped.capacity = 0
    · rw [hasRead.toList_of_no_capacity noCapacity, otherRead.toList_of_no_capacity noCapacity]
    · rw [hasRead.entries noCapacity, otherRead.entries noCapacity]
      apply List.filter_congr
      intro entry _
      exact decide_eq_decide.2 (not_congr rearranged.mem_iff)
  have sameCache : state.skipped = other.skipped :=
    hasRead.coherent.ext otherRead.coherent (hasRead.capacity.trans otherRead.capacity.symm)
      sameEntries
  have sameReplay : state.replay = other.replay := by
    rw [hasRead.replay, otherRead.replay, orderly.recordingAll_perm rearranged]
  refine ⟨rfl, ?_⟩
  rw [hasRead.frame, sameChain, sameCache, sameReplay]
  exact otherRead.frame.symm

/-- Every position has one key. -/
theorem nodup_slots (hasRead : HasRead provider healthy base slots messageKeys state)
    (caches : base.CachesBehind) (coherent : base.skipped.Coherent) :
    ((base.skipped.toList ++
      SkippedKeys.entriesOf base.receivingGeneration messageKeys).map Prod.fst).Nodup := by
  cases isChain : base.receivingChain with
  | none =>
    have leads := hasRead.leads
    rw [isChain] at leads
    rw [leads.of_none, SkippedKeys.entriesOf, List.map_nil, List.append_nil]
    exact coherent.nodup_toList
  | some chain =>
    have leads := hasRead.leads
    rw [isChain] at leads
    obtain ⟨indices, _⟩ := leads.indices
    rw [List.map_append, List.nodup_append]
    refine ⟨coherent.nodup_toList, ?_, ?_⟩
    · rw [SkippedKeys.entriesOf, List.map_map]
      apply List.Nodup.of_map (fun slot : Slot => slot.index.toNat)
      rw [List.map_map]
      exact indices ▸ List.nodup_range'
    · rintro probe isCached _ isDerived rfl
      rw [SkippedKeys.entriesOf, List.map_map] at isDerived
      obtain ⟨messageKey, member, rfl⟩ := List.mem_map.1 isDerived
      have reached : chain.index.toNat ≤ messageKey.index.toNat := by
        have index := List.mem_map_of_mem
          (f := fun messageKey : MessageKey => messageKey.index.toNat) member
        rw [indices, List.mem_range'_1] at index
        exact index.1
      rcases (behind_iff isChain).1 (caches _ (coherent.mem_slots.1 isCached)) with
        older | ⟨_, below⟩
      · exact UInt32.lt_irrefl _ older
      · rw [UInt32.lt_iff_toNat_lt] at below
        exact Nat.not_lt.2 reached below

end HasRead

end RatchetState

end RatchetMessaging
