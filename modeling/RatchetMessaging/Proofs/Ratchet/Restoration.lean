import RatchetMessaging.Proofs.Connection.TurnFields
import RatchetMessaging.Proofs.Ratchet.EvictionOrder
import RatchetMessaging.Proofs.Ratchet.ReplayBounds

/-!
Contract: a state is read back from its record as it was written.

Owns:
- the cache of passed-over keys, which keeps its keys and the order in which they leave, and the
  memory of accepted positions, which keeps every window;
- `Sided` and `Importable`, what a state has to satisfy for this, and that every state that is read
  from a record satisfies it.

Does not own: which states a session reaches.
-/

namespace RatchetMessaging

/-! ### The cache of passed-over keys -/

namespace SkippedKeys

variable {κ : Type} {cache : SkippedKeys κ}

/-- The queue is as long as the table. -/
theorem Coherent.length_order (coherent : cache.Coherent) : cache.order.length = cache.size := by
  have samePositions : cache.order.Perm cache.keys.keys := by
    rw [List.perm_ext_iff_of_nodup coherent.distinct cache.keys.nodup_keys]
    intro slot
    rw [coherent.listed, OrderedMap.mem_keys_iff]
    exact contains_iff
  rw [samePositions.length_eq]
  exact List.length_map _

theorem Coherent.toList_slots (coherent : cache.Coherent) :
    cache.toList.map Prod.fst = cache.order := by
  have held : ∀ slot ∈ cache.order, ∃ key, cache.get? slot = some key :=
    fun slot member => contains_iff.1 ((coherent.listed slot).1 member)
  unfold toList
  generalize cache.order = order at held
  induction order with
  | nil => rfl
  | cons first rest inductionHypothesis =>
    obtain ⟨key, found⟩ := held first List.mem_cons_self
    have others := inductionHypothesis
      (fun slot member => held slot (List.mem_cons_of_mem _ member))
    simp only [List.filterMap_cons, found, Option.map_some, List.map_cons, others]

theorem mem_toList_iff {slot : Slot} {key : κ} :
    (slot, key) ∈ cache.toList ↔ slot ∈ cache.order ∧ cache.get? slot = some key := by
  simp only [toList, List.mem_filterMap, Option.map_eq_some_iff, Prod.mk.injEq]
  constructor
  · rintro ⟨_, member, _, found, rfl, rfl⟩
    exact ⟨member, found⟩
  · rintro ⟨member, found⟩
    exact ⟨slot, member, key, found, rfl, rfl⟩

theorem insert_of_room {slot : Slot} (absent : cache.contains slot = false)
    (room : cache.size < cache.capacity) (key : κ) :
    cache.insert slot key =
      { cache with keys := cache.keys.insert slot key, order := cache.order ++ [slot] } := by
  have fits : (cache.keys.insert slot key).size ≤ cache.capacity :=
    Nat.le_trans (OrderedMap.size_insert_le _ _ _) room
  unfold insert
  rw [if_neg (by omega), if_neg (by simp [absent])]
  simp only [evict_of_fits fits]

/-- The record of a cached key. -/
def entryRecord (entry : Slot × FixedBytes 32) : Record.SkippedKeyRecord where
  generation := entry.1.generation
  index := entry.1.index
  key := entry.2.toBytes

/-- Keys at new positions that all find room join the end of the queue. -/
theorem insertRecords_of_room {entries : List (Slot × FixedBytes 32)}
    {cache : SkippedKeys (FixedBytes 32)} (distinct : (entries.map Prod.fst).Nodup)
    (fresh : ∀ slot ∈ entries.map Prod.fst, cache.contains slot = false)
    (room : cache.size + entries.length ≤ cache.capacity) :
    cache.insertRecords (entries.map entryRecord) =
      .ok { cache with
        keys := entries.foldl (fun keys entry => keys.insert entry.1 entry.2) cache.keys
        order := cache.order ++ entries.map Prod.fst } := by
  induction entries generalizing cache with
  | nil => simp [insertRecords]
  | cons first rest inductionHypothesis =>
    obtain ⟨firstOnce, restDistinct⟩ := List.nodup_cons.1 distinct
    rw [List.length_cons] at room
    rw [List.map_cons, insertRecords]
    simp only [entryRecord, FixedBytes.ofBytes?_toBytes]
    rw [insert_of_room (fresh first.1 List.mem_cons_self) (by omega)]
    have grown := OrderedMap.size_insert_le cache.keys first.1 first.2
    rw [inductionHypothesis restDistinct]
    · simp
    · intro slot member
      have different : first.1 ≠ slot := by
        rintro rfl
        exact firstOnce member
      have absent := fresh slot (List.mem_cons_of_mem _ member)
      rw [contains, OrderedMap.contains, OrderedMap.find?_insert_other _ different]
      exact absent
    · change (cache.keys.insert first.1 first.2).size + rest.length ≤ cache.capacity
      change cache.keys.size + (rest.length + 1) ≤ cache.capacity at room
      omega

/-- A cache is read back with its keys in their order. -/
theorem Coherent.ofRecords_toRecords {cache : SkippedKeys (FixedBytes 32)}
    (coherent : cache.Coherent) : ofRecords cache.toRecords cache.capacity = .ok cache := by
  have slots := coherent.toList_slots
  have entries : (cache.toList.map Prod.fst).Nodup := by
    rw [slots]
    exact coherent.distinct
  have room : cache.toList.length ≤ cache.capacity := by
    have sameLength := congrArg List.length slots
    rw [List.length_map, coherent.length_order] at sameLength
    rw [sameLength]
    exact coherent.fits
  have sameKeys : OrderedMap.ofList cache.toList = cache.keys := by
    apply OrderedMap.ext_find?
    intro slot key
    rw [OrderedMap.find?_ofList_eq_some_iff entries, mem_toList_iff, coherent.listed]
    constructor
    · exact And.right
    · exact fun found => ⟨contains_iff.2 ⟨key, found⟩, found⟩
  refine (insertRecords_of_room entries (fun _ _ => rfl) ?_).trans ?_
  · rw [show (new cache.capacity : SkippedKeys (FixedBytes 32)).size = 0 from rfl, Nat.zero_add]
    exact room
  · change Except.ok (SkippedKeys.mk cache.capacity (OrderedMap.ofList cache.toList)
      ([] ++ cache.toList.map Prod.fst)) = _
    rw [sameKeys, slots, List.nil_append]

/-- A cache that is read, from whatever records, has the reader's capacity and a queue that fits its
keys. -/
theorem coherent_of_insertRecords {records : List Record.SkippedKeyRecord}
    {cache filled : SkippedKeys (FixedBytes 32)} (coherent : cache.Coherent)
    (read : cache.insertRecords records = .ok filled) :
    filled.Coherent ∧ filled.capacity = cache.capacity := by
  induction records generalizing cache with
  | nil =>
    cases read
    exact ⟨coherent, rfl⟩
  | cons first rest inductionHypothesis =>
    unfold insertRecords at read
    split at read
    · cases read
    · obtain ⟨coherentFilled, sameCapacity⟩ := inductionHypothesis (coherent.insert _ _) read
      exact ⟨coherentFilled, sameCapacity.trans (capacity_insert _ _ _)⟩

end SkippedKeys

/-! ### The memory of accepted positions -/

namespace ReplayWindow

/-- A memory is read back under its own bounds with every window. -/
theorem ofRecord_toRecord {replay : ReplayWindow} {window : UInt32} {maxGenerations : Nat}
    (width : replay.window = (new window maxGenerations).window)
    (count : replay.maxGenerations = (new window maxGenerations).maxGenerations) :
    ofRecord replay.toRecord window maxGenerations = replay := by
  have windows : replay.toRecord.generations.map (fun entry =>
      (entry.generation, GenerationWindow.mk entry.highest
        (.ofList (entry.seen.map (fun index => (index, ())))))) = replay.generations.entries := by
    rw [toRecord, List.map_map]
    conv_rhs => rw [← List.map_id replay.generations.entries]
    apply List.map_congr_left
    rintro ⟨generation, highest, seen⟩ _
    have positions : seen.keys.map (fun index => (index, ())) = seen.entries := by
      rw [OrderedMap.keys, List.map_map]
      exact List.map_id _
    simp only [Function.comp_apply, positions, OrderedMap.ofList_entries, id]
  rw [ofRecord, windows, OrderedMap.ofList_entries]
  obtain ⟨_, _, floor, generations⟩ := replay
  cases width
  cases count
  rfl

end ReplayWindow

/-! ### States -/

namespace RatchetState

variable {σ τ : Type} {provider : Provider σ} {working : Provider τ} {before after : σ}
  {limits : RatchetLimits} {state restored : RatchetState}

/-- Chains have the directions of their places, and the own key pair belongs together. -/
structure Sided (provider : Provider σ) (state : RatchetState) : Prop where
  sending : ∀ chain, state.sendingChain = some chain → chain.kind = .sending
  receiving : ∀ chain, state.receivingChain = some chain → chain.kind = .receiving
  keyPair : state.keyPair.Matches provider

/-- What a state has to satisfy to be read back as it is, with the provider and under the limits. -/
structure Importable (provider : Provider σ) (limits : RatchetLimits) (state : RatchetState) :
    Prop extends Sided provider state where
  retired : state.retiredKeys.length ≤ maxRetiredKeys
  coherent : state.skipped.Coherent
  capacity : state.skipped.capacity = limits.maxSkippedMessageKeys
  width : state.replay.window =
    (ReplayWindow.new limits.replayWindow limits.maxTrackedGenerations).window
  count : state.replay.maxGenerations =
    (ReplayWindow.new limits.replayWindow limits.maxTrackedGenerations).maxGenerations

theorem readRetired_toBytes {keys : List X25519PublicKey} (kept : keys.length ≤ maxRetiredKeys) :
    readRetired (keys.map X25519PublicKey.toBytes) = .ok keys := by
  have read : (keys.map X25519PublicKey.toBytes).mapM
      (X25519PublicKey.ofField "retired ratchet key") = .ok keys := by
    clear kept
    induction keys with
    | nil => rfl
    | cons first rest inductionHypothesis =>
      rw [List.map_cons, List.mapM_cons, X25519PublicKey.ofField_toBytes, inductionHypothesis]
      rfl
  unfold readRetired
  rw [read]
  change Except.ok (keys.drop (keys.length - maxRetiredKeys)) = _
  rw [Nat.sub_eq_zero_of_le kept, List.drop_zero]

theorem chain_of_kind {kind : ChainKind} {chain : Option Chain}
    (isKind : ∀ found, chain = some found → found.kind = kind) :
    chain.map (fun found => { found with kind := kind }) = chain := by
  cases chain with
  | none => rfl
  | some found => rw [Option.map_some, ← isKind found rfl]

/-- A state is read back with everything that it held. -/
theorem Importable.ofRecord_toRecord (importable : state.Importable provider limits)
    (connectionId : UInt32) :
    Crypto.Returns (ofRecord provider limits (state.toRecord connectionId)) state := by
  have cache : SkippedKeys.ofRecords state.skipped.toRecords limits.maxSkippedMessageKeys =
      .ok state.skipped := by
    rw [← importable.capacity]
    exact importable.coherent.ofRecords_toRecords
  have memory : readReplay limits (some state.replay.toRecord) = state.replay :=
    ReplayWindow.ofRecord_toRecord importable.width importable.count
  have sameVersion : ¬(state.toRecord connectionId).version ≠ Record.SessionRecord.currentVersion :=
    not_not_intro rfl
  unfold ofRecord
  rw [if_neg sameVersion]
  simp only [toRecord, FixedBytes.ofBytes?_toBytes, readRemoteKey_toBytes,
    readSuperseded_toRecords, readRetired_toBytes importable.retired, Chain.ofRecord?_toRecord,
    chain_of_kind importable.sending, chain_of_kind importable.receiving, cache, memory]
  -- The five checks in front of the key pair need no provider.
  iterate 5 refine (Crypto.returns_ofExcept rfl).bind ?_
  refine importable.keyPair.ofStored.bind ?_
  exact (Crypto.returns_ofExcept rfl).bind (Crypto.returns_pure _)

theorem length_of_readRetired {fields : List Bytes} {keys : List X25519PublicKey}
    (read : readRetired fields = .ok keys) : keys.length ≤ maxRetiredKeys := by
  unfold readRetired at read
  cases areKeys : fields.mapM (X25519PublicKey.ofField "retired ratchet key") with
  | error failure =>
    rw [areKeys] at read
    cases read
  | ok all =>
    rw [areKeys] at read
    have dropped : all.drop (all.length - maxRetiredKeys) = keys := Except.ok.inj read
    rw [← dropped, List.length_drop]
    omega

theorem kind_of_ofRecord? {kind : ChainKind} {record : Option Record.ChainRecord}
    {chain : Option Chain} (read : Chain.ofRecord? kind record = .ok chain) :
    ∀ found, chain = some found → found.kind = kind := by
  rintro found rfl
  cases record with
  | none => cases read
  | some stored =>
    simp only [Chain.ofRecord?, Chain.ofRecord] at read
    split at read
    · cases read
      rfl
    · cases read

/-- Every state that is read from a record can be read back from its own record, also by another
provider that repeats the first one. -/
theorem importable_of_repeats (repeats : working.Repeats provider)
    {record : Record.ConnectionRecord}
    (read : ofRecord provider limits record before = .ok restored after) :
    restored.Importable working limits := by
  have parts := readFrom_of_ofRecord read
  obtain ⟨coherent, capacity⟩ :=
    SkippedKeys.coherent_of_insertRecords (SkippedKeys.coherent_new _) parts.skipped
  exact {
    sending := kind_of_ofRecord? parts.sendingChain
    receiving := kind_of_ofRecord? parts.receivingChain
    keyPair := X25519KeyPair.matches_of_ofStored repeats parts.keyPair
    retired := length_of_readRetired parts.retiredKeys
    coherent := coherent
    capacity := capacity
    width := by
      rw [parts.replay]
      cases record.replay <;> rfl
    count := by
      rw [parts.replay]
      cases record.replay <;> rfl }

theorem importable_of_ofRecord (steady : provider.SteadyKeys) {record : Record.ConnectionRecord}
    (read : ofRecord provider limits record before = .ok restored after) :
    restored.Importable provider limits :=
  importable_of_repeats steady.repeats read

end RatchetState

end RatchetMessaging
