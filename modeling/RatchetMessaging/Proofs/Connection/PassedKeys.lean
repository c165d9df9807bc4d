import RatchetMessaging.Proofs.Connection.LateDelivery
import RatchetMessaging.Proofs.Ratchet.PassedKeys

/-!
Contract: the keys of the positions that one message passes over, on both chains that it touches.

Owns:
- `passedPositions` and `passedKeys`: the rest of the old chain, when a new one starts, and the gap
  in front of the message itself;
- which of these keys are cached once the message is accepted: the newest, as many as the cache
  holds, so all of them unless both gaps together outgrow it;
- a cached key serves the message of its position.

Does not own: whether the replay memory lets that message through.
-/

namespace RatchetMessaging

variable {σ : Type} {provider : Provider σ} {before after : σ}

/-! ### Settings -/

/-- What usable settings say about the limits of a connection. -/
theorem Config.limits_of_validate {config : Config} (valid : config.validate = .ok ()) :
    0 < config.maxTrackedGenerations ∧ config.maxSkip.toNat ≤ config.maxSkippedMessageKeys := by
  constructor
  · by_contra untracked
    have isZero : config.maxTrackedGenerations = 0 := Nat.eq_zero_of_not_pos untracked
    unfold validate at valid
    simp only [isZero, if_true] at valid
    split at valid
    · cases valid
    · split at valid <;> cases valid
  · by_contra small
    unfold validate at valid
    simp only [if_pos (Nat.not_le.1 small)] at valid
    split at valid
    · cases valid
    · split at valid
      · cases valid
      · split at valid <;> cases valid

/-! ### Superseded chains -/

namespace RatchetState

variable {limits : RatchetLimits} {state : RatchetState} {key : X25519PublicKey}

/-- When chains are tracked at all, the one that is superseded is. -/
theorem mem_supersededKeys_supersede (state : RatchetState)
    (tracks : 0 < limits.maxTrackedGenerations) (remote : state.remoteKey = some key) :
    ⟨key, state.receivingGeneration⟩ ∈ (state.supersede limits).supersededKeys := by
  simp only [supersede, remote, foldl_retire]
  rw [List.drop_append_of_le_length]
  · exact List.mem_append_right _ List.mem_cons_self
  · rw [List.length_append, List.length_singleton]
    omega

/-- The key of a superseded chain places its messages there. -/
theorem Tables.place_of_superseded (tables : state.Tables limits) {generation : UInt32}
    (superseded : ⟨key, generation⟩ ∈ state.supersededKeys) :
    state.place key = .previous generation := by
  have distinct := (List.nodup_append.1 tables.distinctKeys).1
  have isPlaced : ⟨key, generation⟩ ∈ state.placedKeys := List.mem_append_left _ superseded
  have notRemote : state.remoteKey ≠ some key := by
    intro remote
    rw [placedKeys, remote, List.map_append] at distinct
    exact (List.nodup_append.1 distinct).2.2 key
      (List.mem_map_of_mem (f := SupersededKey.key) superseded) key (by simp) rfl
  unfold place
  rw [if_neg notRemote]
  split
  · rename_i found isFound
    have sameKey : found.key = key := by simpa using List.find?_some isFound
    have same : found = ⟨key, generation⟩ := List.inj_on_of_nodup_map distinct
      (List.mem_append_left _ (List.mem_of_find?_eq_some isFound)) isPlaced sameKey
    rw [same]
  · rename_i notFound
    rw [List.find?_eq_none] at notFound
    exact absurd (notFound _ superseded) (by simp)

end RatchetState

/-! ### Both gaps of a message -/

namespace Connection

variable {limits : RatchetLimits} {state received : RatchetState} {header : MessageHeader}
  {key : FixedBytes 32} {generation : UInt32}

/-- The positions that a message passes over: in front of its own on the present chain, or first the
rest of the old chain and then the front of the new one. -/
def passedPositions (state : RatchetState) (header : MessageHeader) : List Slot :=
  match state.place header.ratchetKey with
  | .current _ | .adopt _ => state.positionsUntil header.chainIndex
  | .ratchet =>
    state.positionsUntil header.previousChainLength ++
      Slot.upTo (state.receivingGeneration + 1) 0 header.chainIndex
  | .previous _ | .retired | .unexpected => []

/-- The keys that are derived for these positions, from the given state of the provider. -/
def passedKeys (provider : Provider σ) (limits : RatchetLimits) (state : RatchetState)
    (header : MessageHeader) (before : σ) : List (Slot × FixedBytes 32) :=
  match state.place header.ratchetKey with
  | .current _ | .adopt _ => state.keysUntil provider header.chainIndex before
  | .ratchet =>
    state.keysUntil provider header.previousChainLength before ++
      match state.receivingTurn provider limits header before with
      | .ok turned middle => turned.keysUntil provider header.chainIndex middle
      | .error _ _ => []
  | .previous _ | .retired | .unexpected => []

/-- The turn of the receiver leaves the newest keys of the old chain in the cache, none of which
belongs to a chain that is given up. -/
theorem receivingTurn_passes (tables : state.Tables limits)
    (tracks : 0 < limits.maxTrackedGenerations)
    (served : state.remoteKey ≠ none ∨ state.receivingChain = none)
    (turned : state.receivingTurn provider limits header before = .ok received after) :
    SkippedKeys.KeepsNewest limits.maxSkippedMessageKeys state.skipped.toList
        (state.keysUntil provider header.previousChainLength before) received.skipped.toList ∧
      (state.keysUntil provider header.previousChainLength before).map Prod.fst =
        state.positionsUntil header.previousChainLength ∧
      (state.positionsUntil header.previousChainLength).length ≤ limits.maxSkip.toNat := by
  obtain ⟨passed, _, _, _, _, _, skipped, _, _, _, rfl⟩ := RatchetState.receivingTurn_eq_ok turned
  obtain ⟨entries, positions, gap⟩ :=
    RatchetState.skipReceivingUntil_passes skipped tables.coherent tables.cachesBehind
  have passedTables := tables.skipping skipped
  obtain ⟨finished, cache, rfl⟩ := RatchetState.skipReceivingUntil_frame skipped
  obtain ⟨gone, kept, parts, superseded⟩ := RatchetState.supersede_eq limits _
  refine ⟨?_, positions, gap⟩
  rw [superseded]
  simp only
  rw [RatchetState.toList_forgetChains, entries, tables.capacity]
  refine ((SkippedKeys.keepsNewest_nil (List.Subset.refl _)).append _).filter ?_
  intro entry member
  rw [List.nil_append] at member
  rw [List.all_eq_true]
  intro given isGone
  have isPosition : entry.1 ∈ state.positionsUntil header.previousChainLength := by
    rw [← positions]
    exact List.mem_map_of_mem member
  cases isChain : state.receivingChain with
  | none =>
    simp only [RatchetState.positionsUntil, isChain] at isPosition
    cases isPosition
  | some chain =>
    simp only [RatchetState.positionsUntil, isChain, Slot.mem_upTo] at isPosition
    obtain ⟨remoteKey, remote⟩ := Option.ne_none_iff_exists'.1
      (served.resolve_right (by simp [isChain]))
    -- The chain that is left behind is tracked, and what is given up is older.
    have isKept := RatchetState.mem_supersededKeys_supersede
      { state with receivingChain := finished, skipped := cache } tracks remote
    rw [superseded] at isKept
    have increasing := passedTables.placed_increasing
    rw [parts, List.map_append] at increasing
    have older := (List.pairwise_append.1 increasing).2.2 _
      (List.mem_map_of_mem (f := SupersededKey.generation) isGone) _
      (List.mem_map_of_mem (f := SupersededKey.generation) isKept)
    rw [bne_iff_ne, isPosition.1]
    exact (UInt32.ne_of_lt older).symm

/-- On every route the newest of the derived keys are cached. On each chain their number is within
the limit of a gap. -/
theorem Route.passes (route : Route provider limits state header before after key generation
    received) (tables : state.Tables limits) (tracks : 0 < limits.maxTrackedGenerations) :
    SkippedKeys.KeepsNewest limits.maxSkippedMessageKeys state.skipped.toList
        (passedKeys provider limits state header before) received.skipped.toList ∧
      (passedKeys provider limits state header before).map Prod.fst =
        passedPositions state header ∧
      (passedPositions state header).length ≤ 2 * limits.maxSkip.toNat ∧
      (state.place header.ratchetKey ≠ .ratchet →
        (passedPositions state header).length ≤ limits.maxSkip.toNat) := by
  cases route with
  | late placed cached =>
    simp only [passedKeys, passedPositions, placed]
    refine ⟨SkippedKeys.keepsNewest_nil ?_, rfl, Nat.zero_le _, fun _ => Nat.zero_le _⟩
    rw [tables.coherent.toList_erase]
    exact List.filter_subset_self _
  | present placed receives =>
    obtain ⟨newest, positions, gap⟩ :=
      RatchetState.receive_passes receives tables.coherent tables.cachesBehind
    simp only [tables.capacity] at newest
    have sameKeys : passedKeys provider limits state header before =
        state.keysUntil provider header.chainIndex before := by
      unfold passedKeys
      rcases placed with current | adopt
      · rw [current]
      · rw [adopt]
    have samePositions : passedPositions state header =
        state.positionsUntil header.chainIndex := by
      unfold passedPositions
      rcases placed with current | adopt
      · rw [current]
      · rw [adopt]
    rw [sameKeys, samePositions]
    exact ⟨newest, positions, Nat.le_trans gap (by omega), fun _ => gap⟩
  | @turn middle _ turned _ _ placed turns receives =>
    obtain ⟨untracked, served⟩ := RatchetState.place_eq_ratchet placed
    have turnedTables := tables.turning untracked served turns
    obtain ⟨oldNewest, oldPositions, oldGap⟩ :=
      receivingTurn_passes tables tracks served turns
    obtain ⟨_, newPositions, newGap⟩ :=
      RatchetState.receive_passes receives turnedTables.coherent turnedTables.cachesBehind
    obtain ⟨passed, _, _, _, _, _, skipped, _, _, _, isTurned⟩ :=
      RatchetState.receivingTurn_eq_ok turns
    obtain ⟨_, _, rfl⟩ := RatchetState.skipReceivingUntil_frame skipped
    have front : turned.positionsUntil header.chainIndex =
        Slot.upTo (state.receivingGeneration + 1) 0 header.chainIndex := by
      rw [isTurned]
      rfl
    have keys : passedKeys provider limits state header before =
        state.keysUntil provider header.previousChainLength before ++
          turned.keysUntil provider header.chainIndex middle := by
      simp only [passedKeys, placed, turns]
    have positions : passedPositions state header =
        state.positionsUntil header.previousChainLength ++
          turned.positionsUntil header.chainIndex := by
      simp only [passedPositions, placed, front]
    rw [keys, positions]
    refine ⟨?_, ?_, ?_, fun notTurn => absurd placed notTurn⟩
    · -- A new chain starts in front of every message, so none comes out of the cache.
      rcases RatchetState.receive_eq_ok receives with
        ⟨chain, isChain, behind, _⟩ |
        ⟨chain, messageKeys, last, _, next, _, isChain, reached, _, passes, _, _, rfl⟩
      · rw [isTurned] at isChain
        cases isChain
        exact absurd behind (UInt32.not_lt.2 UInt32.zero_le)
      · rw [UInt32.toNat_sub_of_le _ _ reached] at passes
        simp only
        rw [RatchetState.toList_insertAll_passed turnedTables.coherent turnedTables.cachesBehind
          isChain passes, turnedTables.capacity]
        exact oldNewest.append _
    · rw [List.map_append, oldPositions, newPositions]
    · rw [List.length_append]
      omega

/-- No position is passed twice, and none is behind the chains before. -/
theorem passedPositions_ahead (state : RatchetState) (header : MessageHeader)
    (notLast : state.place header.ratchetKey = .ratchet → state.receivingGeneration ≠ 0xFFFFFFFF) :
    (passedPositions state header).Nodup ∧
      ∀ slot ∈ passedPositions state header, ¬ state.Behind slot := by
  have distinct : ∀ limit, (state.positionsUntil limit).Nodup := by
    intro limit
    unfold RatchetState.positionsUntil
    split
    · exact List.nodup_nil
    · exact Slot.nodup_upTo _ _ _
  have newer : state.place header.ratchetKey = .ratchet →
      state.receivingGeneration < state.receivingGeneration + 1 := by
    intro placed
    rw [UInt32.lt_iff_toNat_lt, toNat_succ_of_ne_last (notLast placed)]
    exact Nat.lt_succ_self _
  unfold passedPositions
  split
  · exact ⟨distinct _, fun _ => RatchetState.not_behind_of_positionsUntil⟩
  · exact ⟨distinct _, fun _ => RatchetState.not_behind_of_positionsUntil⟩
  · rename_i placed
    constructor
    · refine List.nodup_append.2 ⟨distinct _, Slot.nodup_upTo _ _ _, ?_⟩
      rintro old isOld new isNew rfl
      have isNewer := (Slot.mem_upTo.1 isNew).1
      unfold RatchetState.positionsUntil at isOld
      split at isOld
      · cases isOld
      · rw [(Slot.mem_upTo.1 isOld).1] at isNewer
        exact UInt32.ne_of_lt (newer placed) isNewer
    · intro slot member
      rcases List.mem_append.1 member with isOld | isNew
      · exact RatchetState.not_behind_of_positionsUntil isOld
      · intro behind
        have bound := RatchetState.generation_le_of_behind behind
        rw [(Slot.mem_upTo.1 isNew).1] at bound
        exact UInt32.not_le.2 (newer placed) bound
  · exact ⟨List.nodup_nil, fun _ member => nomatch member⟩
  · exact ⟨List.nodup_nil, fun _ member => nomatch member⟩
  · exact ⟨List.nodup_nil, fun _ member => nomatch member⟩

/-! ### Messages of passed positions -/

/-- A cached key is the one that the message of its position gets, without any call. -/
theorem receivingKey_of_cached (caches : state.CachesBehind) {slot : Slot}
    (cached : state.skipped.get? slot = some key)
    (placed : (state.place header.ratchetKey).knownGeneration = some slot.generation)
    (sameIndex : header.chainIndex = slot.index) (provider : Provider σ) (limits : RatchetLimits)
    (before : σ) :
    ∃ change, receivingKey provider limits state header before =
      .ok (key, slot.generation, change) before := by
  have behind := caches slot (SkippedKeys.contains_iff.2 ⟨key, cached⟩)
  have onPresent : ∀ chain, state.receivingChain = some chain →
      slot.generation = state.receivingGeneration → slot.index < chain.index := by
    intro chain isChain same
    rcases (RatchetState.behind_iff isChain).1 behind with older | ⟨_, below⟩
    · exact absurd (same ▸ older) (UInt32.lt_irrefl _)
    · exact below
  unfold receivingKey
  cases isPlaced : state.place header.ratchetKey with
  | current generation =>
    rw [isPlaced] at placed
    cases Option.some.inj placed
    obtain ⟨_, hasChain, same⟩ := RatchetState.place_eq_current isPlaced
    obtain ⟨chain, isChain⟩ := Option.isSome_iff_exists.1 hasChain
    simp only [RatchetState.stageReceive, isChain, sameIndex, if_pos (onPresent chain isChain same),
      ← same, cached, pure_bind]
    exact ⟨_, rfl⟩
  | adopt generation =>
    rw [isPlaced] at placed
    cases Option.some.inj placed
    obtain ⟨_, hasChain, same, _⟩ := RatchetState.place_eq_adopt isPlaced
    obtain ⟨chain, isChain⟩ := Option.isSome_iff_exists.1 hasChain
    simp only [RatchetState.stageReceive, isChain, sameIndex, if_pos (onPresent chain isChain same),
      ← same, cached, pure_bind]
    exact ⟨_, rfl⟩
  | previous generation =>
    rw [isPlaced] at placed
    cases Option.some.inj placed
    simp only [sameIndex, cached]
    exact ⟨_, rfl⟩
  | ratchet => simp [isPlaced, Placement.knownGeneration] at placed
  | retired => simp [isPlaced, Placement.knownGeneration] at placed
  | unexpected => simp [isPlaced, Placement.knownGeneration] at placed

/-- The ratchet key belongs to the chain of a position that a message has passed: it is that of the
message, or the one before. -/
def Passed (state received : RatchetState) (header : MessageHeader) (slot : Slot)
    (ratchetKey : X25519PublicKey) : Prop :=
  ratchetKey = header.ratchetKey ∧ slot.generation = received.receivingGeneration ∨
    state.remoteKey = some ratchetKey ∧ slot.generation = state.receivingGeneration

/-- The chains of passed positions still place their messages. -/
theorem Route.place_of_passed (route : Route provider limits state header before after key
    generation received) (tables : state.Tables limits)
    (tracks : 0 < limits.maxTrackedGenerations) {slot : Slot}
    (isPassed : slot ∈ passedPositions state header) {ratchetKey : X25519PublicKey}
    (belongs : Passed state received header slot ratchetKey) :
    (received.place ratchetKey).knownGeneration = some slot.generation := by
  have onPresent : received.remoteKey = some ratchetKey →
      received.receivingChain.isSome = true →
      slot.generation = received.receivingGeneration →
      (received.place ratchetKey).knownGeneration = some slot.generation := by
    intro remote hasChain same
    rw [RatchetState.place_of_remote remote, if_pos hasChain, same]
    rfl
  have receivedTables := route.tables tables
  cases route with
  | late placed cached =>
    simp only [passedPositions, placed] at isPassed
    cases isPassed
  | present placed receives =>
    obtain ⟨chain, cache, rfl⟩ := RatchetState.receive_frame receives
    rcases belongs with ⟨rfl, same⟩ | ⟨remote, same⟩
    · exact onPresent rfl rfl same
    · rcases placed with current | adopt
      · obtain ⟨isRemote, _⟩ := RatchetState.place_eq_current current
        exact onPresent (isRemote ▸ remote) rfl same
      · obtain ⟨noRemote, _⟩ := RatchetState.place_eq_adopt adopt
        rw [noRemote] at remote
        cases remote
  | turn placed turns receives =>
    obtain ⟨chain, cache, rfl⟩ := RatchetState.receive_frame receives
    obtain ⟨passed, _, _, _, _, _, skipped, _, _, _, rfl⟩ := RatchetState.receivingTurn_eq_ok turns
    obtain ⟨_, _, rfl⟩ := RatchetState.skipReceivingUntil_frame skipped
    rcases belongs with ⟨rfl, same⟩ | ⟨remote, same⟩
    · exact onPresent rfl rfl same
    · rw [receivedTables.place_of_superseded
        (RatchetState.mem_supersededKeys_supersede _ tracks remote), same]
      rfl

/-! ### The result -/

/-- A message that is accepted, in any state that a session reaches under usable settings, derives
the keys of the positions that it passes over. Of these keys exactly the newest are cached
afterwards, as many as the cache holds. So all of them are cached exactly when they fit, which they
do unless the message starts a new chain and its two gaps together outgrow the cache. A cached key
is the one that the message of its position gets, if the replay memory lets it through. -/
theorem passed_keys_are_cached_iff_fit {config : Config} (valid : config.validate = .ok ())
    {seed : SessionSeed} {fresh first reached next : Connection} {accepted : List Acceptance}
    (configured : fresh.limits = config.ratchetLimits)
    (established : fresh.establish provider seed before = .ok first after)
    (run : Run (fun connection => connection.limits = config.ratchetLimits) first accepted reached)
    {τ : Type} {reader : Provider τ} {now later : τ} {message : RatchetMessage}
    {plaintext associatedData : Bytes}
    (decrypted : reached.decryptNext reader message associatedData now =
      .ok (plaintext, next) later) :
    ∃ state result derived,
      reached.phase = .established state ∧ next.phase = .established result ∧
      derived = passedKeys reader config.ratchetLimits state message.header now ∧
      derived.map Prod.fst = passedPositions state message.header ∧
      (∀ entry ∈ derived, result.skipped.get? entry.1 = some entry.2 ↔
        entry ∈ derived.rtake config.maxSkippedMessageKeys) ∧
      ((∀ entry ∈ derived, result.skipped.get? entry.1 = some entry.2) ↔
        derived.length ≤ config.maxSkippedMessageKeys) ∧
      (state.place message.header.ratchetKey ≠ .ratchet ∨
          2 * config.maxSkip.toNat ≤ config.maxSkippedMessageKeys →
        derived.length ≤ config.maxSkippedMessageKeys) ∧
      ∀ entry ∈ derived, result.skipped.get? entry.1 = some entry.2 →
        ∀ header : MessageHeader, header.chainIndex = entry.1.index →
          Passed state result message.header entry.1 header.ratchetKey →
          ∀ {υ : Type} (opener : Provider υ) (start : υ), ∃ change,
            receivingKey opener config.ratchetLimits result header start =
              .ok (entry.2, entry.1.generation, change) start := by
  obtain ⟨tracks, oneGapFits⟩ := Config.limits_of_validate valid
  obtain ⟨start, seeded, rfl⟩ := establish_eq_ok established
  rw [configured] at seeded
  obtain ⟨state, isState, retains⟩ := run.retains rfl (retains_of_ofSeed seeded)
  have tables := retains.toTables
  obtain ⟨_, changed, key, generation, _, same, _, route, _, rfl⟩ := decryptNext_eq_ok decrypted
  cases isState.symm.trans same
  rw [run.holds_last] at route
  have changedTables := route.tables tables
  obtain ⟨newest, positions, twoGaps, oneGap⟩ := route.passes tables tracks
  obtain ⟨distinct, ahead⟩ := passedPositions_ahead state message.header
    (fun placed => (route.turned placed).1)
  generalize isDerived :
    passedKeys reader config.ratchetLimits state message.header now = derived at newest positions
  have lengths : derived.length = (passedPositions state message.header).length := by
    rw [← positions, List.length_map]
  rw [← positions] at distinct
  have isPosition : ∀ entry ∈ derived, entry.1 ∈ passedPositions state message.header := by
    intro entry member
    rw [← positions]
    exact List.mem_map_of_mem member
  have unknown : ∀ entry ∈ derived, entry ∉ state.skipped.toList := by
    intro entry member held
    exact ahead _ (isPosition entry member) (tables.cachesBehind _
      (SkippedKeys.contains_iff.2 ⟨_, (SkippedKeys.mem_toList_iff.1 held).2⟩))
  have isCached : ∀ entry, (changed.recording ⟨generation, message.header.chainIndex⟩).skipped.get?
      entry.1 = some entry.2 ↔ entry ∈ changed.skipped.toList :=
    fun _ => changedTables.coherent.mem_toList.symm
  refine ⟨state, _, derived, isState, rfl, isDerived.symm, positions, ?_, ?_, ?_, ?_⟩
  · intro entry member
    rw [isCached, newest.mem_iff (unknown entry member)]
    rfl
  · simp only [isCached]
    exact newest.forall_mem_iff (List.Nodup.of_map _ distinct) unknown
  · rw [lengths]
    rintro (notTurn | roomy)
    · exact Nat.le_trans (oneGap notTurn) oneGapFits
    · exact Nat.le_trans twoGaps roomy
  · intro entry member held header sameIndex belongs υ opener start
    have caches : (changed.recording ⟨generation, message.header.chainIndex⟩).CachesBehind :=
      changedTables.cachesBehind
    exact receivingKey_of_cached caches held
      (route.place_of_passed tables tracks (isPosition entry member) belongs) sameIndex _ _ _

/-- A cache for two keys holds both keys of a message that passes over one position of either
chain. -/
theorem passed_keys_are_cached_iff_fit_sample :
    ∃ (config : Config) (first reached next : Connection) (message : RatchetMessage)
      (accepted : List Acceptance) (result : RatchetState),
      config.validate = .ok () ∧ config.maxSkippedMessageKeys = 2 ∧
      (∃ after, (new 2 config.ratchetLimits).establish .transparent .samplePeer 0 =
        .ok first after) ∧
      Run (fun connection => connection.limits = config.ratchetLimits) first accepted reached ∧
      (∃ plaintext later, reached.decryptNext .transparent message [] 0 =
        .ok (plaintext, next) later) ∧
      next.phase = .established result ∧ result.skipped.contains ⟨0, 1⟩ = true ∧
      result.skipped.contains ⟨1, 0⟩ = true := by
  obtain ⟨first, read, message, begun, established, _, sameLimits, positions, decrypts⟩ :
      ∃ (first : Connection) (read message : RatchetMessage) (begun : Nat),
        (new 2 (Config.ratchetLimits { maxSkip := 1, maxSkippedMessageKeys := 2 })).establish
          .transparent .samplePeer 0 = .ok first begun ∧
        (∃ sender ready moved drawn sent forced turned last final,
          (new 1 (.sample 100)).establish .transparent .sample 0 = .ok sender ready ∧
          sender.encryptNext .transparent [1] [] ready = .ok (read, moved) drawn ∧
          moved.encryptNext .transparent [2] [] drawn = .ok sent drawn ∧
          sent.2.forceRatchet = .ok forced ∧
          forced.encryptNext .transparent [3] [] drawn = .ok turned last ∧
          turned.2.encryptNext .transparent [4] [] last = .ok (message, final) last) ∧
        (first.attempt .transparent (.decrypt read []) 0).connection.limits =
          Config.ratchetLimits { maxSkip := 1, maxSkippedMessageKeys := 2 } ∧
        (first.attempt .transparent (.decrypt read []) 0).connection.state.toOption.map
          (fun state => passedPositions state message.header) = some [⟨0, 1⟩, ⟨1, 0⟩] ∧
        ((Crypto.value? ((first.attempt .transparent (.decrypt read []) 0).connection.decryptNext
          .transparent message []) 0).map Prod.fst) = some [4] :=
    ⟨_, _, _, _, rfl, ⟨_, _, _, _, _, _, _, _, _, rfl, rfl, rfl, rfl, rfl, rfl⟩,
      by decide +kernel, by decide +kernel, by decide +kernel⟩
  obtain ⟨⟨plaintext, next⟩, opened, _⟩ := Option.map_eq_some_iff.1 decrypts
  obtain ⟨later, decrypted⟩ := Crypto.eq_ok_of_value? opened
  have begins : Run (fun connection => connection.limits =
      Config.ratchetLimits { maxSkip := 1, maxSkippedMessageKeys := 2 }) first [] first :=
    .start (limits_of_establish established)
  have run := begins.step .transparent (.decrypt read []) 0 sameLimits
  have valid : Config.validate { maxSkip := 1, maxSkippedMessageKeys := 2 } = .ok () := by
    decide +kernel
  obtain ⟨state, result, derived, isState, isResult, _, derivedAt, _, cachedIff, fits, _⟩ :=
    passed_keys_are_cached_iff_fit valid rfl established run decrypted
  have cached := cachedIff.2 (fits (.inr (Nat.le_refl 2)))
  have slots : derived.map Prod.fst = [⟨0, 1⟩, ⟨1, 0⟩] := by
    rw [derivedAt]
    simpa [Connection.state, isState, Except.toOption] using positions
  have holds : ∀ slot ∈ derived.map Prod.fst, result.skipped.contains slot = true := by
    intro slot member
    obtain ⟨entry, isDerived, rfl⟩ := List.mem_map.1 member
    exact SkippedKeys.contains_iff.2 ⟨_, cached entry isDerived⟩
  rw [slots] at holds
  exact ⟨_, first, _, next, message, _, result, valid, rfl, ⟨_, established⟩, run,
    ⟨_, _, decrypted⟩, isResult, holds _ (by simp), holds _ (by simp)⟩

/-- A cache for one key passes the check of the settings, as one message may skip one position. The
same message skips one on either chain: the key of the old chain is derived and evicted, and the
message of that position is refused, though it was never read and is not remembered. -/
theorem passed_key_is_evicted :
    ∃ (config : Config) (first reached next : Connection) (late message : RatchetMessage)
      (accepted : List Acceptance) (state result : RatchetState),
      config.validate = .ok () ∧
      (∃ after, (new 2 config.ratchetLimits).establish .transparent .samplePeer 0 =
        .ok first after) ∧
      Run (fun connection => connection.limits = config.ratchetLimits) first accepted reached ∧
      accepted.map Acceptance.slot = [⟨0, 0⟩] ∧
      reached.phase = .established state ∧ next.phase = .established result ∧
      (∃ plaintext later, reached.decryptNext .transparent message [] 0 =
        .ok (plaintext, next) later) ∧
      (passedKeys .transparent config.ratchetLimits state message.header 0).map Prod.fst =
        [⟨0, 1⟩, ⟨1, 0⟩] ∧
      result.skipped.order = [⟨1, 0⟩] ∧ result.replay.isReplay 0 1 = false ∧
      result.place late.header.ratchetKey = .previous 0 ∧ late.header.chainIndex = 1 ∧
      (next.attempt .transparent (.decrypt late []) 0).result = .error .replayDetected := by
  obtain ⟨first, read, late, message, begun, established, _, sameLimits, accepts, passes,
      decrypts, refused⟩ :
      ∃ (first : Connection) (read late message : RatchetMessage) (begun : Nat),
        (new 2 (Config.ratchetLimits { maxSkip := 1, maxSkippedMessageKeys := 1 })).establish
          .transparent .samplePeer 0 = .ok first begun ∧
        (∃ sender ready moved drawn sent forced turned last final,
          (new 1 (.sample 100)).establish .transparent .sample 0 = .ok sender ready ∧
          sender.encryptNext .transparent [1] [] ready = .ok (read, moved) drawn ∧
          moved.encryptNext .transparent [2] [] drawn = .ok (late, sent) drawn ∧
          sent.forceRatchet = .ok forced ∧
          forced.encryptNext .transparent [3] [] drawn = .ok turned last ∧
          turned.2.encryptNext .transparent [4] [] last = .ok (message, final) last) ∧
        (first.attempt .transparent (.decrypt read []) 0).connection.limits =
          Config.ratchetLimits { maxSkip := 1, maxSkippedMessageKeys := 1 } ∧
        ([] ++ (first.attempt .transparent (.decrypt read []) 0).accepted).map Acceptance.slot =
          [⟨0, 0⟩] ∧
        (first.attempt .transparent (.decrypt read []) 0).connection.state.toOption.map
          (fun state => (passedKeys .transparent
            (Config.ratchetLimits { maxSkip := 1, maxSkippedMessageKeys := 1 }) state
              message.header 0).map Prod.fst) = some [⟨0, 1⟩, ⟨1, 0⟩] ∧
        ((Crypto.value? ((first.attempt .transparent (.decrypt read []) 0).connection.decryptNext
          .transparent message []) 0).map (fun opened =>
            opened.2.state.toOption.map (fun result =>
              (result.skipped.order, result.replay.isReplay 0 1,
                result.place late.header.ratchetKey, late.header.chainIndex)))) =
          some (some ([⟨1, 0⟩], false, .previous 0, 1)) ∧
        ((Crypto.value? ((first.attempt .transparent (.decrypt read []) 0).connection.decryptNext
          .transparent message []) 0).all (fun opened =>
            decide ((opened.2.attempt .transparent (.decrypt late []) 0).result =
              .error .replayDetected))) = true :=
    ⟨_, _, _, _, _, rfl, ⟨_, _, _, _, _, _, _, _, _, rfl, rfl, rfl, rfl, rfl, rfl⟩,
      by decide +kernel, by decide +kernel, by decide +kernel, by decide +kernel, by decide +kernel⟩
  obtain ⟨⟨plaintext, next⟩, opened, facts⟩ := Option.map_eq_some_iff.1 decrypts
  obtain ⟨later, decrypted⟩ := Crypto.eq_ok_of_value? opened
  obtain ⟨state, changed, _, _, _, isState, _, _, _, rfl⟩ := decryptNext_eq_ok decrypted
  have begins : Run (fun connection => connection.limits =
      Config.ratchetLimits { maxSkip := 1, maxSkippedMessageKeys := 1 }) first [] first :=
    .start (limits_of_establish established)
  have run := begins.step .transparent (.decrypt read []) 0 sameLimits
  simp only [Connection.state, isState, Except.toOption, Option.map_some, Option.some.injEq]
    at passes
  simp only [Connection.state, Except.toOption, Option.map_some, Prod.mk.injEq,
    Option.some.injEq] at facts
  obtain ⟨order, notReplayed, placed, index⟩ := facts
  rw [opened, Option.all_some, decide_eq_true_eq] at refused
  exact ⟨_, first, _, _, late, message, _, state, _, by decide +kernel, ⟨_, established⟩, run,
    accepts, isState, rfl, ⟨_, _, decrypted⟩, passes, order, notReplayed, placed, index, refused⟩

end Connection

end RatchetMessaging
