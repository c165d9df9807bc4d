import RatchetMessaging.Proofs.Connection.PassedKeys
import RatchetMessaging.Proofs.Connection.Portable
import RatchetMessaging.Proofs.Ratchet.ReadingOrder

/-!
Contract: messages of known chains can be delivered in any order.

Owns:
- `Settled`, what every run keeps of the cache and of the memory of accepted positions, also when
  the connection is read back under other limits on the way;
- `Delivers`, for messages that are all accepted one after the other without an eviction;
- that the connection after them, and the plaintext of each, do not depend on their order.

Does not own: messages that start a new chain, or from which the key of the peer is learnt.
-/

namespace RatchetMessaging

variable {σ : Type} {provider : Provider σ} {healthy : σ → Prop} {before middle after : σ}

/-! ### What every run keeps -/

namespace RatchetState

variable {limits : RatchetLimits} {state restored : RatchetState}

/-- The cache is within its bounds and the memory of accepted positions is orderly. -/
structure Settled (limits : RatchetLimits) (state : RatchetState) : Prop extends
    Stocked limits state where
  orderly : state.replay.Orderly

theorem settled_of_ofSeed {seed : SessionSeed}
    (seeded : ofSeed provider limits seed before = .ok state after) : state.Settled limits := by
  obtain ⟨tables, remembersNothing⟩ := tables_of_ofSeed seeded
  exact {
    retired := tables.retiredFit
    coherent := tables.coherent
    capacity := tables.capacity
    orderly := remembersNothing ▸ ReplayWindow.orderly_new _ _ }

/-- Reading back bounds the cache anew. -/
theorem Settled.of_read {earlier : RatchetLimits} (settled : state.Settled earlier)
    {connectionId : UInt32}
    (read : ofRecord provider limits (state.toRecord connectionId) before = .ok restored after) :
    restored.Settled limits := by
  have parts := readFrom_of_ofRecord read
  obtain ⟨coherent, capacity⟩ :=
    SkippedKeys.coherent_of_insertRecords (SkippedKeys.coherent_new _) parts.skipped
  exact {
    retired := length_of_readRetired parts.retiredKeys
    coherent := coherent
    capacity := capacity
    orderly := by
      rw [parts.replay]
      exact settled.orderly.ofRecord_toRecord _ _ }

end RatchetState

namespace Connection

variable {first last connection next : Connection} {limits : RatchetLimits}
  {start state result received : RatchetState} {accepted : List Acceptance}

theorem Performs.settled {request : Request} {acceptance : Option Acceptance}
    (performs : Performs provider connection state request acceptance limits result)
    (settled : state.Settled connection.limits) : result.Settled limits := by
  cases performs with
  | sent sends isChain advanced =>
    cases sends with
    | same notDue => exact { settled with }
    | turned due turns =>
      obtain ⟨_, _, _, _, _, _, _, _, _, _, _, rfl⟩ := RatchetState.sendingTurn_eq_ok turns
      exact { settled with }
  | forced => exact { settled with }
  | read route =>
    obtain ⟨_, _, _, _, sameReplay, _⟩ := route.frame
    exact { route.stocked settled.toStocked with
      orderly := (sameReplay ▸ settled.orderly).recording _ }
  | restored reads => exact settled.of_read reads

/-- Along a run the state stays settled, whether requests succeed or fail. -/
theorem Run.settled {holds : Connection → Prop} (run : Run holds first accepted last)
    (isStart : first.phase = .established start) (settled : start.Settled first.limits) :
    ∃ state, last.phase = .established state ∧ state.Settled last.limits := by
  induction run with
  | start here => exact ⟨start, isStart, settled⟩
  | step run provider request before here inductionHypothesis =>
    obtain ⟨state, isState, settledState⟩ := inductionHypothesis
    rcases attempt_cases isState provider request before with
      ⟨same, _⟩ | ⟨_, limits, result, isNext, _, performs⟩
    · rw [same]
      exact ⟨state, isState, settledState⟩
    · rw [isNext]
      exact ⟨result, rfl, performs.settled settledState⟩

end Connection

/-! ### One message of a known chain -/

namespace RatchetState

variable {base state : RatchetState} {slots : List Slot} {messageKeys : List MessageKey}
  {ratchetKey : X25519PublicKey}

/-- The key is the present one of the peer or a superseded one. -/
def Knows (state : RatchetState) (ratchetKey : X25519PublicKey) : Prop :=
  state.remoteKey = some ratchetKey ∨
    ∃ superseded ∈ state.supersededKeys, superseded.key = ratchetKey

instance (state : RatchetState) (ratchetKey : X25519PublicKey) :
    Decidable (state.Knows ratchetKey) :=
  inferInstanceAs (Decidable (_ ∨ _))

theorem Knows.tracks (knows : state.Knows ratchetKey) : state.Tracks ratchetKey :=
  knows.imp_right .inl

namespace HasRead

/-- Reading moves no message to another chain. -/
theorem place (hasRead : HasRead provider healthy base slots messageKeys state)
    (ratchetKey : X25519PublicKey) : state.place ratchetKey = base.place ratchetKey := by
  have hasChain := hasRead.leads.isSome_eq
  rw [hasRead.frame]
  simp only [RatchetState.place, hasChain]

theorem tracks (hasRead : HasRead provider healthy base slots messageKeys state)
    (knows : base.Knows ratchetKey) : state.Tracks ratchetKey := by
  rw [hasRead.frame]
  exact knows.tracks

end HasRead

end RatchetState

namespace Connection

variable {first last connection next : Connection} {base state received : RatchetState}
  {limits : RatchetLimits} {slots : List Slot} {messageKeys : List MessageKey}
  {header : MessageHeader} {key : FixedBytes 32} {generation : UInt32}

/-- The position of a message on a chain that is there. -/
def slotOf? (state : RatchetState) (header : MessageHeader) : Option Slot :=
  (state.place header.ratchetKey).knownGeneration.map (fun generation =>
    ⟨generation, header.chainIndex⟩)

/-- No key is evicted when the message takes the established connection to the next one. -/
def EvictsNothing (connection next : Connection) (header : MessageHeader) : Prop :=
  ∀ state ∈ connection.state.toOption, ∀ result ∈ next.state.toOption,
    ∀ slot ∈ slotOf? state header,
      state.EvictsNothing (passedPositions state header) slot result

instance (connection next : Connection) (header : MessageHeader) :
    Decidable (connection.EvictsNothing next header) :=
  inferInstanceAs (Decidable (∀ state ∈ _, ∀ result ∈ _, ∀ slot ∈ _, _))

/-- A message of a known chain takes its key out of the cache, or the chain derives it. -/
theorem Route.hasRead (steady : provider.Steady healthy)
    (hasRead : RatchetState.HasRead provider healthy base slots messageKeys state)
    (knows : base.Knows header.ratchetKey) (isHealthy : healthy before)
    (route : Route provider limits state header before middle key generation received)
    (evictsNothing : ∀ slot ∈ slotOf? state header,
      state.EvictsNothing (passedPositions state header) slot received) :
    slotOf? base header = some ⟨generation, header.chainIndex⟩ ∧ healthy middle ∧
      ∃ more, RatchetState.HasRead provider healthy base
          (slots ++ [⟨generation, header.chainIndex⟩]) (messageKeys ++ more)
          (received.recording ⟨generation, header.chainIndex⟩) ∧
        (⟨generation, header.chainIndex⟩, key) ∈ base.skipped.toList ++
          SkippedKeys.entriesOf base.receivingGeneration (messageKeys ++ more) := by
  have tracks := hasRead.tracks knows
  have slotBefore : slotOf? base header = slotOf? state header := by
    rw [slotOf?, slotOf?, hasRead.place]
  rw [slotBefore]
  cases route with
  | late placed cached =>
    refine ⟨by rw [slotOf?, placed]; rfl, isHealthy, [], ?_⟩
    rw [List.append_nil]
    exact ⟨hasRead.cached cached, hasRead.mem_of_cached cached⟩
  | present placed receives =>
    rcases placed with current | adopt
    · obtain ⟨remote, _⟩ := RatchetState.place_eq_current current
      have sameState : { state with remoteKey := some header.ratchetKey } = state := by
        rw [← remote]
      rw [sameState] at receives
      have isSlot : slotOf? state header =
          some ⟨state.receivingGeneration, header.chainIndex⟩ := by
        rw [slotOf?, current]
        rfl
      have evicts := evictsNothing _ isSlot
      simp only [passedPositions, current] at evicts
      exact ⟨isSlot, (steady.met.receive _ _ _ _ _ isHealthy receives).1,
        hasRead.receive steady receives isHealthy evicts⟩
    · exact absurd tracks (RatchetState.place_eq_adopt adopt).2.2.2
  | turn placed turns receives => exact absurd tracks (RatchetState.place_eq_ratchet placed).1

/-! ### Deliveries -/

/-- A message that arrives, with the data that it is authenticated with. -/
structure Delivery where
  message : RatchetMessage
  associatedData : Bytes

/-- Messages that are accepted one after the other, each with its plaintext, the first one first,
and without an eviction. The provider may be in any healthy state for each. -/
inductive Delivers (provider : Provider σ) (healthy : σ → Prop) (first : Connection) :
    List (Delivery × Bytes) → Connection → Prop
  | start : Delivers provider healthy first [] first
  | step {read : List (Delivery × Bytes)} {middle next : Connection} {delivery : Delivery}
      {plaintext : Bytes} {before after : σ}
      (delivers : Delivers provider healthy first read middle) (isHealthy : healthy before)
      (decrypted : middle.decryptNext provider delivery.message delivery.associatedData before =
        .ok (plaintext, next) after)
      (evictsNothing : middle.EvictsNothing next delivery.message.header) :
      Delivers provider healthy first (read ++ [(delivery, plaintext)]) next

/-- The plaintext of a message and the next connection, unless the message is refused or evicts a
key. -/
def deliver? (provider : Provider σ) (connection : Connection) (delivery : Delivery) (before : σ) :
    Option (Bytes × Connection) :=
  (Crypto.value? (connection.decryptNext provider delivery.message delivery.associatedData)
    before).filter (fun read => connection.EvictsNothing read.2 delivery.message.header)

variable {read otherRead : List (Delivery × Bytes)} {one other : Connection}
  {delivery : Delivery} {plaintext otherPlaintext : Bytes}

theorem Delivers.deliver (delivers : Delivers provider healthy first read connection)
    (isHealthy : healthy before)
    (delivered : connection.deliver? provider delivery before = some (plaintext, next)) :
    Delivers provider healthy first (read ++ [(delivery, plaintext)]) next := by
  obtain ⟨decrypts, evictsNothing⟩ := Option.filter_eq_some_iff.1 delivered
  obtain ⟨after, decrypted⟩ := Crypto.eq_ok_of_value? decrypts
  exact delivers.step isHealthy decrypted (of_decide_eq_true evictsNothing)

/-- The plaintext comes of a key for the position of the message, one that was cached at first or
that the chain has derived. -/
def OpenedBy (provider : Provider σ) (healthy : σ → Prop) (base : RatchetState)
    (messageKeys : List MessageKey) (delivery : Delivery) (plaintext : Bytes) : Prop :=
  ∃ slot key before after,
    slotOf? base delivery.message.header = some slot ∧
    (slot, key) ∈ base.skipped.toList ++
      SkippedKeys.entriesOf base.receivingGeneration messageKeys ∧
    healthy before ∧
    MessageCipher.decrypt provider key delivery.message.ciphertext
      (MessageCipher.associatedData base.associatedData delivery.associatedData
        delivery.message.header) before = .ok plaintext after

theorem OpenedBy.append (opened : OpenedBy provider healthy base messageKeys delivery plaintext)
    (more : List MessageKey) :
    OpenedBy provider healthy base (messageKeys ++ more) delivery plaintext := by
  obtain ⟨slot, key, before, after, isSlot, member, isHealthy, decrypted⟩ := opened
  refine ⟨slot, key, before, after, isSlot, ?_, isHealthy, decrypted⟩
  rw [SkippedKeys.entriesOf_append, ← List.append_assoc]
  exact List.mem_append_left _ member

/-- A position has one key, and what a key opens it opens again. -/
theorem OpenedBy.eq (steady : provider.Steady healthy)
    (distinct : ((base.skipped.toList ++
      SkippedKeys.entriesOf base.receivingGeneration messageKeys).map Prod.fst).Nodup)
    (opened : OpenedBy provider healthy base messageKeys delivery plaintext)
    (otherOpened : OpenedBy provider healthy base messageKeys delivery otherPlaintext) :
    plaintext = otherPlaintext := by
  obtain ⟨slot, key, before, after, isSlot, member, isHealthy, decrypted⟩ := opened
  obtain ⟨otherSlot, otherKey, otherBefore, otherAfter, isOther, otherMember, otherHealthy,
    otherDecrypted⟩ := otherOpened
  cases isSlot.symm.trans isOther
  cases List.inj_on_of_nodup_map distinct member otherMember rfl
  obtain ⟨_, again⟩ := (steady.decrypt _ _ _ _ _ _ isHealthy decrypted).2 _ otherHealthy
  rw [again] at otherDecrypted
  cases otherDecrypted
  rfl

/-- After any deliveries the state is the one after reading their positions. -/
theorem Delivers.hasRead (steady : provider.Steady healthy)
    (delivers : Delivers provider healthy first read last)
    (isFirst : first.phase = .established base) (caches : base.CachesBehind)
    (coherent : base.skipped.Coherent)
    (known : ∀ entry ∈ read, base.Knows entry.1.message.header.ratchetKey) :
    ∃ state messageKeys,
      last = { first with phase := .established state } ∧
      RatchetState.HasRead provider healthy base
        ((read.map Prod.fst).filterMap (fun delivery => slotOf? base delivery.message.header))
        messageKeys state ∧
      ∀ entry ∈ read, OpenedBy provider healthy base messageKeys entry.1 entry.2 := by
  induction delivers with
  | start =>
    refine ⟨base, [], ?_, .start caches coherent, fun _ member => nomatch member⟩
    rw [← isFirst]
  | @step read _ _ delivery _ _ _ _ isHealthy decrypted evictsNothing inductionHypothesis =>
    obtain ⟨state, messageKeys, rfl, hasRead, opened⟩ :=
      inductionHypothesis (fun entry member => known entry (List.mem_append_left _ member))
    have knows : base.Knows delivery.message.header.ratchetKey :=
      known _ (List.mem_append_right read List.mem_cons_self)
    obtain ⟨_, received, key, generation, between, same, _, route, opens, rfl⟩ :=
      decryptNext_eq_ok decrypted
    cases same
    have keepsAll := evictsNothing state rfl _ rfl
    obtain ⟨isSlot, stillHealthy, more, hasReadNext, member⟩ :=
      route.hasRead steady hasRead knows isHealthy keepsAll
    refine ⟨_, messageKeys ++ more, rfl, ?_, ?_⟩
    · simp only [List.map_append, List.map_cons, List.map_nil, List.filterMap_append,
        List.filterMap_cons, List.filterMap_nil, isSlot]
      exact hasReadNext
    · intro entry isRead
      rcases List.mem_append.1 isRead with earlier | isNew
      · exact (opened entry earlier).append more
      · cases List.mem_singleton.1 isNew
        have sameData : state.associatedData = base.associatedData := by
          rw [hasRead.frame]
        rw [sameData] at opens
        exact ⟨_, key, between, _, isSlot, member, stillHealthy, opens⟩

/-! ### The result -/

/-- From any connection that a session reaches, messages whose ratchet keys are the present one of
the peer or superseded ones are delivered in two orders, and each is accepted without an eviction
in both. Then the connection afterwards is the same one, with the same chain, the same cached keys
in the same order, the same memory of accepted positions and the same everything else, and each
message has the same plaintext. The provider has to give the same again, which it does when its
primitives are functions. -/
theorem deliveries_confluent {τ : Type} {opener : Provider τ} {begun ready : τ}
    {seed : SessionSeed} {fresh reached : Connection} {accepted : List Acceptance}
    {state : RatchetState}
    (established : fresh.establish opener seed begun = .ok first ready)
    (run : Run (fun _ => True) first accepted reached)
    (isState : reached.phase = .established state) (steady : provider.Steady healthy)
    (delivered : Delivers provider healthy reached read one)
    (otherDelivered : Delivers provider healthy reached otherRead other)
    (rearranged : (read.map Prod.fst).Perm (otherRead.map Prod.fst))
    (known : ∀ entry ∈ read, state.Knows entry.1.message.header.ratchetKey) :
    one = other ∧
      ∀ delivery plaintext otherPlaintext, (delivery, plaintext) ∈ read →
        (delivery, otherPlaintext) ∈ otherRead → plaintext = otherPlaintext := by
  obtain ⟨start, isStart, sound⟩ := establish_sound established
  obtain ⟨_, seeded, isFirst⟩ := establish_eq_ok established
  have settledStart : start.Settled first.limits := by
    subst isFirst
    cases isStart
    exact RatchetState.settled_of_ofSeed seeded
  obtain ⟨_, same, soundState, _⟩ := run.history isStart sound
  cases isState.symm.trans same
  obtain ⟨_, same, settled⟩ := run.settled isStart settledStart
  cases isState.symm.trans same
  have otherKnown : ∀ entry ∈ otherRead, state.Knows entry.1.message.header.ratchetKey := by
    intro entry member
    have isDelivery := rearranged.symm.subset (List.mem_map_of_mem (f := Prod.fst) member)
    obtain ⟨twin, isRead, sameDelivery⟩ := List.mem_map.1 isDelivery
    exact sameDelivery ▸ known twin isRead
  obtain ⟨_, messageKeys, rfl, hasRead, opened⟩ :=
    delivered.hasRead steady isState soundState.cachesBehind settled.coherent known
  obtain ⟨_, _, rfl, otherHasRead, otherOpened⟩ :=
    otherDelivered.hasRead steady isState soundState.cachesBehind settled.coherent otherKnown
  obtain ⟨rfl, rfl⟩ :=
    hasRead.eq_of_perm steady settled.orderly otherHasRead (rearranged.filterMap _)
  refine ⟨rfl, fun delivery plaintext otherPlaintext isRead isOther => ?_⟩
  have distinct := hasRead.nodup_slots soundState.cachesBehind settled.coherent
  exact (opened _ isRead).eq steady distinct (otherOpened _ isOther)

/-- Two messages of one chain arrive in their order, or the second one first, which caches the key
of the first one. -/
theorem deliveries_confluent_sample :
    ∃ (first reached one other : Connection) (accepted : List Acceptance)
      (earlier later : Delivery),
      (∃ after, (new 2 (.sample 100)).establish .transparent .samplePeer 0 = .ok first after) ∧
      Run (fun _ => True) first accepted reached ∧
      Delivers .transparent (fun _ => True) reached [(earlier, [2]), (later, [3])] one ∧
      Delivers .transparent (fun _ => True) reached [(later, [3]), (earlier, [2])] other ∧
      one = other := by
  obtain ⟨first, opening, earlier, later, begun, established, _, knows, inOrder, reversed⟩ :
      ∃ (first : Connection) (opening earlier later : RatchetMessage) (begun : Nat),
        (new 2 (.sample 100)).establish .transparent .samplePeer 0 = .ok first begun ∧
        (∃ sender ready moved drawn sent final,
          (new 1 (.sample 100)).establish .transparent .sample 0 = .ok sender ready ∧
          sender.encryptNext .transparent [1] [] ready = .ok (opening, moved) drawn ∧
          moved.encryptNext .transparent [2] [] drawn = .ok (earlier, sent) drawn ∧
          sent.encryptNext .transparent [3] [] drawn = .ok (later, final) drawn) ∧
        ((first.attempt .transparent (.decrypt opening []) 0).connection.state.toOption.any
          (fun state => decide (state.Knows earlier.header.ratchetKey ∧
            state.Knows later.header.ratchetKey))) = true ∧
        ((first.attempt .transparent (.decrypt opening []) 0).connection.deliver? .transparent
          ⟨earlier, []⟩ 0).bind (fun read => (read.2.deliver? .transparent ⟨later, []⟩ 0).map
            (fun last => (read.1, last.1))) = some ([2], [3]) ∧
        ((first.attempt .transparent (.decrypt opening []) 0).connection.deliver? .transparent
          ⟨later, []⟩ 0).bind (fun read => (read.2.deliver? .transparent ⟨earlier, []⟩ 0).map
            (fun last => (read.1, last.1))) = some ([3], [2]) :=
    ⟨_, _, _, _, _, rfl, ⟨_, _, _, _, _, _, rfl, rfl, rfl, rfl⟩, by decide +kernel,
      by decide +kernel, by decide +kernel⟩
  obtain ⟨⟨_, middle⟩, isRead, rest⟩ := Option.bind_eq_some_iff.1 inOrder
  obtain ⟨⟨_, one⟩, isLast, texts⟩ := Option.map_eq_some_iff.1 rest
  obtain ⟨⟨_, otherMiddle⟩, isOtherRead, otherRest⟩ := Option.bind_eq_some_iff.1 reversed
  obtain ⟨⟨_, other⟩, isOtherLast, otherTexts⟩ := Option.map_eq_some_iff.1 otherRest
  cases texts
  cases otherTexts
  have begins : Run (fun _ => True) first [] first := .start trivial
  have run := begins.step .transparent (.decrypt opening []) 0 trivial
  have delivered : Delivers .transparent (fun _ => True) _
      [(⟨earlier, []⟩, [2]), (⟨later, []⟩, [3])] one :=
    (Delivers.start.deliver trivial isRead).deliver trivial isLast
  have otherDelivered : Delivers .transparent (fun _ => True) _
      [(⟨later, []⟩, [3]), (⟨earlier, []⟩, [2])] other :=
    (Delivers.start.deliver trivial isOtherRead).deliver trivial isOtherLast
  obtain ⟨start, isStart, sound⟩ := establish_sound established
  obtain ⟨state, isState, _⟩ := run.history isStart sound
  simp only [Connection.state, isState, Except.toOption, Option.any_some,
    decide_eq_true_eq] at knows
  have known : ∀ entry ∈ [((⟨earlier, []⟩ : Delivery), ([2] : Bytes)), (⟨later, []⟩, [3])],
      state.Knows entry.1.message.header.ratchetKey := by
    simpa using knows
  have confluent := deliveries_confluent established run isState Provider.transparent_steady
    delivered otherDelivered (List.Perm.swap _ _ _) known
  exact ⟨first, _, one, other, _, _, _, ⟨_, established⟩, run, delivered, otherDelivered,
    confluent.1⟩

end Connection

end RatchetMessaging
