import Mathlib.Data.List.Pairwise
import RatchetMessaging.Proofs.Messenger.Drain
import RatchetMessaging.Proofs.Messenger.Sample
import RatchetMessaging.Proofs.Messenger.StoredConnection

/-!
Contract: the positions at which messages are sent.

Owns:
- the next position of a session, live or stored: the ratchet key and the index of its next message,
  unless a turn comes first;
- `Event.Advances`, what a message makes of the next position of its session;
- `Ledger`, a list of positions without repetition, of which none is at or beyond a next position of
  its chain, while no two sessions send on one chain; each kind of step keeps it;
- along a run that gives up no sending position unsaved, on a volume that accepts every write, no
  two messages are sent at one position; and a run that does send two.

Does not own: positions at which messages are received.
-/

namespace RatchetMessaging

variable {σ : Type} {provider : Provider σ} {connectionId : UInt32}

/-! ### Next positions -/

/-- The position of the next message of a stored session, unless a turn comes first. -/
def Record.ConnectionRecord.nextPosition? (record : ConnectionRecord) : Option (Bytes × UInt32) :=
  record.sendingChain.map (fun chain => (record.dhPublic, chain.index))

/-- The position of the next message of a session, unless a turn comes first. -/
def RatchetState.nextPosition? (state : RatchetState) : Option (Bytes × UInt32) :=
  state.sendingChain.map (fun chain => (state.keyPair.publicKey.toBytes, chain.index))

theorem RatchetState.nextPosition?_toRecord (state : RatchetState) (connectionId : UInt32) :
    (state.toRecord connectionId).nextPosition? = state.nextPosition? := by
  simp [Record.ConnectionRecord.nextPosition?, RatchetState.nextPosition?, toRecord,
    Chain.toRecord, Function.comp_def]

/-- A session that is read back goes on at the recorded position. -/
theorem RatchetState.nextPosition?_of_ofRecord {limits : RatchetLimits}
    {record : Record.ConnectionRecord} {restored : RatchetState} {before after : σ}
    (reads : ofRecord provider limits record before = .ok restored after) :
    restored.nextPosition? = record.nextPosition? := by
  obtain ⟨_, _, sameKey, _, _, sameChain, _⟩ := ofRecord_eq_ok reads
  rw [← nextPosition?_toRecord restored 0]
  simp only [Record.ConnectionRecord.nextPosition?, toRecord, sameKey, sameChain]

/-- What a message, sent or received, makes of the next position of its session. -/
inductive Event.Advances :
    List Event → Option (Bytes × UInt32) → Option (Bytes × UInt32) → Prop
  | receives {next? : Option (Bytes × UInt32)} : Advances [] next? next?
  | sends {key : X25519PublicKey} {index : UInt32} (notLast : index < index + 1) :
      Advances [.sent key index] (some (key.toBytes, index)) (some (key.toBytes, index + 1))
  | turns {key : X25519PublicKey} {next? : Option (Bytes × UInt32)} :
      Advances [.generated key, .sent key 0] next? (some (key.toBytes, 1))

theorem Connection.Exchanges.advances {connection : Connection} {staged : Staged}
    {events : List Event} {state : RatchetState}
    (exchanges : connection.Exchanges provider staged events)
    (established : connection.phase = .established state) :
    Event.Advances events state.nextPosition? (staged.resulting state).nextPosition? := by
  cases exchanges with
  | @sends _ _ message _ _ encrypts =>
    obtain ⟨_, source, chain, moved, messageKey, _, _, isState, sends, isChain, advanced, _,
      isHeader, ratcheted, changed⟩ := stageEncrypt_eq_ok encrypts
    cases established.symm.trans isState
    obtain ⟨notLast, isIndex, isNext⟩ := Chain.advance_eq_ok advanced
    have header : message.header.ratchetKey = source.keyPair.publicKey ∧
        message.header.chainIndex = chain.index := by
      rw [isHeader, isIndex]
      exact ⟨rfl, rfl⟩
    have next : (staged.resulting state).nextPosition? =
        some (source.keyPair.publicKey.toBytes, chain.index + 1) := by
      rw [changed, ← isNext]
      rfl
    rw [next, ratcheted, header.1, header.2]
    cases sends with
    | same notDue =>
      have position : state.nextPosition? =
          some (state.keyPair.publicKey.toBytes, chain.index) := by
        rw [RatchetState.nextPosition?, isChain]
        rfl
      rw [position, notDue]
      refine .sends ?_
      rw [UInt32.lt_iff_toNat_lt, toNat_succ_of_ne_last notLast]
      exact Nat.lt_succ_self _
    | turned due turns =>
      obtain ⟨_, _, _, _, _, _, _, _, _, _, _, rfl⟩ := RatchetState.sendingTurn_eq_ok turns
      cases isChain
      rw [due]
      exact .turns
  | receives decrypts =>
    obtain ⟨_, _, _, _, _, isState, _, route, _, _, changed⟩ := stageDecrypt_eq_ok decrypts
    cases established.symm.trans isState
    obtain ⟨sameKey, sameChain, _⟩ := route.frame
    have same : (staged.resulting state).nextPosition? = state.nextPosition? := by
      rw [changed]
      simp only [RatchetState.nextPosition?, RatchetState.recording, sameKey, sameChain]
    rw [same]
    exact .receives

/-! ### The ledger -/

/-- The ratchet keys that were made, as they are recorded. -/
def generatedKeys (events : List Event) : List Bytes :=
  events.filterMap (fun event => event.generatedKey?.map X25519PublicKey.toBytes)

/-- The positions of the messages that were sent. -/
def sentPositions (events : List Event) : List (X25519PublicKey × UInt32) :=
  events.filterMap Event.position?

@[simp] theorem generatedKeys_append (events others : List Event) :
    generatedKeys (events ++ others) = generatedKeys events ++ generatedKeys others :=
  List.filterMap_append

@[simp] theorem sentPositions_append (events others : List Event) :
    sentPositions (events ++ others) = sentPositions events ++ sentPositions others :=
  List.filterMap_append

/-- No position was sent at twice, and none of the sessions is about to. -/
structure Ledger (known : List Bytes) (sent : List (X25519PublicKey × UInt32))
    (next? : UInt32 → Option (Bytes × UInt32)) : Prop where
  once : sent.Nodup
  sentKnown : ∀ key index, (key, index) ∈ sent → key.toBytes ∈ known
  nextKnown : ∀ connectionId key index, next? connectionId = some (key, index) → key ∈ known
  ahead : ∀ connectionId key index earlier, next? connectionId = some (key.toBytes, index) →
    (key, earlier) ∈ sent → earlier < index
  apart : ∀ connectionId otherId key index otherIndex, next? connectionId = some (key, index) →
    next? otherId = some (key, otherIndex) → connectionId = otherId

namespace Ledger

variable {known : List Bytes} {sent : List (X25519PublicKey × UInt32)}
  {next? later? : UInt32 → Option (Bytes × UInt32)} {key : X25519PublicKey} {index : UInt32}

/-- Sessions may lose their next positions. -/
theorem lose (ledger : Ledger known sent next?)
    (fewer : ∀ connectionId, later? connectionId = next? connectionId ∨
      later? connectionId = none) : Ledger known sent later? := by
  have earlier : ∀ connectionId position, later? connectionId = some position →
      next? connectionId = some position := by
    intro connectionId position isNext
    rcases fewer connectionId with same | lost
    · exact same.symm.trans isNext
    · cases lost.symm.trans isNext
  exact {
    once := ledger.once
    sentKnown := ledger.sentKnown
    nextKnown := fun connectionId key index isNext =>
      ledger.nextKnown connectionId key index (earlier _ _ isNext)
    ahead := fun connectionId key index before isNext =>
      ledger.ahead connectionId key index before (earlier _ _ isNext)
    apart := fun connectionId otherId key index otherIndex isNext isOther =>
      ledger.apart connectionId otherId key index otherIndex (earlier _ _ isNext)
        (earlier _ _ isOther) }

theorem quiet {events : List Event} (ledger : Ledger known sent next?)
    (noKeys : generatedKeys events = []) (noneSent : sentPositions events = [])
    (fewer : ∀ connectionId, later? connectionId = next? connectionId ∨
      later? connectionId = none) :
    Ledger (known ++ generatedKeys events) (sent ++ sentPositions events) later? := by
  rw [noKeys, noneSent, List.append_nil, List.append_nil]
  exact ledger.lose fewer

/-- When one session has moved, a next position is the one that it has moved to, or it was there
before. -/
theorem next_cases {position other : Bytes × UInt32} {otherId : UInt32}
    (moved : later? connectionId = some position)
    (others : ∀ otherId, connectionId ≠ otherId → later? otherId = next? otherId)
    (isLater : later? otherId = some other) :
    (connectionId = otherId ∧ other = position) ∨
      connectionId ≠ otherId ∧ next? otherId = some other := by
  by_cases same : connectionId = otherId
  · subst same
    exact .inl ⟨rfl, Option.some.inj (isLater.symm.trans moved)⟩
  · rw [others otherId same] at isLater
    exact .inr ⟨same, isLater⟩

/-- A session goes over to the beginning of a new chain. -/
theorem generate (ledger : Ledger known sent next?) (fresh : key.toBytes ∉ known)
    (opened : later? connectionId = some (key.toBytes, 0))
    (others : ∀ otherId, connectionId ≠ otherId → later? otherId = next? otherId) :
    Ledger (known ++ [key.toBytes]) sent later? where
  once := ledger.once
  sentKnown otherKey index isSent := List.mem_append_left _ (ledger.sentKnown otherKey index isSent)
  nextKnown otherId otherKey index isNext := by
    rcases next_cases opened others isNext with ⟨_, isOpened⟩ | ⟨_, wasNext⟩
    · cases isOpened
      exact List.mem_append_right _ List.mem_cons_self
    · exact List.mem_append_left _ (ledger.nextKnown otherId otherKey index wasNext)
  ahead otherId otherKey index earlier isNext isSent := by
    rcases next_cases opened others isNext with ⟨_, isOpened⟩ | ⟨_, wasNext⟩
    · have sameKey : otherKey.toBytes = key.toBytes := congrArg Prod.fst isOpened
      exact absurd (ledger.sentKnown otherKey earlier isSent) (sameKey ▸ fresh)
    · exact ledger.ahead otherId otherKey index earlier wasNext isSent
  apart firstId secondId otherKey firstIndex secondIndex isFirst isSecond := by
    -- Only the session that has just opened the chain knows its key.
    have unknown : ∀ otherId index, next? otherId ≠ some (key.toBytes, index) :=
      fun otherId index wasNext => fresh (ledger.nextKnown otherId _ index wasNext)
    rcases next_cases opened others isFirst with ⟨rfl, isOpened⟩ | ⟨_, wasFirst⟩ <;>
      rcases next_cases opened others isSecond with ⟨rfl, alsoOpened⟩ | ⟨_, wasSecond⟩
    · rfl
    · cases isOpened
      exact absurd wasSecond (unknown secondId secondIndex)
    · cases alsoOpened
      exact absurd wasFirst (unknown firstId firstIndex)
    · exact ledger.apart firstId secondId otherKey firstIndex secondIndex wasFirst wasSecond

/-- A session sends a message at its next position. -/
theorem send (ledger : Ledger known sent next?) (notLast : index < index + 1)
    (isNext : next? connectionId = some (key.toBytes, index))
    (moved : later? connectionId = some (key.toBytes, index + 1))
    (others : ∀ otherId, connectionId ≠ otherId → later? otherId = next? otherId) :
    Ledger known (sent ++ [(key, index)]) later? := by
  -- Every session has the chain that it had before.
  have before : ∀ otherId otherKey otherIndex, later? otherId = some (otherKey, otherIndex) →
      ∃ earlier, next? otherId = some (otherKey, earlier) := by
    intro otherId otherKey otherIndex isLater
    rcases next_cases moved others isLater with ⟨rfl, isMoved⟩ | ⟨_, wasNext⟩
    · cases isMoved
      exact ⟨index, isNext⟩
    · exact ⟨otherIndex, wasNext⟩
  refine ⟨?_, ?_, ?_, ?_, ?_⟩
  · refine List.nodup_append.2 ⟨ledger.once, List.pairwise_singleton _ _, ?_⟩
    rintro _ isSent _ isNew rfl
    cases List.mem_singleton.1 isNew
    exact UInt32.lt_irrefl index (ledger.ahead connectionId key index index isNext isSent)
  · intro otherKey otherIndex isSent
    rcases List.mem_append.1 isSent with isEarlier | isNew
    · exact ledger.sentKnown otherKey otherIndex isEarlier
    · cases List.mem_singleton.1 isNew
      exact ledger.nextKnown connectionId _ index isNext
  · intro otherId otherKey otherIndex isLater
    obtain ⟨earlier, wasNext⟩ := before otherId otherKey otherIndex isLater
    exact ledger.nextKnown otherId otherKey earlier wasNext
  · intro otherId otherKey otherIndex earlier isLater isSent
    rcases next_cases moved others isLater with ⟨rfl, isMoved⟩ | ⟨different, wasNext⟩
    · obtain ⟨sameKey, rfl⟩ := Prod.mk.inj isMoved
      rcases List.mem_append.1 isSent with isEarlier | isNew
      · have passed := ledger.ahead connectionId otherKey index earlier (sameKey ▸ isNext) isEarlier
        exact UInt32.lt_trans passed notLast
      · cases List.mem_singleton.1 isNew
        exact notLast
    · rcases List.mem_append.1 isSent with isEarlier | isNew
      · exact ledger.ahead otherId otherKey otherIndex earlier wasNext isEarlier
      · cases List.mem_singleton.1 isNew
        exact absurd (ledger.apart connectionId otherId _ _ _ isNext wasNext) different
  · intro firstId secondId otherKey firstIndex secondIndex isFirst isSecond
    obtain ⟨_, wasFirst⟩ := before firstId otherKey firstIndex isFirst
    obtain ⟨_, wasSecond⟩ := before secondId otherKey secondIndex isSecond
    exact ledger.apart firstId secondId otherKey _ _ wasFirst wasSecond

theorem fresh_of_nodup {key : Bytes} (distinct : (known ++ [key]).Nodup) : key ∉ known :=
  fun member => (List.nodup_append.1 distinct).2.2 key member key List.mem_cons_self rfl

/-- A message is entered in the ledger. -/
theorem exchange {events : List Event} (ledger : Ledger known sent next?)
    (advances : Event.Advances events (next? connectionId) (later? connectionId))
    (others : ∀ otherId, connectionId ≠ otherId → later? otherId = next? otherId)
    (distinct : (known ++ generatedKeys events).Nodup) :
    Ledger (known ++ generatedKeys events) (sent ++ sentPositions events) later? := by
  generalize isBefore : next? connectionId = before at advances
  generalize isAfter : later? connectionId = after at advances
  cases advances with
  | receives =>
    refine ledger.quiet rfl rfl (fun otherId => .inl ?_)
    by_cases same : connectionId = otherId
    · rw [← same, isBefore, isAfter]
    · exact others otherId same
  | sends notLast =>
    rw [show generatedKeys [.sent _ _] = [] from rfl, List.append_nil]
    exact ledger.send notLast isBefore isAfter others
  | @turns key =>
    -- The turn opens the chain, and the message is its first.
    have opened : Ledger (known ++ [key.toBytes]) sent
        (fun otherId => if connectionId = otherId then some (key.toBytes, 0) else next? otherId) :=
      ledger.generate (fresh_of_nodup distinct) (if_pos rfl) (fun _ different => if_neg different)
    exact opened.send (by decide) (if_pos rfl) isAfter (fun otherId different =>
      (others otherId different).trans (if_neg different).symm)

end Ledger

/-! ### Sites -/

namespace Site

variable {site later : Site}

/-- The next position of a session, live or stored. -/
def nextPosition? (site : Site) (connectionId : UInt32) : Option (Bytes × UInt32) :=
  match site.own.messenger.connections.find? connectionId with
  | some live => live.connection.exportRecord.toOption.bind Record.ConnectionRecord.nextPosition?
  | none =>
    (site.volume.connectionRecord? connectionId).bind Record.ConnectionRecord.nextPosition?

theorem nextPosition?_of_live {live : LiveConnection} {state : RatchetState}
    (found : site.own.messenger.connections.find? connectionId = some live)
    (established : live.connection.phase = .established state) :
    site.nextPosition? connectionId = state.nextPosition? := by
  simp only [nextPosition?, found, Connection.exportRecord_of_established established]
  exact state.nextPosition?_toRecord _

theorem nextPosition?_of_stored
    (absent : site.own.messenger.connections.find? connectionId = none) :
    site.nextPosition? connectionId =
      (site.volume.connectionRecord? connectionId).bind Record.ConnectionRecord.nextPosition? := by
  simp only [nextPosition?, absent]

theorem nextPosition?_congr
    (connection : later.own.messenger.connections.find? connectionId =
      site.own.messenger.connections.find? connectionId)
    (stored : site.own.messenger.connections.find? connectionId = none →
      later.volume.connectionRecord? connectionId = site.volume.connectionRecord? connectionId) :
    later.nextPosition? connectionId = site.nextPosition? connectionId := by
  unfold nextPosition?
  rw [connection]
  split
  · rfl
  · rename_i absent
    rw [stored absent]

/-- A session that changes, or becomes live, leaves the positions of the others. -/
theorem nextPosition?_of_insert_other {live : LiveConnection}
    (inserted : later.own.messenger.connections =
      site.own.messenger.connections.insert connectionId live)
    (stored : ∀ otherId, connectionId ≠ otherId →
      later.volume.connectionRecord? otherId = site.volume.connectionRecord? otherId)
    (otherId : UInt32) (different : connectionId ≠ otherId) :
    later.nextPosition? otherId = site.nextPosition? otherId := by
  refine nextPosition?_congr ?_ (fun _ => stored otherId different)
  rw [inserted, OrderedMap.find?_insert_other _ different]

/-- A session that changes, or becomes live again, at the same position. -/
theorem nextPosition?_changing (site : Site) (change : Messenger → Messenger)
    (live : LiveConnection) {state : RatchetState}
    (inserted : (change site.own.messenger).connections =
      site.own.messenger.connections.insert connectionId live)
    (established : live.connection.phase = .established state)
    (same : state.nextPosition? = site.nextPosition? connectionId) (otherId : UInt32) :
    (site.changing change).nextPosition? otherId = site.nextPosition? otherId := by
  have changed : (site.changing change).own.messenger.connections =
      site.own.messenger.connections.insert connectionId live := inserted
  by_cases isIt : connectionId = otherId
  · subst isIt
    refine (nextPosition?_of_live ?_ established).trans same
    exact changed ▸ OrderedMap.find?_insert_self _ _ _
  · exact nextPosition?_of_insert_other changed (fun _ _ => rfl) otherId isIt

theorem nextPosition?_of_kept {live : LiveConnection} {state : RatchetState}
    (kept : Event.abandoned connectionId ∉ site.abandoning connectionId)
    (found : site.own.messenger.connections.find? connectionId = some live)
    (established : live.connection.phase = .established state) :
    (site.volume.connectionRecord? connectionId).bind Record.ConnectionRecord.nextPosition? =
      site.nextPosition? connectionId := by
  rw [nextPosition?_of_live found established]
  simp only [abandoning, liveRecord?_eq found established] at kept
  split at kept
  · rename_i same
    obtain ⟨record, isStored, samePosition⟩ := Option.map_eq_some_iff.1 same
    obtain ⟨sameKey, sameChain⟩ := Prod.mk.inj samePosition
    rw [isStored, ← state.nextPosition?_toRecord live.connection.connectionId]
    simp only [Option.bind_some, Record.ConnectionRecord.nextPosition?, sameKey, sameChain]
  · exact absurd List.mem_cons_self kept

theorem abandoning_of_kept (kept : Event.abandoned connectionId ∉ site.abandoning connectionId) :
    site.abandoning connectionId = [] := by
  unfold abandoning at kept ⊢
  split
  · rfl
  · rename_i record isRecord
    simp only [isRecord] at kept
    by_cases same : (site.volume.connectionRecord? connectionId).map
        Record.ConnectionRecord.sendingPosition = some record.sendingPosition
    · rw [if_pos same]
    · rw [if_neg same] at kept
      exact absurd List.mem_cons_self kept

/-- A process alone at a volume that accepts every write: its saves have not tried to write yet, and
its sessions are established. -/
structure Undisturbed (site : Site) : Prop extends site.Working where
  waiting : ∀ connectionId save, site.own.saves.find? connectionId = some save →
    save.stage = .waiting
  established : ∀ connectionId live,
    site.own.messenger.connections.find? connectionId = some live →
      ∃ state, live.connection.phase = .established state

namespace Undisturbed

/-- The background save of a session ends when its moment comes, and only a live session is
written. -/
theorem fire (undisturbed : site.Undisturbed) (turn : Nat) :
    (site.fire turn).Undisturbed ∧
      ∀ connectionId, (site.fire turn).nextPosition? connectionId =
        site.nextPosition? connectionId := by
  rcases fire_cases turn site with ⟨savedId, save, found, fired⟩ | fired
  · have ends : ∀ connectionId other,
        (site.own.settle savedId none).saves.find? connectionId = some other →
          other.stage = .waiting := by
      intro connectionId other isSave
      by_cases same : savedId = connectionId
      · subst same
        cases (Process.find?_saves_settle_self _ _ _).symm.trans isSave
      · exact undisturbed.waiting connectionId other
          ((Process.find?_saves_settle_other same _ _).symm.trans isSave)
    rcases site.own.fire_cases savedId save site.nextTurn site.volume with
      ⟨_, stepped⟩ | ⟨record, isRecord, ⟨_, stepped⟩ | ⟨_, refused, _⟩⟩
    · rw [fired, stepped]
      exact ⟨⟨⟨undisturbed.alone, undisturbed.accepts⟩, ends, undisturbed.established⟩,
        fun _ => rfl⟩
    · rw [fired, stepped]
      refine ⟨⟨⟨undisturbed.alone, fun writes slot => ?_⟩, ends, undisturbed.established⟩,
        fun connectionId => nextPosition?_congr rfl (fun absent => ?_)⟩
      · exact (congrFun (congrFun (Volume.writeFault_write _ _ _) writes) slot).trans
          (undisturbed.accepts writes slot)
      · rcases Process.recordOf_eq_some isRecord with retries | ⟨_, live, _, isLive, _⟩
        · cases (undisturbed.waiting savedId save found).symm.trans retries
        · have different : savedId ≠ connectionId := by
            rintro rfl
            cases isLive.symm.trans absent
          exact Volume.connectionRecord?_write_other
            (fun isSlot => different (StoreSlot.connection.inj isSlot))
    · exact absurd refused undisturbed.not_refused
  · rw [fired, fireAmong_of_idle undisturbed.alone]
    exact ⟨undisturbed, fun _ => rfl⟩

theorem beat (undisturbed : site.Undisturbed) (beat : site.Beat later) :
    later.Undisturbed ∧
      ∀ connectionId, later.nextPosition? connectionId = site.nextPosition? connectionId := by
  cases beat with
  | fire turn => exact undisturbed.fire turn
  | refused failed => exact absurd failed undisturbed.not_refused

/-- When nothing is given up, the stored position of a session is its next one. -/
theorem stored_of_kept (undisturbed : site.Undisturbed)
    (kept : Event.abandoned connectionId ∉ site.abandoning connectionId) :
    (site.volume.connectionRecord? connectionId).bind Record.ConnectionRecord.nextPosition? =
      site.nextPosition? connectionId := by
  cases found : site.own.messenger.connections.find? connectionId with
  | none => exact (nextPosition?_of_stored found).symm
  | some live =>
    obtain ⟨state, established⟩ := undisturbed.established connectionId live found
    exact nextPosition?_of_kept kept found established

theorem congr (undisturbed : site.Undisturbed) (others : later.others = site.others)
    (faults : later.volume.writeFault = site.volume.writeFault)
    (waiting : ∀ connectionId save, later.own.saves.find? connectionId = some save →
      save.stage = .waiting)
    (established : ∀ connectionId live,
      later.own.messenger.connections.find? connectionId = some live →
        ∃ state, live.connection.phase = .established state) : later.Undisturbed where
  alone := others ▸ undisturbed.alone
  accepts := faults ▸ undisturbed.accepts
  waiting := waiting
  established := established

end Undisturbed

end Site

theorem Connection.ofRecord_eq_ok {limits : RatchetLimits} {record : Record.ConnectionRecord}
    {connection : Connection} {before after : σ}
    (reads : ofRecord provider limits record before = .ok connection after) :
    ∃ state, RatchetState.ofRecord provider limits record before = .ok state after ∧
      connection.phase = .established state := by
  obtain ⟨state, _, restored, returned⟩ := Crypto.bind_eq_ok.1 reads
  obtain ⟨rfl, rfl⟩ := Crypto.pure_eq_ok.1 returned
  exact ⟨state, restored, rfl⟩

section Moving

variable {site later : Site} {events : List Event} {known : List Bytes}
  {sent : List (X25519PublicKey × UInt32)}

theorem Move.undisturbed (move : Move provider site events later)
    (undisturbed : site.Undisturbed) : later.Undisturbed := by
  have sameFault := move.writeFault
  cases move with
  | time beat => exact (undisturbed.beat beat).1
  | drop connectionId =>
    exact undisturbed.congr rfl sameFault
      (fun otherId save isSave => undisturbed.waiting otherId save
        (OrderedMap.find?_of_find?_erase isSave)) undisturbed.established
  | prepare ephemeral =>
    exact undisturbed.congr rfl sameFault undisturbed.waiting undisturbed.established
  | identify follows accepts =>
    exact undisturbed.congr rfl sameFault undisturbed.waiting undisturbed.established
  | establish opens idle accepts =>
    exact undisturbed.congr rfl sameFault undisturbed.waiting
      (OrderedMap.of_find?_insert ⟨_, opens.phase⟩ undisturbed.established)
  | turn found exchanges turned idle accepts =>
    obtain ⟨state, established⟩ := undisturbed.established _ _ found
    exact undisturbed.congr rfl sameFault undisturbed.waiting
      (OrderedMap.of_find?_insert
        ⟨_, congrArg Connection.phase (Connection.commit_of_established established _)⟩
        undisturbed.established)
  | advance found exchanges unturned ofLive waits =>
    obtain ⟨state, established⟩ := undisturbed.established _ _ found
    exact undisturbed.congr rfl sameFault (OrderedMap.of_find?_insert waits undisturbed.waiting)
      (OrderedMap.of_find?_insert
        ⟨_, congrArg Connection.phase (Connection.commit_of_established established _)⟩
        undisturbed.established)
  | force found forced =>
    obtain ⟨state, established⟩ := Connection.established_of_forceRatchet forced
    exact undisturbed.congr rfl sameFault undisturbed.waiting
      (OrderedMap.of_find?_insert
        ⟨_, congrArg Connection.phase (Connection.forceRatchet_eq_ok established forced)⟩
        undisturbed.established)
  | restore stored isOwn reads =>
    obtain ⟨state, _, established⟩ := Connection.ofRecord_eq_ok reads
    exact undisturbed.congr rfl sameFault undisturbed.waiting
      (OrderedMap.of_find?_insert ⟨state, established⟩ undisturbed.established)
  | close found =>
    exact undisturbed.congr rfl sameFault undisturbed.waiting
      (fun otherId live isLive => undisturbed.established otherId live
        (OrderedMap.find?_of_find?_erase isLive))

/-- A change that a message makes is entered in the ledger when it is committed. -/
theorem Ledger.commit {live : LiveConnection} {staged : Staged} {state : RatchetState}
    (ledger : Ledger known sent site.nextPosition?)
    (found : site.own.messenger.connections.find? connectionId = some live)
    (exchanges : live.connection.Exchanges provider staged events)
    (established : live.connection.phase = .established state)
    (committed : later.own.messenger.connections = site.own.messenger.connections.insert
      connectionId { live with connection := live.connection.commit staged })
    (stored : ∀ otherId, connectionId ≠ otherId →
      later.volume.connectionRecord? otherId = site.volume.connectionRecord? otherId)
    (distinct : (known ++ generatedKeys events).Nodup) :
    Ledger (known ++ generatedKeys events) (sent ++ sentPositions events) later.nextPosition? := by
  have advances := exchanges.advances established
  have moved : later.nextPosition? connectionId = (staged.resulting state).nextPosition? :=
    Site.nextPosition?_of_live (committed ▸ OrderedMap.find?_insert_self _ _ _)
      (congrArg Connection.phase (Connection.commit_of_established established staged))
  rw [← Site.nextPosition?_of_live found established, ← moved] at advances
  exact ledger.exchange advances (Site.nextPosition?_of_insert_other committed stored) distinct

/-- What a process does keeps the ledger, unless it gives up a sending position unsaved. -/
theorem Move.ledger (move : Move provider site events later) (undisturbed : site.Undisturbed)
    (kept : ∀ connectionId, Event.abandoned connectionId ∉ events)
    (ledger : Ledger known sent site.nextPosition?)
    (distinct : (known ++ generatedKeys events).Nodup) :
    Ledger (known ++ generatedKeys events) (sent ++ sentPositions events) later.nextPosition? := by
  cases move with
  | time beat =>
    exact ledger.quiet rfl rfl (fun otherId => .inl ((undisturbed.beat beat).2 otherId))
  | drop connectionId => exact ledger.quiet rfl rfl (fun _ => .inl rfl)
  | prepare ephemeral => exact ledger.quiet rfl rfl (fun _ => .inl rfl)
  | identify follows accepts =>
    exact ledger.quiet rfl rfl (fun otherId => .inl (Site.nextPosition?_congr rfl
      (fun _ => Volume.connectionRecord?_write_other nofun)))
  | @establish connectionId connection state opens idle accepts =>
    have others := site.volume.others_of_write connectionId
      (.ofConnection (state.toRecord connectionId))
    cases isChain : state.sendingChain with
    | none =>
      have noEvents : state.announced = [] := by simp [RatchetState.announced, isChain]
      have lost : state.nextPosition? = none := by simp [RatchetState.nextPosition?, isChain]
      rw [noEvents]
      refine ledger.quiet rfl rfl (fun otherId => ?_)
      by_cases same : connectionId = otherId
      · subst same
        exact .inr ((Site.nextPosition?_of_live (OrderedMap.find?_insert_self _ _ _)
          opens.phase).trans lost)
      · exact .inl (Site.nextPosition?_of_insert_other rfl others otherId same)
    | some chain =>
      have oneEvent : state.announced = [.generated state.keyPair.publicKey] := by
        simp [RatchetState.announced, isChain]
      have beginning : state.nextPosition? = some (state.keyPair.publicKey.toBytes, 0) := by
        simp [RatchetState.nextPosition?, isChain, opens.beginning chain isChain]
      rw [oneEvent] at distinct ⊢
      rw [show sentPositions [.generated _] = [] from rfl, List.append_nil]
      exact ledger.generate (Ledger.fresh_of_nodup distinct)
        ((Site.nextPosition?_of_live (OrderedMap.find?_insert_self _ _ _) opens.phase).trans
          beginning)
        (Site.nextPosition?_of_insert_other rfl others)
  | @turn connectionId live staged events record found exchanges turned idle accepts =>
    obtain ⟨state, established⟩ := undisturbed.established connectionId live found
    exact ledger.commit found exchanges established rfl
      (site.volume.others_of_write connectionId (.ofConnection record)) distinct
  | @advance connectionId live staged events save found exchanges unturned ofLive waits =>
    obtain ⟨state, established⟩ := undisturbed.established connectionId live found
    exact ledger.commit found exchanges established rfl (fun _ _ => rfl) distinct
  | @force connectionId live connection found forced =>
    obtain ⟨state, established⟩ := Connection.established_of_forceRatchet forced
    have phase := congrArg Connection.phase (Connection.forceRatchet_eq_ok established forced)
    have same := (Site.nextPosition?_of_live found established).symm
    exact ledger.quiet rfl rfl (fun otherId => .inl (site.nextPosition?_changing
      (fun messenger => messenger.update connectionId { live with connection := connection }) _ rfl
      phase same otherId))
  | @restore connectionId record limits connection before after stored isOwn reads =>
    have nothing := Site.abandoning_of_kept (kept connectionId)
    obtain ⟨state, restored, established⟩ := Connection.ofRecord_eq_ok reads
    have same : state.nextPosition? = site.nextPosition? connectionId := by
      rw [RatchetState.nextPosition?_of_ofRecord restored, ← undisturbed.stored_of_kept
        (kept connectionId), stored]
      rfl
    rw [nothing]
    exact ledger.quiet rfl rfl (fun otherId => .inl (site.nextPosition?_changing
      (fun messenger => messenger.install connectionId connection) ⟨_, connection⟩ rfl established
      same otherId))
  | @close connectionId live found =>
    have nothing := Site.abandoning_of_kept (kept connectionId)
    have same := undisturbed.stored_of_kept (kept connectionId)
    rw [nothing]
    refine ledger.quiet rfl rfl (fun otherId => .inl ?_)
    by_cases isIt : connectionId = otherId
    · subst isIt
      exact (Site.nextPosition?_of_stored (OrderedMap.find?_erase_self _ _)).trans same
    · exact Site.nextPosition?_congr (OrderedMap.find?_erase_other _ isIt) (fun _ => rfl)

theorem Moves.ledger (moves : Moves provider site events later) (undisturbed : site.Undisturbed)
    (kept : ∀ connectionId, Event.abandoned connectionId ∉ events)
    (ledger : Ledger known sent site.nextPosition?)
    (distinct : (known ++ generatedKeys events).Nodup) :
    Ledger (known ++ generatedKeys events) (sent ++ sentPositions events) later.nextPosition? := by
  induction moves generalizing known sent with
  | refl => exact ledger.quiet rfl rfl (fun _ => .inl rfl)
  | head move _ inductionHypothesis =>
    rw [generatedKeys_append, ← List.append_assoc] at distinct ⊢
    rw [sentPositions_append, ← List.append_assoc]
    have moved := move.ledger undisturbed
      (fun connectionId member => kept connectionId (List.mem_append_left _ member)) ledger
      (List.nodup_append.1 distinct).1
    exact inductionHypothesis (move.undisturbed undisturbed)
      (fun connectionId member => kept connectionId (List.mem_append_right _ member)) moved distinct

end Moving

/-! ### Runs -/

/-- The ratchet key under which a stored session sends, if it has a sending chain. -/
def Record.SessionRecord.sendingKey? (record : SessionRecord) : Option Bytes :=
  (record.ratchetState.bind Record.ConnectionRecord.nextPosition?).map Prod.fst

/-- The ratchet keys under which the stored sessions send. -/
def Volume.sendingKeys (volume : Volume) : List Bytes :=
  volume.connections.entries.filterMap (fun entry => entry.2.sendingKey?)

/-- Two sessions are not stored with one sending key. -/
theorem Volume.eq_of_sendingKey {volume : Volume} (distinct : volume.sendingKeys.Nodup)
    {first second : UInt32 × Record.SessionRecord} {key : Bytes}
    (isFirst : first ∈ volume.connections.entries) (isSecond : second ∈ volume.connections.entries)
    (firstKey : first.2.sendingKey? = some key) (secondKey : second.2.sendingKey? = some key) :
    first = second := by
  refine Classical.byContradiction (fun different => ?_)
  have symmetric : Std.Symm (fun (first second : UInt32 × Record.SessionRecord) =>
      ∀ key, first.2.sendingKey? = some key → ∀ other, second.2.sendingKey? = some other →
        key ≠ other) :=
    ⟨fun _ _ apart other isOther key isKey => (apart key isKey other isOther).symm⟩
  have apart := (List.pairwise_filterMap.1 distinct).forall isFirst isSecond different
  exact apart key firstKey key secondKey rfl

/-- Before any message of a process, its sessions are the stored ones. -/
theorem Ledger.initial {site : Site} (noConnections : site.own.messenger.connections = .empty)
    (distinct : site.volume.sendingKeys.Nodup) :
    Ledger site.volume.sendingKeys [] site.nextPosition? := by
  have stored : ∀ connectionId position, site.nextPosition? connectionId = some position →
      ∃ record, (connectionId, record) ∈ site.volume.connections.entries ∧
        record.sendingKey? = some position.1 := by
    intro connectionId position isNext
    have absent : site.own.messenger.connections.find? connectionId = none := by
      rw [noConnections]
      rfl
    rw [Site.nextPosition?_of_stored absent, Volume.connectionRecord?, Option.bind_assoc] at isNext
    obtain ⟨record, found, isPosition⟩ := Option.bind_eq_some_iff.1 isNext
    exact ⟨record, OrderedMap.find?_eq_some_iff.1 found, congrArg (Option.map Prod.fst) isPosition⟩
  refine ⟨.nil, fun _ _ isSent => absurd isSent List.not_mem_nil, ?_,
    fun _ _ _ _ _ isSent => absurd isSent List.not_mem_nil, ?_⟩
  · intro connectionId key index isNext
    obtain ⟨record, member, isKey⟩ := stored connectionId (key, index) isNext
    exact List.mem_filterMap.2 ⟨_, member, isKey⟩
  · intro connectionId otherId key index otherIndex isNext isOther
    obtain ⟨record, member, isKey⟩ := stored connectionId (key, index) isNext
    obtain ⟨other, otherMember, isOtherKey⟩ := stored otherId (key, otherIndex) isOther
    exact congrArg Prod.fst (Volume.eq_of_sendingKey distinct member otherMember isKey isOtherKey)

/-- **No message key is used twice**, by a process that starts alone at a volume that accepts every
write: whatever is asked of it, no two of its messages are sent at one position, if all ratchet keys
under which it sends are distinct, those of the stored sessions included, and no live session is
replaced by the stored one, or closed, while its sending position is not the stored one. -/
theorem each_position_is_sent_once (provider : Provider σ) {start : Node σ}
    (working : start.toSite.Working) (noConnections : start.own.messenger.connections = .empty)
    (noSaves : start.own.saves = .empty) (commands : List (Command σ))
    (distinct : (start.volume.sendingKeys ++
      generatedKeys (trace provider commands start)).Nodup)
    (kept : ∀ connectionId, Event.abandoned connectionId ∉ trace provider commands start) :
    (sentPositions (trace provider commands start)).Nodup := by
  have undisturbed : start.toSite.Undisturbed := by
    refine ⟨working, fun connectionId save isSave => ?_, fun connectionId live found => ?_⟩
    · rw [noSaves] at isSave
      cases isSave
    · rw [noConnections] at found
      cases found
  have initially := Ledger.initial noConnections (List.nodup_append.1 distinct).1
  exact ((run_moves provider commands start).ledger undisturbed kept initially distinct).once

/-- A session is restored once its position is stored, and goes on from there. -/
theorem each_position_is_sent_once_sample :
    ∃ commands key, trace .transparent commands (.sampleStart {}) =
        [.generated key, .sent key 0, .sent key 1] ∧
      Command.restore 1 ∈ commands ∧
      (sentPositions (trace .transparent commands (.sampleStart {}))).Nodup := by
  have shown : trace .transparent
      [.initiate 1 .sample .never, .encrypt 1 [5] [] .never, .flush, .restore 1,
        .encrypt 1 [6] [] .never] (.sampleStart {}) =
      [.generated ⟨.replicate 32 2⟩, .sent ⟨.replicate 32 2⟩ 0, .sent ⟨.replicate 32 2⟩ 1] := by
    decide +kernel
  have working : (Node.sampleStart {}).toSite.Working :=
    ⟨fun _ member => (nomatch member), fun _ _ => rfl⟩
  refine ⟨_, _, shown, by simp, ?_⟩
  exact each_position_is_sent_once .transparent working rfl rfl _ (by rw [shown]; decide +kernel)
    (by rw [shown]; simp)

/-- A session that is restored while its last message is not stored sends the next one at the same
position, even if every write succeeds and all ratchet keys are distinct. -/
theorem position_is_sent_again :
    ∃ commands : List (Command Nat),
      (∀ writes slot, (Node.sampleStart {}).volume.writeFault writes slot = none) ∧
      (generatedKeys (trace .transparent commands (.sampleStart {}))).Nodup ∧
      ¬ (sentPositions (trace .transparent commands (.sampleStart {}))).Nodup :=
  ⟨[.initiate 1 .sample .never, .encrypt 1 [5] [] .never, .restore 1, .encrypt 1 [6] [] .never],
    fun _ _ => rfl, by decide +kernel, by decide +kernel⟩

end RatchetMessaging
