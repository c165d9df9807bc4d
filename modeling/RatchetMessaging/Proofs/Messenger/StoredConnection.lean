import RatchetMessaging.Proofs.Connection.Basic
import RatchetMessaging.Proofs.Connection.TurnFields
import RatchetMessaging.Proofs.Messenger.Effect

/-!
Contract: the stored records of live connections.

Owns:
- `Site.KeepsUp`, which every move preserves: whatever is written for a connection, now or by a
  background save to come, has the part of the live state that turns of the ratchet change;
- the whole live state is stored when a message that took a turn returns;
- `Site.Fresh`, a process at its start, alone at its volume.

Does not own: saves whose steps take time.
-/

namespace RatchetMessaging

variable {σ : Type} {provider : Provider σ} {origin : Volume} {connectionId : UInt32}

/-! ### Stored records -/

namespace Volume

variable {volume : Volume} {record kept : Record.ConnectionRecord}

/-- What has been stored for connections since another volume holds no identity, and no more retired
keys than are kept. -/
def OrderlySince (origin volume : Volume) : Prop :=
  ∀ connectionId record, volume.find? (.connection connectionId) = some record →
    origin.find? (.connection connectionId) = some record ∨
      record.identityKeys = none ∧ ∀ state, record.ratchetState = some state →
        state.retiredRemoteKeys.length ≤ RatchetState.maxRetiredKeys

/-- A record of a connection, and the stored one as it is read, are not apart by a turn of the
ratchet. -/
structure KeepsUpWith (volume : Volume) (connectionId : UInt32)
    (record : Record.ConnectionRecord) : Prop where
  isOwn : record.connectionId = connectionId
  kept : record.retiredRemoteKeys.length ≤ RatchetState.maxRetiredKeys
  stored : ∃ stored, volume.connectionRecord? connectionId = some stored ∧
    stored.connectionId = connectionId ∧ stored.turnFields.trimmed = record.turnFields

/-- The record that a save tries again, if it has one, is not apart from the stored one. -/
def KeepsUpWithSave (volume : Volume) (connectionId : UInt32) (save : BackgroundSave) : Prop :=
  ∀ written, save.stage = .retrying written →
    ∃ record, written = .ofConnection record ∧ volume.KeepsUpWith connectionId record

theorem connectionRecord?_write_self
    (accepted : (volume.write (.connection connectionId) (.ofConnection record)).1 = none) :
    (volume.write (.connection connectionId)
      (.ofConnection record)).2.connectionRecord? connectionId = some record := by
  rw [connectionRecord?, find?_write_self accepted]
  rfl

theorem connectionRecord?_write_other {slot : StoreSlot} {written : Record.SessionRecord}
    (different : slot ≠ .connection connectionId) :
    (volume.write slot written).2.connectionRecord? connectionId =
      volume.connectionRecord? connectionId := by
  rw [connectionRecord?, find?_write_other different]
  rfl

/-- A record that is written for a connection leaves those of the others. -/
theorem others_of_write (volume : Volume) (connectionId : UInt32)
    (written : Record.SessionRecord) :
    ∀ otherId, connectionId ≠ otherId →
      (volume.write (.connection connectionId) written).2.connectionRecord? otherId =
        volume.connectionRecord? otherId :=
  fun _ different => connectionRecord?_write_other
    (fun isSlot => different (StoreSlot.connection.inj isSlot))

/-- Nothing that is stored of connections has changed. -/
def SameConnections (volume later : Volume) : Prop :=
  ∀ connectionId, later.find? (.connection connectionId) = volume.find? (.connection connectionId)

theorem sameConnections_of_refused {slot : StoreSlot} {written : Record.SessionRecord}
    {failure : Error} (failed : (volume.write slot written).1 = some failure) :
    volume.SameConnections (volume.write slot written).2 :=
  fun _ => find?_write_of_failure failed

theorem sameConnections_of_identity (volume : Volume) (written : Record.SessionRecord) :
    volume.SameConnections (volume.write .identity written).2 :=
  fun _ => find?_write_other nofun

theorem KeepsUpWith.congr {later : Volume} (same : volume.SameConnections later)
    (keepsUp : volume.KeepsUpWith connectionId record) :
    later.KeepsUpWith connectionId record := by
  refine ⟨keepsUp.isOwn, keepsUp.kept, ?_⟩
  rw [connectionRecord?, same connectionId]
  exact keepsUp.stored

/-- A record that is stored keeps up with itself. -/
theorem keepsUpWith_write_self
    (accepted : (volume.write (.connection connectionId) (.ofConnection record)).1 = none)
    (isOwn : record.connectionId = connectionId)
    (kept : record.retiredRemoteKeys.length ≤ RatchetState.maxRetiredKeys) :
    (volume.write (.connection connectionId) (.ofConnection record)).2.KeepsUpWith connectionId
      record :=
  ⟨isOwn, kept, record, connectionRecord?_write_self accepted, isOwn,
    TurnFields.trimmed_of_le kept⟩

/-- Another connection is not behind a write. -/
theorem KeepsUpWith.write_other {otherId : UInt32} (different : connectionId ≠ otherId)
    (written : Record.SessionRecord) (keepsUp : volume.KeepsUpWith otherId kept) :
    (volume.write (.connection connectionId) written).2.KeepsUpWith otherId kept := by
  refine ⟨keepsUp.isOwn, keepsUp.kept, ?_⟩
  rw [others_of_write volume connectionId written otherId different]
  exact keepsUp.stored

/-- A record that keeps up replaces the stored one, and nothing falls behind. -/
theorem KeepsUpWith.write {otherId : UInt32}
    (accepted : (volume.write (.connection connectionId) (.ofConnection record)).1 = none)
    (written : volume.KeepsUpWith connectionId record)
    (keepsUp : volume.KeepsUpWith otherId kept) :
    (volume.write (.connection connectionId) (.ofConnection record)).2.KeepsUpWith otherId
      kept := by
  by_cases same : connectionId = otherId
  · subst same
    obtain ⟨stored, isStored, _, writtenFields⟩ := written.stored
    obtain ⟨_, isSame, _, keptFields⟩ := keepsUp.stored
    cases isStored.symm.trans isSame
    exact ⟨keepsUp.isOwn, keepsUp.kept, record, connectionRecord?_write_self accepted,
      written.isOwn, (TurnFields.trimmed_of_le written.kept).trans
        (writtenFields.symm.trans keptFields)⟩
  · exact keepsUp.write_other same _

theorem OrderlySince.write (orderly : origin.OrderlySince volume)
    (kept : record.retiredRemoteKeys.length ≤ RatchetState.maxRetiredKeys) (otherId : UInt32)
    (accepted : (volume.write (.connection otherId) (.ofConnection record)).1 = none) :
    origin.OrderlySince (volume.write (.connection otherId) (.ofConnection record)).2 := by
  intro connectionId stored isStored
  by_cases same : otherId = connectionId
  · subst same
    rw [find?_write_self accepted] at isStored
    cases isStored
    refine .inr ⟨rfl, fun state isState => ?_⟩
    cases isState
    exact kept
  · rw [find?_write_other (fun isSlot => same (by cases isSlot; rfl))] at isStored
    exact orderly connectionId stored isStored

theorem OrderlySince.congr {later : Volume} (orderly : origin.OrderlySince volume)
    (same : volume.SameConnections later) : origin.OrderlySince later :=
  fun connectionId record isRecord => orderly connectionId record (same connectionId ▸ isRecord)

end Volume

/-! ### Saves -/

namespace Volume.KeepsUpWithSave

variable {volume : Volume} {save : BackgroundSave}

theorem mono (current : volume.KeepsUpWithSave connectionId save) {later : Volume}
    (monotone : ∀ record, volume.KeepsUpWith connectionId record →
      later.KeepsUpWith connectionId record) : later.KeepsUpWithSave connectionId save := by
  intro written stage
  obtain ⟨record, isRecord, keepsUp⟩ := current written stage
  exact ⟨record, isRecord, monotone record keepsUp⟩

/-- A save that has yet to export its connection has no record that could be behind. -/
theorem of_waiting (waits : save.stage = .waiting) : volume.KeepsUpWithSave connectionId save :=
  fun _ stage => nomatch waits.symm.trans stage

theorem of_retrying {record : Record.ConnectionRecord}
    (keepsUp : volume.KeepsUpWith connectionId record)
    (retries : save.stage = .retrying (.ofConnection record)) :
    volume.KeepsUpWithSave connectionId save := by
  intro written stage
  cases retries.symm.trans stage
  exact ⟨record, rfl, keepsUp⟩

/-- What is left of a save whose write was refused has the same record. -/
theorem afterFailure {record : Record.ConnectionRecord} {timer : Timer} {turn : Nat}
    {rest : BackgroundSave} (keepsUp : volume.KeepsUpWith connectionId record)
    (left : save.afterFailure timer turn (.ofConnection record) = some rest) :
    volume.KeepsUpWithSave connectionId rest :=
  of_retrying keepsUp (BackgroundSave.afterFailure_eq_some left).1

end Volume.KeepsUpWithSave

/-! ### The invariant -/

/-- Whatever is written for a connection is not apart from the stored record by a turn: the live
state, and the records that background saves try again. -/
structure Site.KeepsUp (origin : Volume) (site : Site) : Prop where
  alone : ∀ process ∈ site.others, process.saves = .empty
  orderly : origin.OrderlySince site.volume
  live : ∀ connectionId live,
    site.own.messenger.connections.find? connectionId = some live →
      ∃ record, live.connection.exportRecord = .ok record ∧
        site.volume.KeepsUpWith connectionId record
  saves : ∀ connectionId save, site.own.saves.find? connectionId = some save →
    site.volume.KeepsUpWithSave connectionId save

namespace Site.KeepsUp

variable {site later : Site}

/-- What a background save writes keeps up. -/
theorem of_recordOf {save : BackgroundSave} {written : Record.SessionRecord}
    (keepsUp : site.KeepsUp origin) (retried : site.volume.KeepsUpWithSave connectionId save)
    (isRecord : site.own.recordOf connectionId save = some written) :
    ∃ record, written = .ofConnection record ∧ site.volume.KeepsUpWith connectionId record := by
  rcases Process.recordOf_eq_some isRecord with
    stage | ⟨_, live, exported, isLive, _, isExported, rfl⟩
  · exact retried written stage
  · obtain ⟨record, isSame, current⟩ := keepsUp.live connectionId live isLive
    cases isExported.symm.trans isSame
    exact ⟨exported, rfl, current⟩

/-- Nothing falls behind when the volume changes so that no record does. -/
theorem withVolume (keepsUp : site.KeepsUp origin) {volume : Volume}
    (orderly : origin.OrderlySince volume)
    (monotone : ∀ connectionId record, site.volume.KeepsUpWith connectionId record →
      volume.KeepsUpWith connectionId record) :
    Site.KeepsUp origin { site with volume := volume } where
  alone := keepsUp.alone
  orderly := orderly
  live connectionId live found := by
    obtain ⟨record, exported, current⟩ := keepsUp.live connectionId live found
    exact ⟨record, exported, monotone connectionId record current⟩
  saves connectionId save found :=
    (keepsUp.saves connectionId save found).mono (monotone connectionId)

/-- A record that keeps up is written. -/
theorem accepted (keepsUp : site.KeepsUp origin) {record : Record.ConnectionRecord}
    (current : site.volume.KeepsUpWith connectionId record)
    (accepts : site.Accepts (.connection connectionId) (.ofConnection record)) :
    (site.writing (.connection connectionId) (.ofConnection record)).KeepsUp origin :=
  keepsUp.withVolume (keepsUp.orderly.write current.kept connectionId accepts)
    (fun _ _ => current.write accepts)

/-- A write is refused. -/
theorem refused (keepsUp : site.KeepsUp origin) {slot : StoreSlot} {written : Record.SessionRecord}
    {failure : Error} (refuses : (site.volume.write slot written).1 = some failure) :
    (site.writing slot written).KeepsUp origin :=
  have same := Volume.sameConnections_of_refused refuses
  keepsUp.withVolume (keepsUp.orderly.congr same) (fun _ _ => .congr same)

/-- Nothing falls behind when a save ends, or goes on so that it does not. -/
theorem settle (keepsUp : site.KeepsUp origin) (connectionId : UInt32)
    (rest : Option BackgroundSave)
    (goesOn : ∀ save, rest = some save → site.volume.KeepsUpWithSave connectionId save) :
    Site.KeepsUp origin { site with own := site.own.settle connectionId rest } where
  alone := keepsUp.alone
  orderly := keepsUp.orderly
  live := keepsUp.live
  saves otherId save found := by
    by_cases same : connectionId = otherId
    · subst same
      exact goesOn save ((Process.find?_saves_settle_self _ _ _).symm.trans found)
    · exact keepsUp.saves otherId save
        ((Process.find?_saves_settle_other same _ _).symm.trans found)

theorem fire (keepsUp : site.KeepsUp origin) (turn : Nat) : (site.fire turn).KeepsUp origin := by
  rcases fire_cases turn site with ⟨connectionId, save, found, fired⟩ | fired
  · rcases site.own.fire_cases connectionId save site.nextTurn site.volume with
      ⟨_, stepped⟩ | ⟨written, isRecord, outcome⟩
    · rw [fired, stepped]
      exact keepsUp.settle connectionId none nofun
    · obtain ⟨record, rfl, current⟩ :=
        keepsUp.of_recordOf (keepsUp.saves connectionId save found) isRecord
      rcases outcome with ⟨accepted, stepped⟩ | ⟨failure, refused, stepped⟩ <;> rw [fired, stepped]
      · exact (keepsUp.accepted current accepted).settle connectionId none nofun
      · exact (keepsUp.refused refused).settle connectionId _ fun _ =>
          .afterFailure (current.congr (Volume.sameConnections_of_refused refused))
  · rw [fired, fireAmong_of_idle keepsUp.alone]
    exact keepsUp

/-- Nothing falls behind when the connections of the volume stay, and those that are live. -/
theorem congr (keepsUp : site.KeepsUp origin) (others : later.others = site.others)
    (volumes : site.volume.SameConnections later.volume)
    (connections : ∀ connectionId live,
      later.own.messenger.connections.find? connectionId = some live →
        site.own.messenger.connections.find? connectionId = some live)
    (saves : ∀ connectionId save, later.own.saves.find? connectionId = some save →
      site.own.saves.find? connectionId = some save) : later.KeepsUp origin where
  alone := others ▸ keepsUp.alone
  orderly := keepsUp.orderly.congr volumes
  live connectionId live found := by
    obtain ⟨record, exported, current⟩ :=
      keepsUp.live connectionId live (connections connectionId live found)
    exact ⟨record, exported, current.congr volumes⟩
  saves connectionId save found :=
    (keepsUp.saves connectionId save (saves connectionId save found)).mono fun _ => .congr volumes

theorem beat (keepsUp : site.KeepsUp origin) (beat : site.Beat later) : later.KeepsUp origin := by
  cases beat with
  | fire turn => exact keepsUp.fire turn
  | refused failed => exact keepsUp.refused failed

theorem lapses (keepsUp : site.KeepsUp origin) (lapses : site.Lapses later) :
    later.KeepsUp origin := by
  induction lapses with
  | refl => exact keepsUp
  | tail _ beat inductionHypothesis => exact inductionHypothesis.beat beat

/-- A connection becomes live, or changes, together with its record. -/
theorem storing (keepsUp : site.KeepsUp origin) {record : Record.ConnectionRecord}
    {change : Messenger → Messenger} (live : LiveConnection)
    (accepts : site.Accepts (.connection connectionId) (.ofConnection record))
    (isOwn : record.connectionId = connectionId)
    (kept : record.retiredRemoteKeys.length ≤ RatchetState.maxRetiredKeys)
    (exported : live.connection.exportRecord = .ok record)
    (idle : site.own.saves.find? connectionId = none)
    (changed : (change site.own.messenger).connections =
      site.own.messenger.connections.insert connectionId live) :
    Site.KeepsUp origin
      ((site.writing (.connection connectionId) (.ofConnection record)).changing change) := by
  refine ⟨keepsUp.alone, keepsUp.orderly.write kept connectionId accepts,
    fun otherId other found => ?_, fun otherId save found => ?_⟩
  · change (change site.own.messenger).connections.find? otherId = some other at found
    by_cases same : connectionId = otherId
    · subst same
      rw [changed, OrderedMap.find?_insert_self] at found
      cases found
      exact ⟨record, exported, Volume.keepsUpWith_write_self accepts isOwn kept⟩
    · rw [changed, OrderedMap.find?_insert_other _ same] at found
      obtain ⟨otherRecord, isExported, current⟩ := keepsUp.live otherId other found
      exact ⟨otherRecord, isExported, current.write_other same _⟩
  · -- The record that a save of this connection tried to write would now be behind.
    have different : connectionId ≠ otherId := by
      rintro rfl
      cases idle.symm.trans found
    exact (keepsUp.saves otherId save found).mono fun _ => .write_other different _

/-- A connection becomes live, or changes, and keeps up with the record that is stored. -/
theorem renewing (keepsUp : site.KeepsUp origin) {messenger : Messenger}
    {saves : NumberMap BackgroundSave} (live : LiveConnection) {record : Record.ConnectionRecord}
    (exported : live.connection.exportRecord = .ok record)
    (current : site.volume.KeepsUpWith connectionId record)
    (changed : messenger.connections = site.own.messenger.connections.insert connectionId live)
    (later : ∀ otherId save, saves.find? otherId = some save →
      site.volume.KeepsUpWithSave otherId save) :
    Site.KeepsUp origin
      { site with own := { site.own with messenger := messenger, saves := saves } } where
  alone := keepsUp.alone
  orderly := keepsUp.orderly
  live otherId other found := by
    change messenger.connections.find? otherId = some other at found
    by_cases same : connectionId = otherId
    · subst same
      rw [changed, OrderedMap.find?_insert_self] at found
      cases found
      exact ⟨record, exported, current⟩
    · rw [changed, OrderedMap.find?_insert_other _ same] at found
      exact keepsUp.live otherId other found
  saves := later

theorem keepsUpWith_of_live (keepsUp : site.KeepsUp origin) {live : LiveConnection}
    {state : RatchetState}
    (found : site.own.messenger.connections.find? connectionId = some live)
    (established : live.connection.phase = .established state) :
    site.volume.KeepsUpWith connectionId (state.toRecord live.connection.connectionId) := by
  obtain ⟨record, exported, current⟩ := keepsUp.live connectionId live found
  cases (Connection.exportRecord_of_established established).symm.trans exported
  exact current

/-- A change of a live connection that no turn has made keeps up with the stored record. -/
theorem keepsUpWith_of_unturned (keepsUp : site.KeepsUp origin) {live : LiveConnection}
    {state changed : RatchetState}
    (found : site.own.messenger.connections.find? connectionId = some live)
    (established : live.connection.phase = .established state)
    (unturned : changed.turnFields = state.turnFields) :
    site.volume.KeepsUpWith connectionId (changed.toRecord live.connection.connectionId) := by
  have current := keepsUp.keepsUpWith_of_live found established
  have kept := congrArg (fun fields => fields.retiredRemoteKeys.length) unturned
  obtain ⟨stored, isStored, isOwn, fields⟩ := current.stored
  exact ⟨current.isOwn, Nat.le_trans (Nat.le_of_eq kept) current.kept, stored, isStored, isOwn,
    fields.trans unturned.symm⟩

end Site.KeepsUp

/-- An exchanged message finds its session established, and keeps the limit of retired keys. -/
theorem Connection.Exchanges.established {connection : Connection} {staged : Staged}
    {events : List Event} (exchanges : connection.Exchanges provider staged events) :
    ∃ state, connection.phase = .established state ∧
      (state.retiredKeys.length ≤ RatchetState.maxRetiredKeys →
        (staged.resulting state).retiredKeys.length ≤ RatchetState.maxRetiredKeys) := by
  cases exchanges with
  | sends encrypts =>
    obtain ⟨state, _, _, _, _, _, _, established, _⟩ := stageEncrypt_eq_ok encrypts
    refine ⟨state, established, fun kept => ?_⟩
    rw [retiredKeys_of_stageEncrypt established encrypts]
    exact kept
  | receives decrypts =>
    obtain ⟨state, _, _, _, _, established, _⟩ := stageDecrypt_eq_ok decrypts
    exact ⟨state, established, length_retiredKeys_of_stageDecrypt established decrypts⟩

/-- Nothing falls behind by what a process does. -/
theorem Move.keepsUp {site later : Site} {events : List Event}
    (move : Move provider site events later) (keepsUp : site.KeepsUp origin) :
    later.KeepsUp origin := by
  cases move with
  | time beat => exact keepsUp.beat beat
  | drop connectionId =>
    exact keepsUp.congr rfl (fun _ => rfl) (fun _ _ => id)
      (fun _ _ => OrderedMap.find?_of_find?_erase)
  | prepare ephemeral => exact keepsUp.congr rfl (fun _ => rfl) (fun _ _ => id) (fun _ _ => id)
  | identify follows accepts =>
    exact keepsUp.congr rfl (Volume.sameConnections_of_identity _ _) (fun _ _ => id)
      (fun _ _ => id)
  | @establish connectionId connection state opens idle accepts =>
    have kept : (state.toRecord connectionId).retiredRemoteKeys.length ≤
        RatchetState.maxRetiredKeys := by
      simp only [RatchetState.toRecord, opens.retiredKeys]
      exact Nat.zero_le _
    exact keepsUp.storing ⟨site.own.messenger.nextSerial, connection⟩ accepts rfl kept
      (Connection.exportRecord_eq_ok.2 ⟨state, opens.phase, by rw [opens.number]⟩) idle rfl
  | @turn connectionId live staged events record found exchanges turned idle accepts =>
    obtain ⟨state, established, keeps⟩ := exchanges.established
    have current := keepsUp.keepsUpWith_of_live found established
    have isRecord := Staged.eq_of_turnRecord turned state
    have kept : record.retiredRemoteKeys.length ≤ RatchetState.maxRetiredKeys := by
      have keptBefore := current.kept
      simp only [isRecord, RatchetState.toRecord, List.length_map] at keptBefore ⊢
      exact keeps keptBefore
    have exportedAfter : (live.connection.commit staged).exportRecord = .ok record := by
      rw [Connection.commit_of_established established, isRecord]
      exact Connection.exportRecord_eq_ok.2 ⟨_, rfl, by rw [← current.isOwn]; rfl⟩
    exact keepsUp.storing { live with connection := live.connection.commit staged } accepts
      (isRecord ▸ rfl) kept exportedAfter idle rfl
  | @advance connectionId live staged events save found exchanges unturned ofLive waits =>
    obtain ⟨state, established, _⟩ := exchanges.established
    have exported : (live.connection.commit staged).exportRecord =
        .ok ((staged.resulting state).toRecord live.connection.connectionId) := by
      rw [Connection.commit_of_established established]
      exact Connection.exportRecord_eq_ok.2 ⟨_, rfl, rfl⟩
    refine keepsUp.renewing { live with connection := live.connection.commit staged }
      exported (keepsUp.keepsUpWith_of_unturned found established
        (Staged.turnFields_of_unturned unturned state)) rfl ?_
    intro otherId other isSave
    by_cases same : connectionId = otherId
    · subst same
      rw [OrderedMap.find?_insert_self] at isSave
      cases isSave
      exact .of_waiting waits
    · rw [OrderedMap.find?_insert_other _ same] at isSave
      exact keepsUp.saves otherId other isSave
  | @force connectionId live connection found forced =>
    obtain ⟨state, established⟩ := Connection.established_of_forceRatchet forced
    obtain rfl := Connection.forceRatchet_eq_ok established forced
    have current := keepsUp.keepsUpWith_of_unturned found established
      (show { state with sendingRatchetPending := true }.turnFields = state.turnFields from rfl)
    exact keepsUp.renewing { live with
        connection := { live.connection with
          phase := .established { state with sendingRatchetPending := true } } }
      (Connection.exportRecord_of_established rfl) current rfl keepsUp.saves
  | @restore connectionId record limits connection before after stored isOwn reads =>
    obtain ⟨state, _, restored, returned⟩ := Crypto.bind_eq_ok.1 reads
    obtain ⟨rfl, _⟩ := Crypto.pure_eq_ok.1 returned
    have fields := RatchetState.turnFields_of_ofRecord restored
    have current : site.volume.KeepsUpWith connectionId (state.toRecord record.connectionId) := by
      refine ⟨isOwn, ?_, record, stored, isOwn, fields.symm⟩
      exact Nat.le_trans (Nat.le_of_eq (congrArg (fun fields =>
        fields.retiredRemoteKeys.length) fields)) (TurnFields.length_trimmed_le _)
    exact keepsUp.renewing ⟨site.own.messenger.nextSerial, _⟩
      (Connection.exportRecord_eq_ok.2 ⟨state, rfl, rfl⟩) current rfl keepsUp.saves
  | close found =>
    exact keepsUp.congr rfl (fun _ => rfl) (fun _ _ => OrderedMap.find?_of_find?_erase)
      (fun _ _ => id)

theorem Moves.keepsUp {site later : Site} {events : List Event}
    (moves : Moves provider site events later) (keepsUp : site.KeepsUp origin) :
    later.KeepsUp origin := by
  induction moves with
  | refl => exact keepsUp
  | head move _ inductionHypothesis => exact inductionHypothesis (move.keepsUp keepsUp)

/-! ### Turns -/

/-- The stored record of a connection is that of its whole live state. -/
def Site.IsStored (site : Site) (connectionId : UInt32) : Prop :=
  ∃ record, site.liveRecord? connectionId = some record ∧
    site.volume.find? (.connection connectionId) = some (.ofConnection record)

namespace Node

variable {α : Type} {before after : Node σ} {live : LiveConnection} {staged : Staged}
  {events : List Event} {signal : CancelSignal σ} {done : PUnit}

end Node

/-! ### Starts -/

/-- A process at its start, alone at its volume. -/
structure Site.Fresh (site : Site) : Prop where
  alone : ∀ process ∈ site.others, process.saves = .empty
  noConnections : site.own.messenger.connections = .empty
  noSaves : site.own.saves = .empty

theorem Site.Fresh.keepsUp {site : Site} (fresh : site.Fresh) : site.KeepsUp site.volume where
  alone := fresh.alone
  orderly _ _ isStored := .inl isStored
  live connectionId live found := by
    rw [fresh.noConnections] at found
    cases found
  saves connectionId save found := by
    rw [fresh.noSaves] at found
    cases found

end RatchetMessaging
