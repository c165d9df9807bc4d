import RatchetMessaging.Messenger.Sessions
import RatchetMessaging.Proofs.Connection.Portable
import RatchetMessaging.Proofs.Messenger.Drain

/-!
Contract: every live connection is stored, or is about to be.

Owns:
- `Restores`, for a volume from which a connection is read back as it is;
- `Tended`, for a site at which every live connection is restored from the volume, or has a
  background save that will store it; the passage of time, writes, dropped saves, and connections
  that change, come and go keep this.

Does not own: the operations that do so, and restarts.
-/

namespace RatchetMessaging

variable {σ : Type} {provider : Provider σ} {limits : RatchetLimits} {connectionId : UInt32}

/-! ### Stored connections -/

namespace Volume

variable {volume : Volume} {slot : StoreSlot} {record : Record.SessionRecord}

/-- The record of a connection is there, and the connection is read back from it. -/
def Restores (provider : Provider σ) (limits : RatchetLimits) (connectionId : UInt32)
    (connection : Connection) (volume : Volume) : Prop :=
  ∃ stored record, volume.load (.connection connectionId) = .ok stored ∧
    Node.connectionIn stored connectionId = .ok record ∧
    Crypto.Returns (Connection.ofRecord provider limits record) connection

theorem Restores.write_other {connection : Connection}
    (restores : volume.Restores provider limits connectionId connection)
    (different : slot ≠ .connection connectionId) :
    (volume.write slot record).2.Restores provider limits connectionId connection := by
  unfold Restores
  rw [load_write_other different]
  exact restores

end Volume

/-- The record is the export of a connection that is read back from it. -/
def Record.SessionRecord.Exports (provider : Provider σ) (limits : RatchetLimits)
    (connectionId : UInt32) (stored : SessionRecord) (connection : Connection) : Prop :=
  connection.Portable provider limits connectionId ∧
    ∃ record, connection.exportRecord = .ok record ∧ stored = .ofConnection record

/-- A connection is restored from its export. -/
theorem Volume.restores_of_exports {volume : Volume} {stored : Record.SessionRecord}
    {connection : Connection} (loads : volume.loadFault = none)
    (found : volume.find? (.connection connectionId) = some stored)
    (exports : stored.Exports provider limits connectionId connection) :
    volume.Restores provider limits connectionId connection := by
  obtain ⟨portable, record, exported, rfl⟩ := exports
  obtain ⟨_, exportedToo, isOwn, returns⟩ := portable.exports
  cases exported.symm.trans exportedToo
  refine ⟨_, record, Volume.load_of_find? loads found, ?_, returns⟩
  simp only [Node.connectionIn, Record.SessionRecord.ofConnection, isOwn, ne_eq,
    not_true_eq_false, if_false]
  rfl

/-! ### The invariant -/

/-- What the process at work does by itself changes nothing about that. -/
theorem Site.Working.of_own {site : Site} (working : site.Working) (own : Process) :
    Site.Working { site with own := own } :=
  ⟨working.alone, working.accepts⟩

/-- The process at work is alone at a volume that takes every write and gives every record back.
Every connection that is live, but for the spared one, is restored from the volume, or has a
background save that will store it as it then is. Records that were not held before are exports. -/
structure Site.Tended (provider : Provider σ) (limits : RatchetLimits) (held : Volume)
    (spared : Option UInt32) (site : Site) : Prop where
  working : site.Working
  loads : site.volume.loadFault = none
  settings : site.own.messenger.config.ratchetLimits = limits
  waiting : ∀ connectionId save, site.own.saves.find? connectionId = some save →
    save.stage = .waiting
  portable : ∀ connectionId live, site.own.messenger.connections.find? connectionId = some live →
    live.connection.Portable provider limits connectionId
  records : ∀ connectionId stored, site.volume.find? (.connection connectionId) = some stored →
    held.find? (.connection connectionId) = some stored ∨
      ∃ connection, stored.Exports provider limits connectionId connection
  current : ∀ connectionId live, spared ≠ some connectionId →
    site.own.messenger.connections.find? connectionId = some live →
      site.volume.Restores provider limits connectionId live.connection ∨
        ∃ save, site.own.saves.find? connectionId = some save ∧ save.serial = live.serial

namespace Site.Tended

variable {site later : Site} {held : Volume} {spared : Option UInt32} {connection : Connection}
  {live : LiveConnection}

/-! ### Saves -/

/-- The unfinished save of a live connection has the export of the connection to write. -/
theorem recordOf (tended : site.Tended provider limits held spared) {save : BackgroundSave}
    (found : site.own.messenger.connections.find? connectionId = some live)
    (pending : site.own.saves.find? connectionId = some save)
    (ofLive : save.serial = live.serial) :
    ∃ record, site.own.recordOf connectionId save = some record := by
  obtain ⟨record, exported, _⟩ := (tended.portable connectionId live found).exports
  exact ⟨.ofConnection record,
    Process.recordOf_of_waiting (tended.waiting connectionId save pending) found ofLive exported⟩

/-- What a save has to write is the export of the live connection. -/
theorem exports_of_recordOf (tended : site.Tended provider limits held spared)
    {save : BackgroundSave} {record : Record.SessionRecord}
    (pending : site.own.saves.find? connectionId = some save)
    (isRecord : site.own.recordOf connectionId save = some record) :
    ∃ live, site.own.messenger.connections.find? connectionId = some live ∧
      record.Exports provider limits connectionId live.connection := by
  rcases Process.recordOf_eq_some isRecord with
    retries | ⟨_, live, exported, found, _, isExport, rfl⟩
  · rw [tended.waiting connectionId save pending] at retries
    cases retries
  · exact ⟨live, found, tended.portable connectionId live found, exported, isExport, rfl⟩

/-- The record of a connection is replaced by the export of one, which is the live connection unless
that is spared. -/
theorem write (tended : site.Tended provider limits held spared) {stored : Record.SessionRecord}
    (exports : stored.Exports provider limits connectionId connection)
    (ofLive : ∀ live, spared ≠ some connectionId →
      site.own.messenger.connections.find? connectionId = some live →
        live.connection = connection) :
    Site.Tended provider limits held spared
      { site with volume := (site.volume.write (.connection connectionId) stored).2 } := by
  have written : (site.volume.write (.connection connectionId) stored).2.find?
      (.connection connectionId) = some stored :=
    Volume.find?_write_self (Volume.write_of_no_fault (tended.working.accepts _ _))
  have others : ∀ {otherId}, connectionId ≠ otherId →
      StoreSlot.connection connectionId ≠ .connection otherId := by
    rintro otherId different ⟨⟩
    exact different rfl
  have loads := (Volume.loadFault_write site.volume (.connection connectionId) stored).trans
    tended.loads
  refine { tended with
    working := ⟨tended.working.alone, ?_⟩
    loads := loads
    records := fun otherId found isFound => ?_
    current := fun otherId live unspared isLive => ?_ }
  · rw [Volume.writeFault_write]
    exact tended.working.accepts
  · by_cases same : connectionId = otherId
    · subst same
      cases written.symm.trans isFound
      exact .inr ⟨connection, exports⟩
    · rw [Volume.find?_write_other (others same)] at isFound
      exact tended.records otherId found isFound
  · by_cases same : connectionId = otherId
    · subst same
      rw [ofLive live unspared isLive]
      exact .inl (Volume.restores_of_exports loads written exports)
    · rcases tended.current otherId live unspared isLive with restores | pending
      · exact .inl (restores.write_other (others same))
      · exact .inr pending

/-- The save of a connection is dropped that is restored from the volume, or spared. -/
theorem drop (tended : site.Tended provider limits held spared) (connectionId : UInt32)
    (restores : ∀ live, spared ≠ some connectionId →
      site.own.messenger.connections.find? connectionId = some live →
        site.volume.Restores provider limits connectionId live.connection) :
    Site.Tended provider limits held spared
      { site with own := site.own.dropping (.connection connectionId) } :=
  { tended with
    working := tended.working.of_own _
    waiting := fun otherId save pending =>
      tended.waiting otherId save (OrderedMap.find?_of_find?_erase pending)
    current := by
      intro otherId live unspared isLive
      by_cases same : connectionId = otherId
      · subst same
        exact .inl (restores live unspared isLive)
      · rw [Process.dropping, OrderedMap.find?_erase_other _ same]
        exact tended.current otherId live unspared isLive }

theorem fire (tended : site.Tended provider limits held spared) (turn : Nat) :
    (site.fire turn).Tended provider limits held spared := by
  rcases site.fire_cases turn with ⟨connectionId, save, pending, fired⟩ | fired
  · rw [fired]
    rcases site.own.fire_cases connectionId save site.nextTurn site.volume with
      ⟨nothing, stepped⟩ | ⟨record, isRecord, ⟨_, stepped⟩ | ⟨_, refused, _⟩⟩
    · -- The save is of a connection that is not live any more.
      rw [stepped]
      refine tended.drop connectionId (fun live unspared isLive => ?_)
      refine (tended.current connectionId live unspared isLive).resolve_right ?_
      rintro ⟨other, isPending, ofLive⟩
      cases pending.symm.trans isPending
      obtain ⟨record, isRecord⟩ := tended.recordOf isLive pending ofLive
      cases nothing.symm.trans isRecord
    · rw [stepped]
      obtain ⟨live, isLive, exports⟩ := tended.exports_of_recordOf pending isRecord
      have written := tended.write exports (fun other _ isOther => by
        cases isLive.symm.trans isOther
        rfl)
      refine written.drop connectionId (fun other unspared isOther => ?_)
      cases isLive.symm.trans isOther
      refine Volume.restores_of_exports written.loads (Volume.find?_write_self ?_) exports
      exact Volume.write_of_no_fault (tended.working.accepts _ _)
    · exact absurd refused tended.working.not_refused
  · rw [fired, fireAmong_of_idle tended.working.alone]
    exact tended

theorem lapses (tended : site.Tended provider limits held spared) (lapses : site.Lapses later) :
    later.Tended provider limits held spared := by
  induction lapses with
  | refl => exact tended
  | tail _ beat inductionHypothesis =>
    cases beat with
    | fire turn => exact inductionHypothesis.fire turn
    | refused failed => exact absurd failed inductionHypothesis.working.not_refused

/-- The identity does not matter. -/
theorem identify (tended : site.Tended provider limits held spared) (identity : Identity) :
    Site.Tended provider limits held spared { site with own.messenger.identity := identity } :=
  { tended with working := tended.working.of_own _ }

/-- The spared connection is replaced by one that is restored from the volume. -/
theorem put (tended : site.Tended provider limits held (some connectionId))
    (portable : live.connection.Portable provider limits connectionId)
    (restores : site.volume.Restores provider limits connectionId live.connection)
    {party : Messenger} (config : party.config = site.own.messenger.config)
    (connections : party.connections =
      site.own.messenger.connections.insert connectionId live) :
    Site.Tended provider limits held none { site with own.messenger := party } :=
  { tended with
    working := tended.working.of_own _
    settings := (congrArg Config.ratchetLimits config).trans tended.settings
    portable := by
      rw [connections]
      exact OrderedMap.of_find?_insert portable tended.portable
    current := by
      intro otherId other _ isLive
      rw [connections] at isLive
      by_cases same : connectionId = otherId
      · subst same
        cases (OrderedMap.find?_insert_self _ _ _).symm.trans isLive
        exact .inl restores
      · rw [OrderedMap.find?_insert_other _ same] at isLive
        exact tended.current otherId other (by simpa using same) isLive }

/-- A live connection changes, and a save of it is scheduled. -/
theorem schedule (tended : site.Tended provider limits held none)
    (portable : live.connection.Portable provider limits connectionId) {save : BackgroundSave}
    (ofLive : save.serial = live.serial) (waits : save.stage = .waiting) :
    Site.Tended provider limits held none
      { site with own := { site.own with
          messenger := site.own.messenger.update connectionId live
          saves := site.own.saves.insert connectionId save } } :=
  { tended with
    working := tended.working.of_own _
    waiting := OrderedMap.of_find?_insert waits tended.waiting
    portable := OrderedMap.of_find?_insert portable tended.portable
    current := by
      intro otherId other unspared isLive
      by_cases same : connectionId = otherId
      · subst same
        cases (OrderedMap.find?_insert_self _ _ _).symm.trans isLive
        exact .inr ⟨save, OrderedMap.find?_insert_self _ _ _, ofLive⟩
      · rw [Messenger.update, OrderedMap.find?_insert_other _ same] at isLive
        rw [OrderedMap.find?_insert_other _ same]
        exact tended.current otherId other unspared isLive }

theorem remove (tended : site.Tended provider limits held none) (connectionId : UInt32) :
    Site.Tended provider limits held none
      { site with own.messenger := site.own.messenger.remove connectionId } :=
  { tended with
    working := tended.working.of_own _
    portable := fun otherId other isLive =>
      tended.portable otherId other (OrderedMap.find?_of_find?_erase isLive)
    current := fun otherId other unspared isLive =>
      tended.current otherId other unspared (OrderedMap.find?_of_find?_erase isLive) }

end Site.Tended

end RatchetMessaging
