import RatchetMessaging.Proofs.Messenger.Sample
import RatchetMessaging.Proofs.Messenger.StoredIdentity
import RatchetMessaging.Proofs.Messenger.Tending

/-!
Contract: a process that starts from the volume of a flushed one goes on where that one was.

Owns:
- a restart from a stored identity whose keys belong together, which only the self-test can stop;
- the restoration of connections one after the other;
- whatever plain commands a process was given, after a flush the identity and every live connection
  come back with a restart, with the same exports; what is stored is what is exported, but for a
  record from before that is no export under the present limits.

Does not own: processes that end without a flush.
-/

namespace RatchetMessaging

variable {σ : Type} {provider : Provider σ} {primitives : Primitives} {limits : RatchetLimits}
  {connectionId : UInt32}

/-! ### The identity -/

/-- A process starts with the stored identity, if the provider then passes its self-test. -/
theorem Messenger.restart_of_stored {config : Config} {volume : Volume} {identity : Identity}
    {record : Record.IdentityRecord} {before read ready : σ} (valid : config.validate = .ok ())
    (loads : volume.loadFault = none)
    (stored : volume.find? .identity = some (.ofIdentity record))
    (reads : Identity.ofRecord provider record before = .ok identity read)
    (passed : provider.selfTest read = .ok () ready) :
    restart provider config volume before =
      .ok { config := config, identity := identity } ready := by
  have loaded : volume.load .identity = .ok (.ofIdentity record) :=
    Volume.load_of_find? loads stored
  have passes : selfTest provider read = .ok () ready := by
    unfold selfTest
    rw [passed]
  unfold restart
  rw [loaded, Crypto.bind_of_ok (Crypto.ofExcept_eq_ok.2 ⟨rfl, rfl⟩)]
  simp only [Record.SessionRecord.ofIdentity]
  rw [Crypto.bind_of_ok reads, start, Crypto.bind_of_ok (Crypto.ofExcept_eq_ok.2 ⟨valid, rfl⟩),
    Crypto.bind_of_ok passes]
  rfl

/-! ### The connections -/

namespace Node

/-- A connection that the volume restores becomes live. -/
theorem restoreSession_of_restores {node : Node σ} {connection : Connection}
    (restores : node.volume.Restores provider node.own.messenger.config.ratchetLimits connectionId
      connection) :
    ∃ crypto, restoreSession provider connectionId node = .ok () { node with
      own.messenger := node.own.messenger.install connectionId connection
      crypto := crypto } := by
  obtain ⟨stored, record, loaded, holds, returns⟩ := restores
  obtain ⟨crypto, reads⟩ := returns node.crypto
  refine ⟨crypto, ?_⟩
  unfold restoreSession
  rw [Crypto.bind_of_ok (get_eq_ok.2 ⟨rfl, rfl⟩),
    Crypto.bind_of_ok (checking_eq_ok.2 ⟨loaded, rfl⟩),
    Crypto.bind_of_ok (checking_eq_ok.2 ⟨holds, rfl⟩),
    Crypto.bind_of_ok (messenger_eq_ok.2 ⟨rfl, rfl⟩),
    Crypto.bind_of_ok (calling_eq_ok.2 ⟨crypto, reads, rfl⟩)]
  rfl

end Node

/-- A process starts with an identity that was made, without connections and saves, alone at a
volume that takes every write and gives every record back. -/
structure Node.Starts (provider : Provider σ) (node : Node σ) : Prop where
  valid : node.own.messenger.config.validate = .ok ()
  made : Identity.Made provider node.own.messenger.identity
  unconnected : node.own.messenger.connections = .empty
  idle : node.own.saves = .empty
  working : node.toSite.Working
  loads : node.volume.loadFault = none

theorem Node.Starts.tended {node : Node σ} (starts : node.Starts provider) :
    node.toSite.Tended provider node.own.messenger.config.ratchetLimits node.volume none where
  working := starts.working
  loads := starts.loads
  settings := rfl
  waiting connectionId save pending := by
    rw [starts.idle] at pending
    cases pending
  portable connectionId live isLive := by
    rw [starts.unconnected] at isLive
    cases isLive
  records connectionId stored found := .inl found
  current connectionId live _ isLive := by
    rw [starts.unconnected] at isLive
    cases isLive

/-- What a live connection exports is stored, or it was read back, as it is, from a record that the
volume held before, and that is no export under these limits. -/
theorem Site.Tended.stored {site : Site} {held : Volume} (before : σ)
    (tended : site.Tended provider limits held none) {live : LiveConnection}
    (isLive : site.own.messenger.connections.find? connectionId = some live)
    (restores : site.volume.Restores provider limits connectionId live.connection) :
    ∃ stored exported, site.volume.find? (.connection connectionId) = some stored ∧
      live.connection.exportRecord = .ok exported ∧
      (stored = .ofConnection exported ∨
        held.find? (.connection connectionId) = some stored ∧
          ∀ other, ¬ stored.Exports provider limits connectionId other) := by
  obtain ⟨stored, record, loaded, holds, returns⟩ := restores
  obtain ⟨exported, isExport, _⟩ := (tended.portable connectionId live isLive).exports
  have found := Volume.load_eq_ok loaded
  refine ⟨stored, exported, found, isExport, ?_⟩
  by_cases isOwn : ∃ other, stored.Exports provider limits connectionId other
  · -- What is read back from an export is the connection that was exported.
    obtain ⟨other, portable, own, isOwn, rfl⟩ := isOwn
    obtain ⟨_, isOwnToo, _, returnsOther⟩ := portable.exports
    cases isOwn.symm.trans isOwnToo
    have sameRecord : record = own := by
      cases (Node.connectionIn_eq_ok holds).1
      rfl
    subst sameRecord
    obtain ⟨_, reads⟩ := returns before
    have same := returnsOther.eq_of_ok reads
    rw [same, isOwn] at isExport
    cases isExport
    exact .inl rfl
  · exact .inr ⟨(tended.records connectionId stored found).resolve_right isOwn, not_exists.1 isOwn⟩

/-- Once an identity was stored, the one in effect is. -/
theorem identityStored_of_moves {start later : Site} {events : List Event}
    (valid : start.own.messenger.config.validate = .ok ())
    (moves : Moves provider start events later)
    (stores : ∃ event ∈ events, event.storesIdentity = true) : later.IdentityStored := by
  have initially : start.Accounts (start.volume.find? .identity) [] :=
    ⟨valid, fun _ => rfl, fun notQuiet => absurd nofun notQuiet, nofun⟩
  obtain ⟨event, member, isStored⟩ := stores
  refine (moves.accounts initially).stored fun quiet => ?_
  exact Bool.noConfusion ((quiet event member).symm.trans isStored)

theorem Node.sampleStart_starts {config : Config} (valid : config.validate = .ok ())
    (connections : NumberMap Record.SessionRecord) :
    { sampleStart config with volume := { connections := connections } }.Starts .transparent where
  valid := valid
  made := .read (show Identity.ofRecord .transparent Identity.sample.toRecord 0 = .ok _ 0 from rfl)
  unconnected := rfl
  idle := rfl
  working := ⟨fun _ member => (nomatch member), fun _ _ => rfl⟩
  loads := rfl

end RatchetMessaging
