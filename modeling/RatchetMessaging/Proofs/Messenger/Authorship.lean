import RatchetMessaging.Proofs.Messenger.StoredConnection

/-!
Contract: which live connection a stored record was exported from.

Owns:
- `History`, the moves of a process with the records of connections that they store, each with the
  serial number of the live connection that it was exported from;
- what a move does to serial numbers: those of live connections and of their saves stay, and a
  connection that becomes live has a new one;
- a connection that is replaced or closed stores nothing from then on, unless a save has exported
  it before and is still to try the record again.

Does not own: what the stored records say.
-/

namespace RatchetMessaging

variable {σ : Type} {provider : Provider σ} {connectionId : UInt32} {serial : Nat}

/-! ### Histories -/

/-- A record that was stored for a connection, and the live connection it was exported from. -/
structure Deposit where
  connectionId : UInt32
  serial : Nat
  record : Record.SessionRecord

/-- What a step stores for a connection, if anything. -/
inductive Site.Stores (site later : Site) : Option Deposit → Prop
  | nothing (same : site.volume.SameConnections later.volume) : Stores site later none
  /-- A background save writes what it exports, or has exported before. -/
  | background {connectionId : UInt32} {save : BackgroundSave} {record : Record.SessionRecord}
      (found : site.own.saves.find? connectionId = some save)
      (exports : site.own.recordOf connectionId save = some record)
      (accepts : site.Accepts (.connection connectionId) record)
      (written : later.volume = (site.writing (.connection connectionId) record).volume) :
      Stores site later (some ⟨connectionId, save.serial, record⟩)
  /-- A record is written for the state that becomes live with it. -/
  | critical {connectionId : UInt32} {live : LiveConnection} {state : RatchetState}
      (holds : later.own.messenger.connections.find? connectionId = some live)
      (established : live.connection.phase = .established state)
      (accepts : site.Accepts (.connection connectionId)
        (.ofConnection (state.toRecord connectionId)))
      (written : later.volume = (site.writing (.connection connectionId)
        (.ofConnection (state.toRecord connectionId))).volume) :
      Stores site later
        (some ⟨connectionId, live.serial, .ofConnection (state.toRecord connectionId)⟩)

/-- Moves one after another, and all that they store for connections. -/
inductive History (provider : Provider σ) : Site → List Deposit → Site → Prop
  | refl (site : Site) : History provider site [] site
  | head {site middle later : Site} {events : List Event} {deposit : Option Deposit}
      {deposits : List Deposit} (move : Move provider site events middle)
      (stores : site.Stores middle deposit) (rest : History provider middle deposits later) :
      History provider site (deposit.toList ++ deposits) later

/-! ### One process at the volume -/

/-- No other process has an unfinished save. -/
def Site.Alone (site : Site) : Prop := ∀ process ∈ site.others, process.saves = .empty

theorem Move.alone {site later : Site} {events : List Event}
    (move : Move provider site events later) (alone : site.Alone) : later.Alone := by
  cases move with
  | time beat =>
    cases beat with
    | fire turn =>
      rcases Site.fire_cases turn site with ⟨_, _, _, fired⟩ | fired <;> rw [fired]
      · exact alone
      · rw [Site.fireAmong_of_idle alone]
        exact alone
    | refused failed => exact alone
  | _ => exact alone

theorem Moves.alone {site later : Site} {events : List Event}
    (moves : Moves provider site events later) (alone : site.Alone) : later.Alone := by
  induction moves with
  | refl => exact alone
  | head move _ inductionHypothesis => exact inductionHypothesis (move.alone alone)

/-- The step of a background save stores its record, or nothing. -/
theorem Site.stores_fire {site : Site} (alone : site.Alone)
    (turn : Nat) : ∃ deposit, site.Stores (site.fire turn) deposit := by
  rcases fire_cases turn site with ⟨connectionId, save, found, fired⟩ | fired
  · rcases site.own.fire_cases connectionId save site.nextTurn site.volume with
      ⟨_, stepped⟩ | ⟨record, isRecord, ⟨accepts, stepped⟩ | ⟨failure, refused, stepped⟩⟩ <;>
      rw [fired, stepped]
    · exact ⟨none, .nothing (fun _ => rfl)⟩
    · exact ⟨_, .background found isRecord accepts rfl⟩
    · exact ⟨none, .nothing (Volume.sameConnections_of_refused refused)⟩
  · rw [fired, fireAmong_of_idle alone]
    exact ⟨none, .nothing (fun _ => rfl)⟩

/-- Every move stores one record of a connection at most, and it is known whose. -/
theorem Move.stores {site later : Site} {events : List Event}
    (move : Move provider site events later)
    (alone : site.Alone) :
    ∃ deposit, site.Stores later deposit := by
  cases move with
  | time beat =>
    cases beat with
    | fire turn => exact Site.stores_fire alone turn
    | refused failed => exact ⟨none, .nothing (Volume.sameConnections_of_refused failed)⟩
  | identify follows accepts => exact ⟨none, .nothing (Volume.sameConnections_of_identity _ _)⟩
  | establish opens idle accepts =>
    exact ⟨_, .critical (OrderedMap.find?_insert_self _ _ _) opens.phase accepts rfl⟩
  | turn found exchanges turned idle accepts =>
    obtain ⟨state, established, _⟩ := exchanges.established
    obtain rfl := Staged.eq_of_turnRecord turned state
    refine ⟨_, .critical (OrderedMap.find?_insert_self _ _ _) ?_ accepts rfl⟩
    exact congrArg Connection.phase (Connection.commit_of_established established _)
  | _ => exact ⟨none, .nothing (fun _ => rfl)⟩

theorem Moves.history {site later : Site} {events : List Event}
    (moves : Moves provider site events later) (alone : site.Alone) :
    ∃ deposits, History provider site deposits later := by
  induction moves with
  | refl => exact ⟨[], .refl _⟩
  | head move _ inductionHypothesis =>
    obtain ⟨deposit, stores⟩ := move.stores alone
    obtain ⟨deposits, rest⟩ := inductionHypothesis (move.alone alone)
    exact ⟨_, .head move stores rest⟩

/-! ### Serial numbers -/

/-- Live connections keep their serial numbers, and one that becomes live has the next. -/
structure Messenger.Renumbers (messenger later : Messenger) : Prop where
  next : messenger.nextSerial ≤ later.nextSerial
  live : ∃ newId, ∀ connectionId live, later.connections.find? connectionId = some live →
    (∃ earlier, messenger.connections.find? connectionId = some earlier ∧
      earlier.serial = live.serial) ∨
    connectionId = newId ∧ live.serial = messenger.nextSerial ∧
      messenger.nextSerial < later.nextSerial

namespace Messenger

variable {messenger later : Messenger}

theorem renumbers_of_kept (next : later.nextSerial = messenger.nextSerial)
    (kept : ∀ connectionId live, later.connections.find? connectionId = some live →
      ∃ earlier, messenger.connections.find? connectionId = some earlier ∧
        earlier.serial = live.serial) : messenger.Renumbers later where
  next := Nat.le_of_eq next.symm
  live := ⟨0, fun connectionId live found => .inl (kept connectionId live found)⟩

theorem renumbers_of_same (same : later.connections = messenger.connections)
    (next : later.nextSerial = messenger.nextSerial) : messenger.Renumbers later :=
  renumbers_of_kept next (fun _ live found => ⟨live, same ▸ found, rfl⟩)

theorem renumbers_install (messenger : Messenger) (newId : UInt32) (connection : Connection) :
    messenger.Renumbers (messenger.install newId connection) := by
  refine ⟨Nat.le_succ _, newId, fun connectionId live found => ?_⟩
  by_cases isNew : newId = connectionId
  · subst isNew
    rw [install, OrderedMap.find?_insert_self] at found
    cases found
    exact .inr ⟨rfl, rfl, Nat.lt_succ_self _⟩
  · rw [install, OrderedMap.find?_insert_other _ isNew] at found
    exact .inl ⟨live, found, rfl⟩

theorem renumbers_update {live : LiveConnection}
    (found : messenger.connections.find? connectionId = some live) (connection : Connection) :
    messenger.Renumbers
      (messenger.update connectionId { live with connection := connection }) := by
  refine renumbers_of_kept rfl (fun otherId other isOther => ?_)
  by_cases isIt : connectionId = otherId
  · subst isIt
    rw [update, OrderedMap.find?_insert_self] at isOther
    cases isOther
    exact ⟨live, found, rfl⟩
  · rw [update, OrderedMap.find?_insert_other _ isIt] at isOther
    exact ⟨other, isOther, rfl⟩

theorem renumbers_remove (messenger : Messenger) (connectionId : UInt32) :
    messenger.Renumbers (messenger.remove connectionId) :=
  renumbers_of_kept rfl (fun _ live found => ⟨live, OrderedMap.find?_of_find?_erase found, rfl⟩)

end Messenger

namespace Site

variable {site later : Site}

/-- Serial numbers stay with their connections and saves. A save gets hold of a record only by
exporting its connection. -/
structure Renumbers (site later : Site) : Prop where
  live : site.own.messenger.Renumbers later.own.messenger
  save : ∀ connectionId save, later.own.saves.find? connectionId = some save →
    (∃ earlier, site.own.saves.find? connectionId = some earlier ∧
      earlier.serial = save.serial ∧
      (save.stage = .waiting ∨ site.own.recordOf connectionId earlier ≠ none)) ∨
    save.stage = .waiting ∧
      ∃ live, site.own.messenger.connections.find? connectionId = some live ∧
        live.serial = save.serial

/-- A save that stays has got hold of no other record. -/
theorem kept_save {save : BackgroundSave}
    (found : site.own.saves.find? connectionId = some save) :
    ∃ earlier, site.own.saves.find? connectionId = some earlier ∧
      earlier.serial = save.serial ∧
      (save.stage = .waiting ∨ site.own.recordOf connectionId earlier ≠ none) := by
  refine ⟨save, found, rfl, ?_⟩
  cases stage : save.stage with
  | waiting => exact .inl rfl
  | retrying record =>
    right
    simp [Process.recordOf, Messenger.recordOf, stage]

theorem Renumbers.of_messenger (live : site.own.messenger.Renumbers later.own.messenger)
    (saves : ∀ connectionId save, later.own.saves.find? connectionId = some save →
      site.own.saves.find? connectionId = some save) : site.Renumbers later where
  live := live
  save connectionId save found := .inl (kept_save (saves connectionId save found))

theorem renumbers_fire (alone : site.Alone) (turn : Nat) :
    site.Renumbers (site.fire turn) := by
  rcases fire_cases turn site with ⟨connectionId, save, found, fired⟩ | fired
  · -- Whatever is left of the save: the others stay, and it is left with what it has exported.
    have settled : ∀ rest volume, (∀ left, rest = some left → left.serial = save.serial ∧
        site.own.recordOf connectionId save ≠ none) →
        site.Renumbers { site with own := site.own.settle connectionId rest, volume := volume } := by
      intro rest volume isRest
      refine ⟨Messenger.renumbers_of_same rfl rfl, fun otherId other isOther => .inl ?_⟩
      by_cases same : connectionId = otherId
      · subst same
        obtain ⟨sameSerial, exports⟩ :=
          isRest other ((Process.find?_saves_settle_self _ _ _).symm.trans isOther)
        exact ⟨save, found, sameSerial.symm, .inr exports⟩
      · exact kept_save ((Process.find?_saves_settle_other same _ _).symm.trans isOther)
    rcases site.own.fire_cases connectionId save site.nextTurn site.volume with
      ⟨_, stepped⟩ | ⟨record, isRecord, ⟨_, stepped⟩ | ⟨_, _, stepped⟩⟩ <;> rw [fired, stepped]
    · exact settled none _ nofun
    · exact settled none _ nofun
    · refine settled _ _ (fun left isLeft => ⟨?_, by simp [isRecord]⟩)
      unfold BackgroundSave.afterFailure at isLeft
      split at isLeft
      · cases isLeft
      · cases isLeft
        rfl
  · rw [fired, fireAmong_of_idle alone]
    exact .of_messenger (Messenger.renumbers_of_same rfl rfl) (fun _ _ => id)

end Site

theorem Move.renumbers {site later : Site} {events : List Event}
    (move : Move provider site events later)
    (alone : site.Alone) : site.Renumbers later := by
  have same : site.own.messenger.Renumbers site.own.messenger :=
    Messenger.renumbers_of_same rfl rfl
  cases move with
  | time beat =>
    cases beat with
    | fire turn => exact Site.renumbers_fire alone turn
    | refused failed => exact .of_messenger same (fun _ _ => id)
  | drop connectionId => exact .of_messenger same (fun _ _ => OrderedMap.find?_of_find?_erase)
  | prepare ephemeral =>
    exact .of_messenger (Messenger.renumbers_of_same rfl rfl) (fun _ _ => id)
  | identify follows accepts =>
    exact .of_messenger (Messenger.renumbers_of_same rfl rfl) (fun _ _ => id)
  | establish opens idle accepts =>
    exact .of_messenger (Messenger.renumbers_install _ _ _) (fun _ _ => id)
  | turn found exchanges turned idle accepts =>
    exact .of_messenger (Messenger.renumbers_update found _) (fun _ _ => id)
  | @advance connectionId live staged events save found exchanges unturned ofLive waits =>
    refine ⟨Messenger.renumbers_update found _, fun otherId other isOther => ?_⟩
    by_cases isIt : connectionId = otherId
    · subst isIt
      rw [OrderedMap.find?_insert_self] at isOther
      cases isOther
      exact .inr ⟨waits, live, found, ofLive.symm⟩
    · rw [OrderedMap.find?_insert_other _ isIt] at isOther
      exact .inl (Site.kept_save isOther)
  | force found forced =>
    exact .of_messenger (Messenger.renumbers_update found _) (fun _ _ => id)
  | restore stored isOwn reads =>
    exact .of_messenger (Messenger.renumbers_install _ _ _) (fun _ _ => id)
  | close found => exact .of_messenger (Messenger.renumbers_remove _ _) (fun _ _ => id)

namespace Site

variable {site later : Site}

/-- The serial number was given, and only to a connection under one number. -/
structure Belongs (site : Site) (serial : Nat) (connectionId : UInt32) : Prop where
  given : serial < site.own.messenger.nextSerial
  live : ∀ otherId live, site.own.messenger.connections.find? otherId = some live →
    live.serial = serial → otherId = connectionId
  save : ∀ otherId save, site.own.saves.find? otherId = some save →
    save.serial = serial → otherId = connectionId

theorem Belongs.renumbers (belongs : site.Belongs serial connectionId)
    (renumbers : site.Renumbers later) : later.Belongs serial connectionId where
  given := Nat.lt_of_lt_of_le belongs.given renumbers.live.next
  live otherId live found same := by
    obtain ⟨newId, lives⟩ := renumbers.live.live
    rcases lives otherId live found with ⟨earlier, wasLive, sameSerial⟩ | ⟨_, isNext, _⟩
    · exact belongs.live otherId earlier wasLive (sameSerial.trans same)
    · exact absurd belongs.given (by omega)
  save otherId save found same := by
    rcases renumbers.save otherId save found with
      ⟨earlier, wasSave, sameSerial, _⟩ | ⟨_, live, isLive, sameSerial⟩
    · exact belongs.save otherId earlier wasSave (sameSerial.trans same)
    · exact belongs.live otherId live isLive (sameSerial.trans same)

/-- Every serial number in use belongs to the connection that has it. -/
structure Numbered (site : Site) : Prop where
  live : ∀ connectionId live, site.own.messenger.connections.find? connectionId = some live →
    site.Belongs live.serial connectionId
  save : ∀ connectionId save, site.own.saves.find? connectionId = some save →
    save.serial < site.own.messenger.nextSerial

theorem Numbered.renumbers (numbered : site.Numbered) (renumbers : site.Renumbers later) :
    later.Numbered := by
  obtain ⟨newId, lives⟩ := renumbers.live.live
  constructor
  · intro connectionId live found
    rcases lives connectionId live found with ⟨earlier, wasLive, same⟩ | ⟨rfl, isNext, more⟩
    · rw [← same]
      exact (numbered.live connectionId earlier wasLive).renumbers renumbers
    · -- A number that was not given yet is in nobody else's use.
      refine ⟨by omega, fun otherId other isOther same => ?_, fun otherId save isSave same => ?_⟩
      · rcases lives otherId other isOther with ⟨earlier, wasLive, sameSerial⟩ | ⟨isNew, _⟩
        · have given := (numbered.live otherId earlier wasLive).given
          omega
        · exact isNew
      · rcases renumbers.save otherId save isSave with
          ⟨earlier, wasSave, sameSerial, _⟩ | ⟨_, other, wasLive, sameSerial⟩
        · have given := numbered.save otherId earlier wasSave
          omega
        · have given := (numbered.live otherId other wasLive).given
          omega
  · intro connectionId save found
    have more := renumbers.live.next
    rcases renumbers.save connectionId save found with
      ⟨earlier, wasSave, same, _⟩ | ⟨_, live, wasLive, same⟩
    · have given := numbered.save connectionId earlier wasSave
      omega
    · have given := (numbered.live connectionId live wasLive).given
      omega

/-- No connection with the serial number is live, and no save holds a record of it. -/
structure Silenced (site : Site) (serial : Nat) : Prop where
  given : serial < site.own.messenger.nextSerial
  live : ∀ connectionId live, site.own.messenger.connections.find? connectionId = some live →
    live.serial ≠ serial
  save : ∀ connectionId save, site.own.saves.find? connectionId = some save →
    save.serial = serial → save.stage = .waiting

/-- A save that waits for a connection that is gone has nothing to export. -/
theorem Silenced.recordOf_eq_none (silenced : site.Silenced serial) {save : BackgroundSave}
    (found : site.own.saves.find? connectionId = some save) (same : save.serial = serial) :
    site.own.recordOf connectionId save = none := by
  cases exports : site.own.recordOf connectionId save with
  | none => rfl
  | some record =>
    rcases Process.recordOf_eq_some exports with stage | ⟨_, live, _, isLive, ofLive, _⟩
    · cases (silenced.save connectionId save found same).symm.trans stage
    · exact absurd (ofLive.trans same) (silenced.live connectionId live isLive)

theorem Silenced.renumbers (silenced : site.Silenced serial) (renumbers : site.Renumbers later) :
    later.Silenced serial where
  given := Nat.lt_of_lt_of_le silenced.given renumbers.live.next
  live connectionId live found same := by
    obtain ⟨newId, lives⟩ := renumbers.live.live
    rcases lives connectionId live found with ⟨earlier, wasLive, sameSerial⟩ | ⟨_, isNext, _⟩
    · exact silenced.live connectionId earlier wasLive (sameSerial.trans same)
    · exact absurd silenced.given (by omega)
  save connectionId save found same := by
    rcases renumbers.save connectionId save found with
      ⟨earlier, wasSave, sameSerial, waits | exports⟩ | ⟨waits, _⟩
    · exact waits
    · exact absurd (silenced.recordOf_eq_none wasSave (sameSerial.trans same)) exports
    · exact waits

theorem Silenced.not_stores (silenced : site.Silenced serial)
    (later_silenced : later.Silenced serial)
    {deposit : Deposit} (stores : site.Stores later (some deposit)) :
    deposit.serial ≠ serial := by
  cases stores with
  | background found exports accepts written =>
    intro same
    rw [silenced.recordOf_eq_none found same] at exports
    cases exports
  | critical holds established accepts written => exact later_silenced.live _ _ holds

/-- A connection that is not live under its number any more is silenced, if no save of it holds a
record. -/
theorem Belongs.silenced (belongs : site.Belongs serial connectionId)
    (notLive : ∀ live, site.own.messenger.connections.find? connectionId = some live →
      live.serial ≠ serial)
    (notHeld : ∀ save, site.own.saves.find? connectionId = some save → save.serial = serial →
      save.stage = .waiting) : site.Silenced serial where
  given := belongs.given
  live otherId live found same := by
    obtain rfl := belongs.live otherId live found same
    exact notLive live found same
  save otherId save found same := by
    obtain rfl := belongs.save otherId save found same
    exact notHeld save found same

end Site

section Runs

variable {site later : Site} {events : List Event}

theorem Moves.belongs (moves : Moves provider site events later) (alone : site.Alone)
    (belongs : site.Belongs serial connectionId) : later.Belongs serial connectionId := by
  induction moves with
  | refl => exact belongs
  | head move _ inductionHypothesis =>
    exact inductionHypothesis (move.alone alone)
      (belongs.renumbers (move.renumbers alone))

theorem Moves.numbered (moves : Moves provider site events later) (alone : site.Alone)
    (numbered : site.Numbered) : later.Numbered := by
  induction moves with
  | refl => exact numbered
  | head move _ inductionHypothesis =>
    exact inductionHypothesis (move.alone alone)
      (numbered.renumbers (move.renumbers alone))

theorem Site.Lapses.silenced (lapses : site.Lapses later) (alone : site.Alone)
    (silenced : site.Silenced serial) : later.Silenced serial := by
  induction lapses with
  | refl => exact silenced
  | @tail middle later earlier beat inductionHypothesis =>
    have still := (Moves.of_lapses earlier : Moves Provider.transparent _ _ _).alone alone
    exact inductionHypothesis.renumbers
      ((Move.time beat : Move Provider.transparent _ _ _).renumbers still)

/-- Nothing that happens stores a record of a silenced connection. -/
theorem History.of_silenced {deposits : List Deposit}
    (history : History provider site deposits later) (alone : site.Alone)
    (silenced : site.Silenced serial) : ∀ deposit ∈ deposits, deposit.serial ≠ serial := by
  induction history with
  | refl => exact fun _ member => nomatch member
  | head move stores _ inductionHypothesis =>
    have still := silenced.renumbers (move.renumbers alone)
    intro deposit member
    rcases List.mem_append.1 member with isNow | isLater
    · rw [Option.mem_toList] at isNow
      cases isNow
      exact silenced.not_stores still stores
    · exact inductionHypothesis (move.alone alone) still deposit isLater

end Runs

end RatchetMessaging
