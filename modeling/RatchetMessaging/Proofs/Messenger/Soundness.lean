import RatchetMessaging.Proofs.Messenger.Upholding

/-!
Contract: every live connection of a process can be stored and read back.

Owns:
- `Site.Sound`, a site whose process has a volume that takes every write and gives every record
  back, and whose live connections are portable; the provider that reads them back may be another
  one than that of the process;
- every command keeps it, whatever the caller's signal, and so does every run.

Does not own: whether a connection is stored.
-/

namespace RatchetMessaging

variable {σ τ : Type} {provider : Provider σ} {working : Provider τ} {primitives : Primitives}
  {limits : RatchetLimits} {connectionId : UInt32} {connection : Connection}

/-- The process at work is alone at a volume that takes every write and gives every record back.
Its background saves have not been refused, and each of its live connections is read back from its
export. -/
structure Site.Sound (provider : Provider τ) (limits : RatchetLimits) (site : Site) : Prop where
  working : site.Working
  loads : site.volume.loadFault = none
  settings : site.own.messenger.config.ratchetLimits = limits
  waiting : ∀ connectionId save, site.own.saves.find? connectionId = some save →
    save.stage = .waiting
  portable : ∀ connectionId live, site.own.messenger.connections.find? connectionId = some live →
    live.connection.Portable provider limits connectionId

namespace Site.Sound

variable {site later : Site}

/-! ### Writes and time -/

theorem write (sound : site.Sound working limits) (slot : StoreSlot)
    (record : Record.SessionRecord) :
    Site.Sound working limits { site with volume := (site.volume.write slot record).2 } :=
  { sound with
    working := ⟨sound.working.alone, by
      rw [Volume.writeFault_write]
      exact sound.working.accepts⟩
    loads := (Volume.loadFault_write site.volume slot record).trans sound.loads }

theorem drop (sound : site.Sound working limits) (slot : StoreSlot) :
    Site.Sound working limits { site with own := site.own.dropping slot } := by
  cases slot with
  | identity => exact sound
  | connection connectionId =>
    exact { sound with
      working := sound.working.of_own _
      waiting := fun otherId save pending =>
        sound.waiting otherId save (OrderedMap.find?_of_find?_erase pending) }

theorem fire (sound : site.Sound working limits) (turn : Nat) :
    (site.fire turn).Sound working limits := by
  rcases site.fire_cases turn with ⟨connectionId, save, _, fired⟩ | fired
  · rw [fired]
    rcases site.own.fire_cases connectionId save site.nextTurn site.volume with
      ⟨_, stepped⟩ | ⟨record, _, ⟨_, stepped⟩ | ⟨_, refused, _⟩⟩
    · rw [stepped]
      exact sound.drop (.connection connectionId)
    · rw [stepped]
      exact (sound.write _ record).drop (.connection connectionId)
    · exact absurd refused sound.working.not_refused
  · rw [fired, fireAmong_of_idle sound.working.alone]
    exact sound

theorem lapses (sound : site.Sound working limits) (lapses : site.Lapses later) :
    later.Sound working limits := by
  induction lapses with
  | refl => exact sound
  | tail _ beat inductionHypothesis =>
    cases beat with
    | fire turn => exact inductionHypothesis.fire turn
    | refused failed => exact absurd failed inductionHypothesis.working.not_refused

/-! ### Changes to the process -/

/-- The live connections change to portable ones. The limits stay. -/
theorem change (sound : site.Sound working limits) {party : Messenger}
    (config : party.config = site.own.messenger.config)
    (portable : ∀ connectionId live, party.connections.find? connectionId = some live →
      live.connection.Portable working limits connectionId) :
    Site.Sound working limits { site with own.messenger := party } :=
  { sound with
    working := sound.working.of_own _
    settings := (congrArg Config.ratchetLimits config).trans sound.settings
    portable := portable }

theorem install (sound : site.Sound working limits)
    (portable : connection.Portable working limits connectionId) :
    Site.Sound working limits
      { site with own.messenger := site.own.messenger.install connectionId connection } :=
  sound.change rfl (OrderedMap.of_find?_insert portable sound.portable)

theorem update (sound : site.Sound working limits) {live : LiveConnection}
    (portable : live.connection.Portable working limits connectionId) :
    Site.Sound working limits
      { site with own.messenger := site.own.messenger.update connectionId live } :=
  sound.change rfl (OrderedMap.of_find?_insert portable sound.portable)

theorem remove (sound : site.Sound working limits) (connectionId : UInt32) :
    Site.Sound working limits
      { site with own.messenger := site.own.messenger.remove connectionId } :=
  sound.change rfl fun otherId live isLive =>
    sound.portable otherId live (OrderedMap.find?_of_find?_erase isLive)

/-- A background save is scheduled. -/
theorem schedule (sound : site.Sound working limits) {save : BackgroundSave}
    (waits : save.stage = .waiting) :
    Site.Sound working limits
      { site with own.saves := site.own.saves.insert connectionId save } :=
  { sound with
    working := sound.working.of_own _
    waiting := OrderedMap.of_find?_insert waits sound.waiting }

end Site.Sound

/-! ### Steps -/

namespace Node

variable {node : Node σ}

theorem keeps_sound_saveCritical (slot : StoreSlot) (record : Record.SessionRecord)
    (signal : CancelSignal σ) :
    Keeps (Site.Sound working limits) (saveCritical slot record signal) (fun _ => True) := by
  refine keeps_of_cases (fun before _ _ sound saved => ?_) (fun before _ _ sound unsaved => ?_)
  · obtain ⟨ready, lapses, _, rfl⟩ := saveCritical_eq_ok saved
    exact ⟨((sound.drop slot).lapses lapses).write slot record, trivial⟩
  · exact (sound.drop slot).lapses (saveCritical_eq_error unsaved)

theorem keeps_sound_storeAndInstall (signal : CancelSignal σ)
    (portable : connection.Portable working limits connectionId) :
    Keeps (Site.Sound working limits) (storeAndInstall connectionId connection signal)
      (fun _ => True) :=
  (keeps_checking fun _ _ => trivial).bind fun record _ =>
    (keeps_sound_saveCritical _ (.ofConnection record) signal).bind fun _ _ =>
      fun _ sound => ⟨sound.install portable, trivial⟩

theorem settle_sound {live : LiveConnection} {staged : Staged} (signal : CancelSignal σ)
    (sound : node.toSite.Sound working limits)
    (portable : (live.connection.commit staged).Portable working limits connectionId) :
    (leftBy (settle connectionId live staged signal) node).toSite.Sound working limits := by
  unfold settle
  cases staged.turnRecord connectionId with
  | none => exact (sound.update portable).schedule rfl
  | some record =>
    have keeps := (keeps_check signal).bind fun _ _ =>
      (keeps_sound_saveCritical (.connection connectionId) (.ofConnection record) signal).bind
        fun _ _ => show Keeps _ (commitTo connectionId live staged) (fun _ => True) from
          fun _ sound => ⟨sound.update portable, trivial⟩
    exact keeps.leftBy sound

theorem keeps_sound_restoreSession (repeats : working.Repeats provider) (connectionId : UInt32) :
    Keeps (Site.Sound working limits) (restoreSession provider connectionId)
      (fun _ => True) := by
  refine keeps_of_cases (fun before _ _ sound restored => ?_) (fun before _ _ sound failed => ?_)
  · obtain ⟨_, _, connection, _, _, isRecord, reads, rfl⟩ := restoreSession_eq_ok restored
    rw [sound.settings] at reads
    exact ⟨sound.install (portable_of_connectionIn repeats isRecord reads), trivial⟩
  · rw [restoreSession_eq_error failed]
    exact sound

theorem sound_upheld (repeats : working.Repeats provider) (signal : CancelSignal σ) :
    Upheld provider working limits signal (Site.Sound working limits) where
  settings _ sound := sound.settings
  portable _ sound := sound.portable
  identify _ sound _ := sound.change rfl sound.portable
  saveIdentityRecord record := keeps_sound_saveCritical .identity record signal
  storeAndInstall _ _ := keeps_sound_storeAndInstall signal
  settle sound _ := settle_sound signal sound
  restore := keeps_sound_restoreSession repeats
  close connectionId := keeps_closeSession_of_drop connectionId
    (fun sound => (sound.remove connectionId).drop (.connection connectionId)) Site.Sound.lapses
  flush := keeps_flush_of_lapses Site.Sound.working Site.Sound.lapses
  wait := keeps_wait_of_lapses Site.Sound.lapses .never

theorem keeps_sound_forceRatchet (connectionId : UInt32) :
    Keeps (Site.Sound working limits) (forceRatchet connectionId : Operation σ Unit)
      (fun _ => True) := by
  refine keeps_of_cases (fun before _ _ sound forced => ?_) (fun before _ _ sound failed => ?_)
  · obtain ⟨live, connection, found, forces, rfl⟩ := forceRatchet_eq_ok forced
    exact ⟨sound.update ((sound.portable connectionId live found).forceRatchet forces), trivial⟩
  · rw [forceRatchet_eq_error failed]
    exact sound

end Node

/-! ### Runs -/

theorem Command.gives_or_forces (command : Command σ) :
    (∃ signal, command.Gives signal) ∨ ∃ connectionId, command = .forceRatchet connectionId := by
  cases command with
  | forceRatchet connectionId => exact .inr ⟨connectionId, rfl⟩
  | saveIdentity signal | initiate _ _ signal | accept _ _ signal | encrypt _ _ _ signal
  | decrypt _ _ _ signal | rotate _ signal => exact .inl ⟨signal, rfl⟩
  | restore | close | flush | wait => exact .inl ⟨.never, trivial⟩

/-- Every command keeps a site sound, whether it succeeds or fails. -/
theorem Command.sound (imitates : provider.Imitates working primitives)
    (agreeing : working.Agreeing primitives) (command : Command σ) {node : Node σ}
    (made : Identity.Made provider node.own.messenger.identity)
    (sound : node.toSite.Sound working limits) :
    (command.aftermath provider node).toSite.Sound working limits := by
  obtain ⟨signal, gives⟩ | ⟨connectionId, rfl⟩ := command.gives_or_forces
  · have upheld : Node.Upheld provider working limits signal (Site.Sound working limits) :=
      Node.sound_upheld (imitates.repeats agreeing) signal
    exact upheld.aftermath imitates agreeing gives made sound
  · rw [Command.aftermath_eq_leftBy rfl]
    have soundThen : Site.Sound working limits { node with gaveWay := false }.toSite := sound
    exact (Node.keeps_sound_forceRatchet connectionId).leftBy soundThen

theorem run_sound (imitates : provider.Imitates working primitives)
    (agreeing : working.Agreeing primitives) (commands : List (Command σ)) {node : Node σ}
    (made : Identity.Made provider node.own.messenger.identity)
    (sound : node.toSite.Sound working limits) :
    (run provider commands node).toSite.Sound working limits := by
  induction commands generalizing node with
  | nil => exact sound
  | cons command rest inductionHypothesis =>
    exact inductionHypothesis (made.steps (command.steps provider node))
      (command.sound imitates agreeing made sound)

end RatchetMessaging
