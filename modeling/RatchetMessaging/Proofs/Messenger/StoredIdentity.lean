import RatchetMessaging.Proofs.Messenger.Effect
import RatchetMessaging.Proofs.Messenger.Sample

/-!
Contract: the stored identity, and one-time pre-keys that serve once.

Owns:
- `Occurrence`, a command or a restart, and runs of them, in which a process may end and another
  one start from the volume at any point;
- what a move does to the identity: it stores one that takes effect, or it leaves what is stored
  and all that is recorded of the identity;
- along every run the identity that has been stored is the one in effect; a one-time pre-key that a
  handshake has used up is in neither, and serves no other handshake.

Does not own: connections.
-/

namespace RatchetMessaging

variable {σ : Type} {provider : Provider σ} {id : UInt32}

/-! ### Restarts -/

/-- What can happen to a party. -/
inductive Occurrence (σ : Type) where
  | command (asked : Command σ)
  /-- A new process starts from the volume. The old one is given up, and may still finish its
  background saves. -/
  | restart (config : Config) (finishes : Bool)

namespace Occurrence

/-- The node that an occurrence leaves. A restart that fails starts nothing. -/
def aftermath (provider : Provider σ) : Occurrence σ → Node σ → Node σ
  | command asked, node => asked.aftermath provider node
  | restart config finishes, node =>
    match Messenger.restart provider config node.volume node.crypto with
    | .ok messenger crypto =>
      { node with
        own := { messenger := messenger, timer := node.own.timer }
        others := if finishes then node.own :: node.others else node.others
        crypto := crypto }
    | .error _ crypto => { node with crypto := crypto }

/-- What an occurrence shows. -/
def events (provider : Provider σ) : Occurrence σ → Node σ → List Event
  | command asked, node => asked.events provider node
  | restart _ _, _ => []

/-- The node after some occurrences. -/
def run (provider : Provider σ) : List (Occurrence σ) → Node σ → Node σ
  | [], node => node
  | occurrence :: rest, node => run provider rest (occurrence.aftermath provider node)

/-- What some occurrences show. -/
def trace (provider : Provider σ) : List (Occurrence σ) → Node σ → List Event
  | [], _ => []
  | occurrence :: rest, node =>
    occurrence.events provider node ++ trace provider rest (occurrence.aftermath provider node)

end Occurrence

namespace Event

/-- Whether an identity was stored. -/
def storesIdentity : Event → Bool
  | identityStored _ _ => true
  | _ => false

/-- Whether a one-time pre-key is spent: a handshake that has used it up has stored the identity,
and no replenishment has drawn its number since. -/
def spends (id : UInt32) (spent : Bool) : Event → Bool
  | identityStored consumed drawn => (spent || consumed == some id) && !drawn.contains id
  | _ => spent

/-- Whether a one-time pre-key is spent after some events. -/
def isSpent (id : UInt32) (events : List Event) : Bool := events.foldl (spends id) false

end Event

/-! ### Moves -/

/-- No identity was stored. -/
def Quiet (events : List Event) : Prop := ∀ event ∈ events, event.storesIdentity = false

theorem RatchetState.quiet_announced (state : RatchetState) : Quiet state.announced := by
  intro event member
  unfold announced at member
  split at member
  · cases List.mem_singleton.1 member
    rfl
  · cases member

theorem Site.quiet_abandoning (site : Site) (connectionId : UInt32) :
    Quiet (site.abandoning connectionId) := by
  intro event member
  unfold abandoning at member
  split at member
  · cases member
  · split at member
    · cases member
    · cases List.mem_singleton.1 member
      rfl

theorem Connection.Exchanges.quiet {connection : Connection} {staged : Staged}
    {events : List Event} (exchanges : connection.Exchanges provider staged events) :
    Quiet events := by
  cases exchanges with
  | sends encrypts =>
    intro event member
    rcases List.mem_append.1 member with generated | sent
    · split at generated
      · cases List.mem_singleton.1 generated
        rfl
      · cases generated
    · cases List.mem_singleton.1 sent
      rfl
  | receives decrypts => exact nofun

theorem Quiet.foldl_spends {events : List Event} (quiet : Quiet events) (spent : Bool) :
    events.foldl (Event.spends id) spent = spent := by
  induction events with
  | nil => rfl
  | cons event rest inductionHypothesis =>
    have same : event.spends id spent = spent := by
      have notStored := quiet event List.mem_cons_self
      cases event <;> first | rfl | cases notStored
    rw [List.foldl_cons, same,
      inductionHypothesis (fun other member => quiet other (List.mem_cons_of_mem _ member))]

namespace Site

variable {site later : Site} {events : List Event}

/-- An identity is stored and takes effect. -/
structure Identifies (site later : Site) (consumed : Option UInt32) (drawn : List UInt32) : Prop
    where
  follows : later.own.messenger.identity.Follows site.own.messenger.identity consumed drawn
  stored : later.volume.find? .identity =
    some (.ofIdentity later.own.messenger.identity.toRecord)

/-- What is stored of the identity stays, and all that is recorded of the one in effect. -/
structure KeepsIdentity (site later : Site) : Prop where
  effective : ∃ ephemeral,
    later.own.messenger.identity = { site.own.messenger.identity with ephemeral := ephemeral }
  stored : later.volume.find? .identity = site.volume.find? .identity

theorem KeepsIdentity.of_same (messenger : later.own.messenger = site.own.messenger)
    (stored : later.volume.find? .identity = site.volume.find? .identity) :
    site.KeepsIdentity later :=
  ⟨⟨site.own.messenger.identity.ephemeral, by rw [messenger]⟩, stored⟩

theorem Beat.keepsIdentity (beat : site.Beat later) : site.KeepsIdentity later :=
  .of_same (List.cons.inj beat.passes.messengers).1
    (beat.passes.record .identity (fun process _ => process.not_saving_identity))

theorem keepsIdentity_writing (site : Site) (connectionId : UInt32)
    (record : Record.SessionRecord) (change : Messenger → Messenger)
    (same : (change site.own.messenger).identity = site.own.messenger.identity) :
    site.KeepsIdentity ((site.writing (.connection connectionId) record).changing change) :=
  ⟨⟨site.own.messenger.identity.ephemeral, same⟩, Volume.find?_write_other nofun⟩

end Site

/-- A move stores an identity that takes effect, or it keeps the one that is there. -/
theorem Move.identity_cases {site later : Site} {events : List Event}
    (move : Move provider site events later) :
    (∃ consumed drawn, events = [.identityStored consumed drawn] ∧
      site.Identifies later consumed drawn) ∨ Quiet events ∧ site.KeepsIdentity later := by
  cases move with
  | time beat => exact .inr ⟨nofun, beat.keepsIdentity⟩
  | drop connectionId => exact .inr ⟨nofun, .of_same rfl rfl⟩
  | prepare ephemeral => exact .inr ⟨nofun, ⟨ephemeral, rfl⟩, rfl⟩
  | identify follows accepts =>
    exact .inl ⟨_, _, rfl, follows, Volume.find?_write_self accepts⟩
  | establish opens idle accepts =>
    exact .inr ⟨RatchetState.quiet_announced _, site.keepsIdentity_writing _ _ _ rfl⟩
  | turn found exchanges turned idle accepts =>
    exact .inr ⟨exchanges.quiet, site.keepsIdentity_writing _ _ _ rfl⟩
  | advance found exchanges unturned ofLive waits =>
    exact .inr ⟨exchanges.quiet, ⟨site.own.messenger.identity.ephemeral, rfl⟩, rfl⟩
  | force found forced =>
    exact .inr ⟨nofun, ⟨site.own.messenger.identity.ephemeral, rfl⟩, rfl⟩
  | restore stored isOwn reads =>
    exact .inr ⟨site.quiet_abandoning _, ⟨site.own.messenger.identity.ephemeral, rfl⟩, rfl⟩
  | close found =>
    exact .inr ⟨site.quiet_abandoning _, ⟨site.own.messenger.identity.ephemeral, rfl⟩, rfl⟩

theorem Move.config {site later : Site} {events : List Event}
    (move : Move provider site events later) :
    later.own.messenger.config = site.own.messenger.config := by
  cases move with
  | time beat => exact congrArg Messenger.config (List.cons.inj beat.passes.messengers).1
  | _ => rfl

/-! ### The invariant -/

/-- The identity in effect is live, and stored. -/
structure Site.IdentityStored (site : Site) : Prop where
  live : site.own.messenger.identity.disposed = false
  stored : site.volume.find? .identity =
    some (.ofIdentity site.own.messenger.identity.toRecord)

/-- What a site has come to by some events: once an identity was stored, the one in effect is, and
it lacks every one-time pre-key that is spent. -/
structure Site.Accounts (site : Site) (initial : Option Record.SessionRecord)
    (events : List Event) : Prop where
  valid : site.own.messenger.config.validate = .ok ()
  initially : Quiet events → site.volume.find? .identity = initial
  stored : ¬ Quiet events → site.IdentityStored
  spent : ∀ id, Event.isSpent id events = true →
    site.own.messenger.identity.hasOneTimePreKey id = false

theorem quiet_append {events others : List Event} :
    Quiet (events ++ others) ↔ Quiet events ∧ Quiet others := by
  simp only [Quiet, List.forall_mem_append]

theorem not_quiet_identityStored {consumed : Option UInt32} {drawn : List UInt32} :
    ¬ Quiet [.identityStored consumed drawn] :=
  fun quiet => Bool.noConfusion (quiet _ List.mem_cons_self)

/-- Only a stored identity can have a spent key. -/
theorem not_quiet_of_isSpent {events : List Event} (spent : Event.isSpent id events = true) :
    ¬ Quiet events := by
  intro quiet
  rw [Event.isSpent, quiet.foldl_spends] at spent
  cases spent

namespace Site

variable {site later : Site} {initial : Option Record.SessionRecord} {events new : List Event}

theorem Accounts.keep (accounts : site.Accounts initial events)
    (config : later.own.messenger.config = site.own.messenger.config)
    (quiet : Quiet new) (keeps : site.KeepsIdentity later) :
    later.Accounts initial (events ++ new) := by
  obtain ⟨ephemeral, effective⟩ := keeps.effective
  refine ⟨config ▸ accounts.valid, fun allQuiet => ?_, fun notQuiet => ?_, fun id spent => ?_⟩
  · exact keeps.stored.trans (accounts.initially (quiet_append.1 allQuiet).1)
  · have before := accounts.stored (fun quietBefore =>
      notQuiet (quiet_append.2 ⟨quietBefore, quiet⟩))
    refine ⟨by rw [effective]; exact before.live, ?_⟩
    rw [keeps.stored, before.stored, effective]
    rfl
  · rw [Event.isSpent, List.foldl_append, quiet.foldl_spends] at spent
    rw [effective]
    exact accounts.spent id spent

theorem Accounts.identify (accounts : site.Accounts initial events)
    (config : later.own.messenger.config = site.own.messenger.config) {consumed : Option UInt32}
    {drawn : List UInt32} (identifies : site.Identifies later consumed drawn) :
    later.Accounts initial (events ++ [.identityStored consumed drawn]) := by
  refine ⟨config ▸ accounts.valid, fun quiet => ?_, fun _ => ?_, fun id spent => ?_⟩
  · exact absurd (quiet_append.1 quiet).2 not_quiet_identityStored
  · exact ⟨identifies.follows.live, identifies.stored⟩
  · rw [Event.isSpent, List.foldl_append] at spent
    simp only [List.foldl_cons, List.foldl_nil, Event.spends, Bool.and_eq_true, Bool.or_eq_true,
      beq_iff_eq, Bool.not_eq_true', List.contains_eq_mem, decide_eq_false_iff_not] at spent
    obtain ⟨gone, undrawn⟩ := spent
    cases held : later.own.messenger.identity.hasOneTimePreKey id with
    | false => rfl
    | true =>
      rcases identifies.follows.preKeys id held with ⟨before, unconsumed⟩ | isDrawn
      · rcases gone with spentBefore | consumes
        · rw [accounts.spent id spentBefore] at before
          cases before
        · exact absurd consumes unconsumed
      · exact absurd isDrawn undrawn

end Site

theorem Moves.accounts {site later : Site} {initial : Option Record.SessionRecord}
    {events new : List Event} (moves : Moves provider site new later)
    (accounts : site.Accounts initial events) : later.Accounts initial (events ++ new) := by
  induction moves generalizing events with
  | refl => simpa using accounts
  | head move _ inductionHypothesis =>
    rw [← List.append_assoc]
    apply inductionHypothesis
    rcases move.identity_cases with ⟨consumed, drawn, rfl, identifies⟩ | ⟨quiet, keeps⟩
    · exact accounts.identify move.config identifies
    · exact accounts.keep move.config quiet keeps

/-! ### Runs -/

/-- A restart that succeeds reads the stored identity back. -/
theorem Messenger.restart_eq_ok {config : Config} {volume : Volume} {messenger : Messenger}
    {before after : σ}
    (restarted : restart provider config volume before = .ok messenger after) :
    config.validate = .ok () ∧ ∃ record keys identity between,
      volume.find? .identity = some record ∧ record.identityKeys = some keys ∧
        Identity.ofRecord provider keys before = .ok identity between ∧
        messenger = { config := config, identity := identity } := by
  simp only [restart, Crypto.bind_eq_ok, Crypto.ofExcept_eq_ok] at restarted
  obtain ⟨record, _, ⟨loaded, rfl⟩, restarted⟩ := restarted
  cases isIdentity : record.identityKeys with
  | none => simp [isIdentity] at restarted
  | some keys =>
    simp only [isIdentity, Crypto.bind_eq_ok, start, Crypto.ofExcept_eq_ok,
      Crypto.pure_eq_ok] at restarted
    obtain ⟨identity, _, reads, _, _, ⟨valid, rfl⟩, _, _, _, rfl, _⟩ := restarted
    exact ⟨valid, record, keys, identity, _, Volume.load_eq_ok loaded, isIdentity, reads, rfl⟩

namespace Occurrence

theorem accounts {initial : Option Record.SessionRecord} {events : List Event} {node : Node σ}
    (provider : Provider σ) (occurrence : Occurrence σ)
    (accounts : node.toSite.Accounts initial events) :
    (occurrence.aftermath provider node).toSite.Accounts initial
      (events ++ occurrence.events provider node) := by
  cases occurrence with
  | command asked => exact (asked.moves provider node).accounts accounts
  | restart config finishes =>
    rw [Occurrence.events, List.append_nil]
    cases restarted : Messenger.restart provider config node.volume node.crypto with
    | error failure crypto =>
      simp only [aftermath, restarted]
      exact accounts
    | ok messenger crypto =>
      obtain ⟨valid, record, keys, identity, _, isRecord, isIdentity, reads, rfl⟩ :=
        Messenger.restart_eq_ok restarted
      -- What was stored is read back, but for the pending ephemeral key.
      have sameIdentity : ¬ Quiet events →
          identity = { node.own.messenger.identity with ephemeral := none, disposed := false } := by
        intro notQuiet
        rw [(accounts.stored notQuiet).stored] at isRecord
        cases isRecord
        cases isIdentity
        exact Identity.ofRecord_toRecord_eq_ok reads
      simp only [aftermath, restarted]
      refine ⟨valid, accounts.initially, fun notQuiet => ?_, fun id spent => ?_⟩
      · have before := accounts.stored notQuiet
        have same := sameIdentity notQuiet
        subst same
        exact ⟨rfl, before.stored⟩
      · have same := sameIdentity (not_quiet_of_isSpent spent)
        subst same
        exact accounts.spent id spent

theorem run_accounts {initial : Option Record.SessionRecord} {events : List Event} {node : Node σ}
    (provider : Provider σ) (occurrences : List (Occurrence σ))
    (before : node.toSite.Accounts initial events) :
    (run provider occurrences node).toSite.Accounts initial
      (events ++ trace provider occurrences node) := by
  induction occurrences generalizing node events with
  | nil =>
    rw [trace, List.append_nil]
    exact before
  | cons occurrence rest inductionHypothesis =>
    rw [trace, ← List.append_assoc]
    exact inductionHypothesis (occurrence.accounts provider before)

end Occurrence

/-! ### Handshakes -/

theorem Config.protocolInfo_of_validate {config : Config} (valid : config.validate = .ok ()) :
    config.protocolInfo.isEmpty = false := by
  cases isEmpty : config.protocolInfo.isEmpty with
  | false => rfl
  | true =>
    simp only [validate, isEmpty, if_true] at valid
    cases valid

/-- The responder derives nothing for a one-time pre-key that is not there. -/
theorem Identity.respondSecret_of_missing (provider : Provider σ) {identity : Identity}
    {hello : Hello} {info : Bytes} (named : hello.oneTimePreKeyId = some id)
    (live : identity.disposed = false) (hasInfo : info.isEmpty = false)
    (missing : identity.hasOneTimePreKey id = false) (before : σ) :
    ∃ detail, identity.respondSecret provider hello info before =
      .error (.handshake detail) before := by
  have isLive : identity.ensureLive = .ok () := by simp [ensureLive, live]
  have passes : Handshake.checkInfo info = .ok () := by simp [Handshake.checkInfo, hasInfo]
  have unknown : identity.namedOneTimePreKey hello =
      .error (.handshake s!"unknown one-time pre-key {id}") := by
    simp only [namedOneTimePreKey, named, OrderedMap.contains_eq_false_iff.1 missing]
  simp only [respondSecret, isLive, passes, unknown]
  by_cases isCurrent : hello.signedPreKeyId = identity.signedPreKey.id
  · simp only [isCurrent, ne_eq, not_true_eq_false, if_false]
    exact ⟨_, rfl⟩
  · simp only [isCurrent, ne_eq, not_false_eq_true, if_true]
    exact ⟨_, rfl⟩

/-- A handshake that names a one-time pre-key that is not there fails. -/
theorem Node.acceptSession_of_missing (provider : Provider σ) (connectionId : UInt32)
    {hello : Hello} {signal : CancelSignal σ} {node : Node σ}
    (named : hello.oneTimePreKeyId = some id)
    (valid : node.own.messenger.config.validate = .ok ())
    (live : node.own.messenger.identity.disposed = false)
    (missing : node.own.messenger.identity.hasOneTimePreKey id = false)
    (unfired : signal.isFired node = false) :
    ∃ detail, acceptSession provider connectionId hello signal node =
      .error (.handshake detail) node := by
  have passes : signal.check node = .ok () node := by simp [CancelSignal.check, unfired]
  obtain ⟨detail, underivable⟩ := Identity.respondSecret_of_missing provider named live
    (Config.protocolInfo_of_validate valid) missing node.crypto
  have unopened : openAsResponder provider connectionId hello node =
      .error (.handshake detail) node := by
    unfold openAsResponder
    rw [Crypto.bind_of_ok (messenger_eq_ok.2 ⟨rfl, rfl⟩),
      Crypto.bind_of_ok (messenger_eq_ok.2 ⟨rfl, rfl⟩)]
    exact Crypto.bind_of_error (calling_eq_error.2 ⟨_, underivable, rfl⟩) _
  refine ⟨detail, ?_⟩
  unfold acceptSession
  rw [Crypto.bind_of_ok passes]
  exact Crypto.bind_of_error unopened _

/-! ### The stored identity -/

theorem Identity.exportRecord_of_live {identity : Identity} (live : identity.disposed = false) :
    identity.exportRecord = .ok identity.toRecord :=
  exportRecord_eq_ok.2 ⟨live, rfl⟩

theorem Identity.not_mem_toRecord {identity : Identity}
    (missing : identity.hasOneTimePreKey id = false) :
    id ∉ identity.toRecord.oneTimePreKeys.map Record.OneTimePreKeyRecord.id := by
  intro member
  simp only [toRecord, List.map_map, List.mem_map, Function.comp_apply] at member
  obtain ⟨⟨_, keyPair⟩, isEntry, rfl⟩ := member
  have found := OrderedMap.find?_eq_some_iff.2 isEntry
  rw [OrderedMap.contains_eq_false_iff.1 missing] at found
  cases found

/-- **Identities are stored ahead, and a one-time pre-key serves once.** This holds after every run,
for every provider, volume and signal, with restarts anywhere in it. What a process leaves that ends
in the middle of an operation is what a command leaves that withdraws there and is followed by a
restart. Once an identity has been stored, the stored one is that of the identity in effect; before
that nothing is stored over what was there. A one-time pre-key that a handshake has used up is in
neither from the moment at which its identity is stored, and every handshake that names it is
refused without effect, until a replenishment draws its number. -/
theorem identity_is_stored_ahead (provider : Provider σ) (start : Node σ)
    (valid : start.own.messenger.config.validate = .ok ()) (occurrences : List (Occurrence σ)) :
    ((∃ event ∈ Occurrence.trace provider occurrences start, event.storesIdentity = true) →
      ∃ exported,
        (Occurrence.run provider occurrences start).own.messenger.identity.exportRecord =
          .ok exported ∧
        (Occurrence.run provider occurrences start).volume.find? .identity =
          some (.ofIdentity exported)) ∧
      ((∀ event ∈ Occurrence.trace provider occurrences start, event.storesIdentity = false) →
        (Occurrence.run provider occurrences start).volume.find? .identity =
          start.volume.find? .identity) ∧
      ∀ id, Event.isSpent id (Occurrence.trace provider occurrences start) = true →
        (Occurrence.run provider occurrences start).own.messenger.identity.hasOneTimePreKey id =
          false ∧
        (∃ stored,
          (Occurrence.run provider occurrences start).volume.find? .identity =
            some (.ofIdentity stored) ∧
          id ∉ stored.oneTimePreKeys.map Record.OneTimePreKeyRecord.id) ∧
        ∀ final, final = { Occurrence.run provider occurrences start with gaveWay := false } →
          ∀ connectionId hello signal, hello.oneTimePreKeyId = some id →
            signal.isFired final = false →
              ∃ detail, Node.acceptSession provider connectionId hello signal final =
                .error (.handshake detail) final := by
  have initially : start.toSite.Accounts (start.volume.find? .identity) [] :=
    ⟨valid, fun _ => rfl, fun notQuiet => absurd nofun notQuiet, nofun⟩
  have accounts := Occurrence.run_accounts provider occurrences initially
  rw [List.nil_append] at accounts
  refine ⟨fun ⟨event, member, stores⟩ => ?_, accounts.initially, fun id spent => ?_⟩
  · have notQuiet : ¬ Quiet (Occurrence.trace provider occurrences start) :=
      fun quiet => Bool.noConfusion ((quiet event member).symm.trans stores)
    have identityStored := accounts.stored notQuiet
    exact ⟨_, Identity.exportRecord_of_live identityStored.live, identityStored.stored⟩
  · have identityStored := accounts.stored (not_quiet_of_isSpent spent)
    have missing := accounts.spent id spent
    refine ⟨missing, ⟨_, identityStored.stored, Identity.not_mem_toRecord missing⟩, ?_⟩
    rintro _ rfl connectionId hello signal named unfired
    exact Node.acceptSession_of_missing provider connectionId named accounts.valid
      identityStored.live missing unfired

/-- A process accepts a hello, and ends when only the identity has been stored. The one that starts
from the volume refuses the hello. -/
theorem identity_is_stored_ahead_sample :
    ∃ final detail,
      final = { Occurrence.run .transparent
        [.command (.accept 1 .sample { trigger := fun _ volume => volume.writes.identity == 1 }),
          .restart { minOneTimePreKeys := 0 } false]
        (.sampleStart { minOneTimePreKeys := 0 }) with gaveWay := false } ∧
      (Volume.connectionRecord? final.volume 1).isNone = true ∧
      final.own.messenger.identity.hasOneTimePreKey 7 = false ∧
      Node.acceptSession .transparent 1 .sample .never final = .error (.handshake detail) final := by
  obtain ⟨_, _, spent⟩ := identity_is_stored_ahead .transparent
    (.sampleStart { minOneTimePreKeys := 0 }) (by decide +kernel)
    [.command (.accept 1 .sample { trigger := fun _ volume => volume.writes.identity == 1 }),
      .restart { minOneTimePreKeys := 0 } false]
  obtain ⟨missing, _, refuses⟩ := spent 7 (by decide +kernel)
  obtain ⟨detail, refused⟩ := refuses _ rfl 1 .sample .never rfl rfl
  exact ⟨_, detail, rfl, by decide +kernel, missing, refused⟩

end RatchetMessaging
