import RatchetMessaging.Proofs.Messenger.Continuity
import RatchetMessaging.Proofs.Messenger.Effect
import RatchetMessaging.Proofs.Messenger.IdentitySteps
import RatchetMessaging.Proofs.Messenger.Keeping

/-!
Contract: properties of a site that commands keep, from the few steps that matter to them.

Owns:
- the connections that are opened, read back and changed, all of which are portable;
- operations that keep what the passage of time keeps;
- `Node.Upheld`, for a property that the critical saves, the changes to live connections and the
  passage of time keep;
- every command keeps such a property, whether it succeeds or fails, but for a turn that is asked
  for without a message.

Does not own: any such property.
-/

namespace RatchetMessaging

variable {σ τ α : Type} {provider : Provider σ} {working : Provider τ} {primitives : Primitives}
  {limits : RatchetLimits} {signal : CancelSignal σ} {holds : Site → Prop} {connectionId : UInt32}
  {connection : Connection}

/-! ### Connections that are opened and read back -/

theorem Identity.signedPreKeyPair_eq_ok {identity : Identity} {id : UInt32}
    {keyPair : X25519KeyPair} (found : identity.signedPreKeyPair id = .ok keyPair) :
    keyPair = identity.signedPreKey.keyPair := by
  unfold signedPreKeyPair at found
  cases live : identity.ensureLive with
  | error failure =>
    rw [live] at found
    cases found
  | ok _ =>
    rw [live] at found
    by_cases isCurrent : id = identity.signedPreKey.id
    · simp only [isCurrent, ne_eq, not_true_eq_false, if_false] at found
      cases found
      rfl
    · simp only [isCurrent, ne_eq, not_false_eq_true, if_true] at found
      cases found

namespace Node

variable {before after : Node σ}

/-- The responder answers with the pre-key pair of its identity, which belongs together. -/
theorem openAsResponder_portable (repeats : working.Repeats provider)
    (agreeing : working.Agreeing primitives) {hello : Hello}
    (genuine : before.own.messenger.identity.Genuine working primitives)
    (opened : openAsResponder provider connectionId hello before = .ok connection after) :
    connection.Portable working before.own.messenger.config.ratchetLimits connectionId := by
  simp only [openAsResponder, Crypto.bind_eq_ok, messenger_eq_ok, calling_eq_ok, checking_eq_ok]
    at opened
  obtain ⟨_, _, ⟨rfl, rfl⟩, _, _, ⟨rfl, rfl⟩, _, _, ⟨_, _, rfl⟩, keyPair, _, ⟨isPair, rfl⟩, _,
    established, rfl⟩ := opened
  refine .of_establish repeats ?_ established
  intro pair isSeeded
  obtain rfl := Option.some.inj isSeeded
  rw [Identity.signedPreKeyPair_eq_ok isPair]
  exact agreeing.matches_of_fits genuine.signedPreKey

/-- What is read from the record of a connection is portable under the number of the record. -/
theorem portable_of_connectionIn (repeats : working.Repeats provider)
    {stored : Record.SessionRecord} {record : Record.ConnectionRecord} {crypto later : σ}
    (isRecord : connectionIn stored connectionId = .ok record)
    (reads : Connection.ofRecord provider limits record crypto = .ok connection later) :
    connection.Portable working limits connectionId := by
  have portable := Connection.Portable.of_ofRecord repeats reads
  rwa [(connectionIn_eq_ok isRecord).2] at portable

/-! ### The passage of time -/

/-- Waiting keeps what time keeps. -/
theorem keeps_wait_of_lapses
    (lapses : ∀ {site later : Site}, holds site → site.Lapses later → holds later)
    (signal : CancelSignal σ) (duration : Nat) :
    Keeps holds (wait signal duration) (fun _ => True) := by
  intro node held
  obtain ⟨after, passes, waited | waited⟩ := wait_cases signal duration node <;> rw [waited]
  · exact ⟨lapses held passes, trivial⟩
  · exact lapses held passes

/-- So does a flush, which comes to its end at a volume that accepts its writes. -/
theorem keeps_flush_of_lapses (working : ∀ {site : Site}, holds site → site.Working)
    (lapses : ∀ {site later : Site}, holds site → site.Lapses later → holds later) :
    Keeps holds (flush : Operation σ Unit) (fun _ => True) := by
  intro node held
  obtain ⟨after, flushed, passes, _⟩ := flush_ends (working held)
  rw [flushed]
  exact ⟨lapses held passes, trivial⟩

/-- A session is closed by removing it and dropping its background save, and then time passes. -/
theorem keeps_closeSession_of_drop (connectionId : UInt32)
    (drops : ∀ {site : Site}, holds site → holds { site with
      own := { site.own with messenger := site.own.messenger.remove connectionId }.dropping
        (.connection connectionId) })
    (lapses : ∀ {site later : Site}, holds site → site.Lapses later → holds later) :
    Keeps holds (closeSession connectionId : Operation σ Unit) (fun _ => True) := by
  refine keeps_of_cases (fun before _ _ held closed => ?_) (fun before _ _ held failed => ?_)
  · obtain ⟨_, _, passes⟩ := closeSession_eq_ok closed
    exact ⟨lapses (drops held) passes, trivial⟩
  · rw [closeSession_eq_error failed]
    exact held

/-! ### The steps that matter -/

/-- What a property of the site has to withstand, so that every command keeps it whose caller gives
the signal. It determines the limits, makes every live connection portable, and does not depend on
the identity. -/
structure Upheld (provider : Provider σ) (working : Provider τ) (limits : RatchetLimits)
    (signal : CancelSignal σ) (holds : Site → Prop) : Prop where
  settings : ∀ site, holds site → site.own.messenger.config.ratchetLimits = limits
  portable : ∀ site, holds site → ∀ connectionId live,
    site.own.messenger.connections.find? connectionId = some live →
      live.connection.Portable working limits connectionId
  identify : ∀ site, holds site → ∀ identity, holds { site with own.messenger.identity := identity }
  saveIdentityRecord : ∀ record, Keeps holds (saveCritical .identity record signal) (fun _ => True)
  storeAndInstall : ∀ connectionId connection, connection.Portable working limits connectionId →
    Keeps holds (storeAndInstall connectionId connection signal) (fun _ => True)
  settle : ∀ {node : Node σ} {connectionId live staged}, holds node.toSite →
    node.own.messenger.connections.find? connectionId = some live →
      (live.connection.commit staged).Portable working limits connectionId →
        holds (leftBy (settle connectionId live staged signal) node).toSite
  restore : ∀ connectionId, Keeps holds (restoreSession provider connectionId) (fun _ => True)
  close : ∀ connectionId,
    Keeps holds (closeSession connectionId : Operation σ Unit) (fun _ => True)
  flush : Keeps holds (flush : Operation σ Unit) (fun _ => True)
  wait : ∀ duration, Keeps holds (wait .never duration : Operation σ Unit) (fun _ => True)

namespace Upheld

/-! ### Identities -/

theorem keepsSettings (upheld : Upheld provider working limits signal holds) :
    Keeps holds (messenger : Operation σ Messenger)
      (fun party => party.config.ratchetLimits = limits) :=
  keeps_messenger upheld.settings

theorem setIdentity (upheld : Upheld provider working limits signal holds) (identity : Identity) :
    Keeps holds (setIdentity identity : Operation σ PUnit) (fun _ => True) :=
  keeps_setIdentity identity fun site held => upheld.identify site held identity

theorem replaceIdentity (upheld : Upheld provider working limits signal holds)
    (identity : Identity) :
    Keeps holds (replaceIdentity identity signal) (fun _ => True) :=
  (keeps_checking fun _ _ => trivial).bind fun record _ =>
    (upheld.saveIdentityRecord (.ofIdentity record)).bind fun _ _ => upheld.setIdentity identity

theorem saveIdentity (upheld : Upheld provider working limits signal holds) :
    Keeps holds (saveIdentity signal) (fun _ => True) :=
  upheld.keepsSettings.bind fun _ _ => (keeps_checking fun _ _ => trivial).bind fun record _ =>
    upheld.saveIdentityRecord (.ofIdentity record)

theorem rotateSignedPreKey (upheld : Upheld provider working limits signal holds) (patience : Nat) :
    Keeps holds (rotateSignedPreKey provider patience signal) (fun _ => True) := by
  refine upheld.keepsSettings.bind fun party _ => ?_
  refine (keeps_calling fun _ _ _ _ => trivial).bind fun copy _ => ?_
  refine (keeps_calling fun _ _ _ _ => trivial).bind fun rotated _ => ?_
  cases rotated with
  | none => exact keeps_pure trivial
  | some replacement =>
    exact (upheld.replaceIdentity replacement.2).bind fun _ _ => keeps_pure trivial

/-! ### Sessions -/

theorem openAsInitiator (upheld : Upheld provider working limits signal holds)
    (repeats : working.Repeats provider) (connectionId : UInt32) (bundle : Bundle) :
    Keeps holds (openAsInitiator provider connectionId bundle)
      (fun opened => opened.1.Portable working limits connectionId) := by
  refine upheld.keepsSettings.bind fun party settings => ?_
  refine upheld.keepsSettings.bind fun _ _ => ?_
  refine (keeps_calling fun _ _ _ _ => trivial).bind fun _ _ => ?_
  refine (upheld.setIdentity _).bind fun _ _ => ?_
  refine (keeps_calling fun _ _ _ _ => trivial).bind fun _ _ => ?_
  refine (upheld.setIdentity _).bind fun _ _ => ?_
  refine (keeps_calling fun _ _ _ established => ?_).bind fun connection portable =>
    (keeps_checking fun _ _ => trivial).bind fun _ _ => keeps_pure portable
  rw [← settings]
  refine .of_establish repeats ?_ established
  intro _ absent
  cases absent

theorem initiateSession (upheld : Upheld provider working limits signal holds)
    (repeats : working.Repeats provider) (connectionId : UInt32) (bundle : Bundle) :
    Keeps holds (initiateSession provider connectionId bundle signal) (fun _ => True) :=
  (keeps_check _).bind fun _ _ =>
    (upheld.openAsInitiator repeats connectionId bundle).bind fun opened portable =>
      (keeps_check _).bind fun _ _ =>
        (upheld.storeAndInstall _ opened.1 portable).bind fun _ _ => keeps_pure trivial

theorem identityAfter (upheld : Upheld provider working limits signal holds) (hello : Hello) :
    Keeps holds (identityAfter provider hello) (fun _ => True) := by
  refine upheld.keepsSettings.bind fun config _ => ?_
  refine upheld.keepsSettings.bind fun _ _ => ?_
  refine (keeps_calling fun _ _ _ _ => trivial).bind fun copy _ => ?_
  simp only
  split
  · exact (keeps_calling fun _ _ _ _ => trivial).bind fun _ _ =>
      (keeps_checking fun _ _ => trivial).bind fun _ _ => keeps_pure trivial
  · exact keeps_pure trivial

/-- An acceptance, at a process whose keys belong together. -/
theorem acceptSession (upheld : Upheld provider working limits signal holds)
    (repeats : working.Repeats provider) (agreeing : working.Agreeing primitives) {node : Node σ}
    (genuine : node.own.messenger.identity.Genuine working primitives)
    (held : holds node.toSite) (connectionId : UInt32) (hello : Hello) :
    holds (leftBy (acceptSession provider connectionId hello signal) node).toSite := by
  unfold Node.acceptSession
  cases checked : signal.check node with
  | error failure after =>
    obtain rfl := CancelSignal.check_eq_error checked
    rw [leftBy_bind_of_error checked]
    exact held
  | ok _ after =>
    obtain rfl := CancelSignal.check_eq_ok checked
    rw [leftBy_bind_of_ok checked]
    cases opened : openAsResponder provider connectionId hello node with
    | error failure after =>
      rw [leftBy_bind_of_error opened]
      obtain ⟨_, rfl⟩ := openAsResponder_eq_error opened
      exact held
    | ok connection after =>
      rw [leftBy_bind_of_ok opened]
      have portable := openAsResponder_portable repeats agreeing genuine opened
      rw [upheld.settings _ held] at portable
      obtain ⟨_, _, rfl, _⟩ := openAsResponder_eq_ok opened
      have keeps := (keeps_check signal).bind fun _ _ =>
        (upheld.identityAfter hello).bind fun identity _ =>
          (upheld.replaceIdentity identity).bind fun _ _ =>
            upheld.storeAndInstall _ connection portable
      exact keeps.leftBy held

/-! ### Messages -/

theorem exchange (upheld : Upheld provider working limits signal holds)
    {stage : Connection → Crypto σ (α × Staged)}
    (stages : ∀ connection before result staged after,
      connection.Portable working limits connectionId →
        stage connection before = .ok (result, staged) after →
          (connection.commit staged).Portable working limits connectionId) :
    Keeps holds (exchange connectionId stage signal) (fun _ => True) := by
  intro node held
  cases found : node.own.messenger.session connectionId with
  | error missing =>
    rw [exchange_of_missing found]
    exact held
  | ok live =>
    cases outcome : stage live.connection node.crypto with
    | error reason crypto =>
      rw [exchange_of_unstaged found outcome]
      exact held
    | ok resultAndStaged crypto =>
      obtain ⟨result, staged⟩ := resultAndStaged
      have isLive := Messenger.session_eq_ok.1 found
      have portable := stages _ _ _ _ _ (upheld.portable _ held _ live isLive) outcome
      have heldThen : holds { node with crypto := crypto }.toSite := held
      have kept := upheld.settle heldThen isLive portable
      rw [exchange_of_staged found outcome]
      unfold leftBy at kept
      cases settled :
        Node.settle connectionId live staged signal { node with crypto := crypto } with
      | ok _ after =>
        rw [settled] at kept
        rw [Crypto.bind_of_ok settled]
        exact ⟨kept, trivial⟩
      | error failure after =>
        rw [settled] at kept
        rw [Crypto.bind_of_error settled]
        exact kept

theorem encrypt (upheld : Upheld provider working limits signal holds)
    (repeats : working.Repeats provider) (connectionId : UInt32)
    (plaintext associatedData : Bytes) :
    Keeps holds (encrypt provider connectionId plaintext associatedData signal)
      (fun _ => True) := by
  rw [encrypt_eq_exchange]
  exact upheld.exchange fun _ _ _ _ _ portable encrypted => portable.stageEncrypt repeats encrypted

theorem decrypt (upheld : Upheld provider working limits signal holds)
    (repeats : working.Repeats provider) (connectionId : UInt32) (message : RatchetMessage)
    (associatedData : Bytes) :
    Keeps holds (decrypt provider connectionId message associatedData signal)
      (fun _ => True) := by
  rw [decrypt_eq_exchange]
  exact upheld.exchange fun _ _ _ _ _ portable decrypted => portable.stageDecrypt repeats decrypted

end Upheld

end Node

/-! ### Commands -/

/-- The caller gives the signal, if any, and does not ask for a turn without a message. -/
def Command.Gives (signal : CancelSignal σ) : Command σ → Prop
  | saveIdentity given | initiate _ _ given | accept _ _ given | encrypt _ _ _ given
  | decrypt _ _ _ given | rotate _ given => given = signal
  | forceRatchet _ => False
  | restore _ | close _ | flush | wait _ => True

/-- A command keeps what is upheld under its signal, whether it succeeds or fails. -/
theorem Node.Upheld.aftermath (upheld : Upheld provider working limits signal holds)
    (imitates : provider.Imitates working primitives) (agreeing : working.Agreeing primitives)
    {command : Command σ}
    (gives : command.Gives signal) {node : Node σ}
    (made : Identity.Made provider node.own.messenger.identity) (held : holds node.toSite) :
    holds (command.aftermath provider node).toSite := by
  have repeats := imitates.repeats agreeing
  have heldThen : holds { node with gaveWay := false }.toSite := held
  cases command with
  | saveIdentity given =>
    cases gives
    rw [Command.aftermath_eq_leftBy rfl]
    exact upheld.saveIdentity.leftBy heldThen
  | initiate connectionId bundle given =>
    cases gives
    rw [Command.aftermath_eq_leftBy rfl]
    exact (upheld.initiateSession repeats connectionId bundle).leftBy heldThen
  | accept connectionId hello given =>
    cases gives
    have genuine : Identity.Genuine working primitives
      { node with gaveWay := false }.own.messenger.identity := made.genuine_of_imitates imitates
    rw [Command.aftermath_eq_leftBy rfl]
    exact upheld.acceptSession repeats agreeing genuine heldThen connectionId hello
  | encrypt connectionId plaintext associatedData given =>
    cases gives
    rw [Command.aftermath_eq_leftBy rfl]
    exact (upheld.encrypt repeats connectionId plaintext associatedData).leftBy heldThen
  | decrypt connectionId message associatedData given =>
    cases gives
    rw [Command.aftermath_eq_leftBy rfl]
    exact (upheld.decrypt repeats connectionId message associatedData).leftBy heldThen
  | forceRatchet connectionId => cases gives
  | restore connectionId =>
    rw [Command.aftermath_eq_leftBy rfl]
    exact (upheld.restore connectionId).leftBy heldThen
  | close connectionId =>
    rw [Command.aftermath_eq_leftBy rfl]
    exact (upheld.close connectionId).leftBy heldThen
  | rotate patience given =>
    cases gives
    rw [Command.aftermath_eq_leftBy rfl]
    exact (upheld.rotateSignedPreKey patience).leftBy heldThen
  | flush =>
    rw [Command.aftermath_eq_leftBy rfl]
    exact upheld.flush.leftBy heldThen
  | wait duration =>
    rw [Command.aftermath_eq_leftBy rfl]
    exact (upheld.wait duration).leftBy heldThen

end RatchetMessaging
