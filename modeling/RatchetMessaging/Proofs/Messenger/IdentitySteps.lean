import RatchetMessaging.Proofs.Identity.Genuine
import RatchetMessaging.Proofs.Messenger.StoredIdentity

/-!
Contract: the identity of a process along its commands.

Owns:
- the steps that each command makes the identity take, with success or with a failure;
- along every run the settings and the long-term keys stay, and an identity that was made stays
  one.

Does not own: which identity is stored.
-/

namespace RatchetMessaging

variable {σ : Type} {provider : Provider σ} {connectionId : UInt32}

/-! ### Moves that store no identity -/

theorem Site.KeepsIdentity.steps {site later : Site} (provider : Provider σ)
    (keeps : site.KeepsIdentity later) :
    Identity.Steps provider site.own.messenger.identity later.own.messenger.identity := by
  obtain ⟨ephemeral, effective⟩ := keeps.effective
  rw [effective]
  exact .single (.prepare ephemeral)

theorem Moves.steps_of_quiet {site later : Site} {events : List Event}
    (moves : Moves provider site events later) (quiet : Quiet events) :
    Identity.Steps provider site.own.messenger.identity later.own.messenger.identity := by
  induction moves with
  | refl => exact .refl
  | head move _ inductionHypothesis =>
    obtain ⟨first, rest⟩ := quiet_append.1 quiet
    rcases move.identity_cases with ⟨_, _, rfl, _⟩ | ⟨_, keeps⟩
    · exact absurd first not_quiet_identityStored
    · exact (keeps.steps provider).trans (inductionHypothesis rest)

theorem Site.Lapses.steps {site later : Site} (provider : Provider σ)
    (lapses : site.Lapses later) :
    Identity.Steps provider site.own.messenger.identity later.own.messenger.identity :=
  (Moves.of_lapses lapses).steps_of_quiet nofun

/-! ### Operations -/

theorem Identity.steps_of_clone {identity copy : Identity} {before after : σ}
    (cloned : identity.clone provider before = .ok copy after) :
    Steps provider identity copy := by
  obtain ⟨_, rfl⟩ := clone_eq_ok cloned
  exact .single (.prepare none)

namespace Node

variable {before after : Node σ} {signal : CancelSignal σ} {failure : Error} {done : PUnit}

theorem saveIdentity_eq_ok (saved : saveIdentity signal before = .ok done after) :
    after.own.messenger = before.own.messenger := by
  simp only [saveIdentity, Crypto.bind_eq_ok, messenger_eq_ok, checking_eq_ok] at saved
  obtain ⟨_, _, ⟨rfl, rfl⟩, _, _, ⟨_, rfl⟩, saved⟩ := saved
  obtain ⟨ready, lapses, _, rfl⟩ := saveCritical_eq_ok saved
  exact lapses.messenger

theorem replaceIdentity_eq_ok {identity : Identity}
    (replaced : replaceIdentity identity signal before = .ok done after) :
    after.own.messenger.identity = identity := by
  simp only [replaceIdentity, Crypto.bind_eq_ok, checking_eq_ok, setIdentity_eq_ok] at replaced
  obtain ⟨_, _, _, _, _, _, rfl⟩ := replaced
  rfl

theorem rotateSignedPreKey_steps {patience : Nat} {rotated : Option UInt32}
    (succeeded : rotateSignedPreKey provider patience signal before = .ok rotated after) :
    Identity.Steps provider before.own.messenger.identity after.own.messenger.identity := by
  simp only [rotateSignedPreKey, Crypto.bind_eq_ok, messenger_eq_ok, calling_eq_ok] at succeeded
  obtain ⟨_, _, ⟨rfl, rfl⟩, copy, _, ⟨_, cloned, rfl⟩, _, _, ⟨_, rotates, rfl⟩, succeeded⟩ :=
    succeeded
  split at succeeded
  · obtain ⟨_, rfl⟩ := Crypto.pure_eq_ok.1 succeeded
    exact .refl
  · obtain ⟨_, _, replaced, returned⟩ := Crypto.bind_eq_ok.1 succeeded
    obtain ⟨_, rfl⟩ := Crypto.pure_eq_ok.1 returned
    rw [replaceIdentity_eq_ok replaced]
    exact (Identity.steps_of_clone cloned).tail (.rotate rotates)

theorem identityAfterDrawing_steps {hello : Hello} {identity : Identity} {drawn : List UInt32}
    (succeeded : identityAfterDrawing provider hello before = .ok (identity, drawn) after) :
    Identity.Steps provider before.own.messenger.identity identity := by
  simp only [identityAfterDrawing, Crypto.bind_eq_ok, messenger_eq_ok, calling_eq_ok] at succeeded
  obtain ⟨_, _, ⟨rfl, rfl⟩, _, _, ⟨rfl, rfl⟩, copy, _, ⟨_, cloned, rfl⟩, succeeded⟩ := succeeded
  have consumes := (Identity.steps_of_clone cloned).tail (.consume hello)
  split at succeeded
  · simp only [Crypto.bind_eq_ok, calling_eq_ok, checking_eq_ok, Crypto.pure_eq_ok,
      Prod.mk.injEq] at succeeded
    obtain ⟨_, _, ⟨_, replenished, rfl⟩, _, _, _, ⟨rfl, rfl⟩, rfl⟩ := succeeded
    exact consumes.tail (.replenish replenished)
  · simp only [Crypto.pure_eq_ok, Prod.mk.injEq] at succeeded
    obtain ⟨⟨rfl, rfl⟩, rfl⟩ := succeeded
    exact consumes

theorem takeOver_steps {hello : Hello} {connection : Connection} {drawn : List UInt32}
    (succeeded : takeOver provider connectionId hello signal before =
      .ok (connection, drawn) after) :
    Identity.Steps provider before.own.messenger.identity after.own.messenger.identity := by
  obtain ⟨_, _, _, opened, prepared, replaced⟩ := takeOver_eq_ok succeeded
  obtain ⟨_, _, rfl, _⟩ := openAsResponder_eq_ok opened
  rw [replaceIdentity_eq_ok replaced]
  have steps := identityAfterDrawing_steps prepared
  exact steps

end Node

/-! ### Commands -/

namespace Command

variable {α : Type} {command : Command σ} {node : Node σ}

/-- A command takes the steps of its operation. -/
theorem steps_of_operation {operation : Operation σ α} {answer : α → Answer}
    (performs : command.perform provider = do return answer (← operation))
    (ofOk : ∀ value after, operation { node with gaveWay := false } = .ok value after →
      Identity.Steps provider node.own.messenger.identity after.own.messenger.identity)
    (ofError : ∀ failure after, operation { node with gaveWay := false } = .error failure after →
      Identity.Steps provider node.own.messenger.identity after.own.messenger.identity) :
    Identity.Steps provider node.own.messenger.identity
      (command.aftermath provider node).own.messenger.identity := by
  rw [aftermath, result, performs]
  cases performed : operation { node with gaveWay := false } with
  | ok value after =>
    rw [Crypto.bind_of_ok performed]
    exact ofOk value after performed
  | error failure after =>
    rw [Crypto.bind_of_error performed]
    exact ofError failure after performed

theorem accept_steps (provider : Provider σ) (connectionId : UInt32) (hello : Hello)
    (signal : CancelSignal σ) (node : Node σ) :
    Identity.Steps provider node.own.messenger.identity
      ((accept connectionId hello signal).aftermath provider node).own.messenger.identity := by
  simp only [aftermath, result, perform, Node.acceptSession_eq]
  cases takenOver : Node.takeOver provider connectionId hello signal
      { node with gaveWay := false } with
  | error failure after =>
    rw [Crypto.bind_of_error (Crypto.bind_of_error takenOver _)]
    have lapses := Node.takeOver_lapses_of_error takenOver
    exact lapses.steps provider
  | ok value middle =>
    obtain ⟨connection, drawn⟩ := value
    have steps := Node.takeOver_steps takenOver
    obtain ⟨_, state, opens, _⟩ := Node.takeOver_moves_of_ok takenOver
    cases installed : Node.storeAndInstall connectionId connection signal middle with
    | error failure after =>
      rw [Crypto.bind_of_error ((Crypto.bind_of_ok takenOver _).trans installed)]
      have moves := Node.storeAndInstall_moves_of_error provider installed
      exact steps.trans (moves.steps_of_quiet fun _ member => absurd member List.not_mem_nil)
    | ok done after =>
      rw [Crypto.bind_of_ok ((Crypto.bind_of_ok takenOver _).trans installed)]
      have moves := Node.storeAndInstall_moves_of_ok provider opens installed
      exact steps.trans (moves.steps_of_quiet state.quiet_announced)

/-- A command stores no identity if none of its answers shows that. -/
theorem steps_of_quiet
    (shown : command.events provider node = match command.result provider node with
      | .ok answer after => command.eventsOf node after answer
      | .error _ _ => [])
    (quiet : ∀ after answer, Quiet (command.eventsOf node after answer)) :
    Identity.Steps provider node.own.messenger.identity
      (command.aftermath provider node).own.messenger.identity := by
  apply (command.moves provider node).steps_of_quiet
  rw [shown]
  split
  · exact quiet _ _
  · exact nofun

theorem quiet_eventsOf_initiate (connectionId : UInt32) (bundle : Bundle)
    (signal : CancelSignal σ) (before after : Node σ) (answer : Answer) :
    Quiet ((initiate connectionId bundle signal).eventsOf before after answer) := by
  cases answer with
  | opened hello =>
    intro event member
    obtain ⟨_, _, rfl⟩ := List.mem_map.1 member
    rfl
  | _ => exact nofun

theorem quiet_eventsOf_encrypt (connectionId : UInt32) (plaintext associatedData : Bytes)
    (signal : CancelSignal σ) (before after : Node σ) (answer : Answer) :
    Quiet
      ((encrypt connectionId plaintext associatedData signal).eventsOf before after answer) := by
  cases answer with
  | sent message =>
    intro event member
    rcases List.mem_append.1 member with generated | sent
    · split at generated
      · cases generated
      · cases List.mem_singleton.1 generated
        rfl
    · cases List.mem_singleton.1 sent
      rfl
  | _ => exact nofun

/-- Every command makes the identity take steps. -/
theorem steps (provider : Provider σ) (command : Command σ) (node : Node σ) :
    Identity.Steps provider node.own.messenger.identity
      (command.aftermath provider node).own.messenger.identity := by
  cases command with
  | saveIdentity signal =>
    refine steps_of_operation rfl (fun _ _ saved => ?_) (fun _ _ failed => ?_)
    · rw [Node.saveIdentity_eq_ok saved]
    · exact (Node.saveIdentity_moves_of_error provider failed).steps_of_quiet nofun
  | accept connectionId hello signal => exact accept_steps provider connectionId hello signal node
  | rotate patience signal =>
    refine steps_of_operation rfl (fun _ _ succeeded => ?_) (fun _ _ failed => ?_)
    · have steps := Node.rotateSignedPreKey_steps succeeded
      exact steps
    · exact (Node.rotateSignedPreKey_moves_of_error failed).steps_of_quiet nofun
  | initiate connectionId bundle signal =>
    exact steps_of_quiet rfl (quiet_eventsOf_initiate connectionId bundle signal node)
  | encrypt connectionId plaintext associatedData signal =>
    exact steps_of_quiet rfl
      (quiet_eventsOf_encrypt connectionId plaintext associatedData signal node)
  | restore connectionId => exact steps_of_quiet rfl (fun _ _ => node.toSite.quiet_abandoning _)
  | close connectionId => exact steps_of_quiet rfl (fun _ _ => node.toSite.quiet_abandoning _)
  | decrypt | forceRatchet | flush | wait => exact steps_of_quiet rfl (fun _ _ => nofun)

end Command

/-! ### Runs -/

theorem run_steps (provider : Provider σ) (commands : List (Command σ)) (node : Node σ) :
    Identity.Steps provider node.own.messenger.identity
      (run provider commands node).own.messenger.identity := by
  induction commands generalizing node with
  | nil => exact .refl
  | cons command rest inductionHypothesis =>
    exact (command.steps provider node).trans (inductionHypothesis _)

/-- An identity that was made stays one. -/
theorem run_made {node : Node σ} (commands : List (Command σ))
    (made : Identity.Made provider node.own.messenger.identity) :
    Identity.Made provider (run provider commands node).own.messenger.identity :=
  made.steps (run_steps provider commands node)

theorem Moves.config {site later : Site} {events : List Event}
    (moves : Moves provider site events later) :
    later.own.messenger.config = site.own.messenger.config := by
  induction moves with
  | refl => rfl
  | head move _ inductionHypothesis => exact inductionHypothesis.trans move.config

theorem run_config (provider : Provider σ) (commands : List (Command σ)) (node : Node σ) :
    (run provider commands node).own.messenger.config = node.own.messenger.config :=
  (run_moves provider commands node).config

theorem run_writeFault (provider : Provider σ) (commands : List (Command σ)) (node : Node σ) :
    (run provider commands node).volume.writeFault = node.volume.writeFault :=
  (run_moves provider commands node).writeFault

end RatchetMessaging
