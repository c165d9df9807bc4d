import RatchetMessaging.Proofs.Messenger.Command
import RatchetMessaging.Proofs.Messenger.Operation
import RatchetMessaging.Proofs.Messenger.Saving

/-!
Contract: operations that keep a property of the site.

Owns:
- `Keeps`, for an operation after which the property holds again, with success or with a failure,
  and whose result has a property of its own;
- the same of a sequence, from its steps, and of the steps that call the provider, check, read the
  party or change it;
- the node that an operation leaves, and the command that is made of it.

Does not own: any such property.
-/

namespace RatchetMessaging

variable {σ α β : Type} {holds : Site → Prop}

namespace Node

/-- What holds of the site holds again after the operation, and the result has a property. -/
def Keeps (holds : Site → Prop) (operation : Operation σ α) (yields : α → Prop) : Prop :=
  ∀ node : Node σ, holds node.toSite →
    match operation node with
    | .ok value after => holds after.toSite ∧ yields value
    | .error _ after => holds after.toSite

variable {operation : Operation σ α} {yields : α → Prop}

theorem Keeps.of_ok (keeps : Keeps holds operation yields) {before after : Node σ} {value : α}
    (held : holds before.toSite) (succeeded : operation before = .ok value after) :
    holds after.toSite ∧ yields value := by
  have kept := keeps before held
  rwa [succeeded] at kept

theorem Keeps.of_error (keeps : Keeps holds operation yields) {before after : Node σ}
    {failure : Error} (held : holds before.toSite)
    (failed : operation before = .error failure after) : holds after.toSite := by
  have kept := keeps before held
  rwa [failed] at kept

/-- An operation keeps what its successes and its failures keep. -/
theorem keeps_of_cases
    (ofOk : ∀ before value after, holds before.toSite → operation before = .ok value after →
      holds after.toSite ∧ yields value)
    (ofError : ∀ before failure after, holds before.toSite →
      operation before = .error failure after → holds after.toSite) :
    Keeps holds operation yields := by
  intro before held
  cases performed : operation before with
  | ok value after => exact ofOk before value after held performed
  | error failure after => exact ofError before failure after held performed

/-- The node that an operation leaves, with success or with a failure. -/
def leftBy (operation : Operation σ α) (node : Node σ) : Node σ :=
  match operation node with
  | .ok _ after => after
  | .error _ after => after

theorem leftBy_bind_of_ok {before after : Node σ} {value : α}
    (first : operation before = .ok value after) (next : α → Operation σ β) :
    leftBy (operation >>= next) before = leftBy (next value) after := by
  rw [leftBy, Crypto.bind_of_ok first]
  rfl

theorem leftBy_bind_of_error {before after : Node σ} {failure : Error}
    (first : operation before = .error failure after) (next : α → Operation σ β) :
    leftBy (operation >>= next) before = after := by
  rw [leftBy, Crypto.bind_of_error first]

theorem Keeps.leftBy (keeps : Keeps holds operation yields) {node : Node σ}
    (held : holds node.toSite) : holds (leftBy operation node).toSite := by
  unfold Node.leftBy
  cases performed : operation node with
  | ok value after => exact (keeps.of_ok held performed).1
  | error failure after => exact keeps.of_error held performed

theorem keeps_pure {value : α} (has : yields value) :
    Keeps holds (pure value : Operation σ α) yields :=
  fun _ held => ⟨held, has⟩

theorem Keeps.bind (keeps : Keeps holds operation yields) {next : α → Operation σ β}
    {produces : β → Prop} (rest : ∀ value, yields value → Keeps holds (next value) produces) :
    Keeps holds (operation >>= next) produces := by
  refine keeps_of_cases (fun before _ _ held succeeded => ?_) (fun before _ _ held failed => ?_)
  · obtain ⟨value, _, first, second⟩ := Crypto.bind_eq_ok.1 succeeded
    obtain ⟨between, has⟩ := keeps.of_ok held first
    exact (rest value has).of_ok between second
  · obtain first | ⟨value, _, first, second⟩ := Crypto.bind_eq_error.1 failed
    · exact keeps.of_error held first
    · obtain ⟨between, has⟩ := keeps.of_ok held first
      exact (rest value has).of_error between second

/-- A call of the provider is not seen at the site. -/
theorem keeps_calling {call : Crypto σ α}
    (has : ∀ before value after, call before = .ok value after → yields value) :
    Keeps holds (calling call) yields := by
  refine keeps_of_cases (fun before _ _ held succeeded => ?_) (fun before _ _ held failed => ?_)
  · obtain ⟨_, called, rfl⟩ := calling_eq_ok.1 succeeded
    exact ⟨held, has _ _ _ called⟩
  · obtain ⟨_, _, rfl⟩ := calling_eq_error.1 failed
    exact held

theorem keeps_checking {check : Except Error α} (has : ∀ value, check = .ok value → yields value) :
    Keeps holds (checking check : Operation σ α) yields := by
  refine keeps_of_cases (fun before _ _ held succeeded => ?_) (fun before _ _ held failed => ?_)
  · obtain ⟨isValue, rfl⟩ := checking_eq_ok.1 succeeded
    exact ⟨held, has _ isValue⟩
  · obtain ⟨_, rfl⟩ := checking_eq_error.1 failed
    exact held

theorem keeps_messenger {yields : Messenger → Prop}
    (has : ∀ site, holds site → yields site.own.messenger) :
    Keeps holds (messenger : Operation σ Messenger) yields :=
  fun _ held => ⟨held, has _ held⟩

theorem keeps_setIdentity (identity : Identity)
    (keeps : ∀ site, holds site → holds { site with own.messenger.identity := identity }) :
    Keeps holds (setIdentity identity : Operation σ PUnit) (fun _ => True) :=
  fun _ held => ⟨keeps _ held, trivial⟩

theorem keeps_check (signal : CancelSignal σ) : Keeps holds signal.check (fun _ => True) := by
  refine keeps_of_cases (fun before _ _ held passed => ?_) (fun before _ _ held withdrawn => ?_)
  · obtain rfl := CancelSignal.check_eq_ok passed
    exact ⟨held, trivial⟩
  · obtain rfl := CancelSignal.check_eq_error withdrawn
    exact held

end Node

/-- A command leaves the node that its operation leaves. -/
theorem Command.aftermath_eq_leftBy {provider : Provider σ} {command : Command σ}
    {operation : Operation σ α} {answer : α → Answer}
    (performs : command.perform provider = do return answer (← operation)) (node : Node σ) :
    command.aftermath provider node = Node.leftBy operation { node with gaveWay := false } := by
  rw [aftermath, result, performs]
  unfold Node.leftBy
  cases performed : operation { node with gaveWay := false } with
  | ok value after => rw [Crypto.bind_of_ok performed]; rfl
  | error failure after => rw [Crypto.bind_of_error performed]

end RatchetMessaging
