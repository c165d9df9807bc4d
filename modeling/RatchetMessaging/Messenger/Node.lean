import RatchetMessaging.Messenger.Site

/-!
Contract: operations of a running party.

Owns: the node, which is a process with its volume, its clock and the state of its provider;
operations on a node, whose failures keep what was done before them; the caller's signal to
withdraw; and waiting.

Does not own: the operations themselves.
-/

namespace RatchetMessaging

/-- A process at work: what its operations can see and change. -/
structure Node (σ : Type) extends Site where
  crypto : σ
  /-- Milliseconds since the clock was started. -/
  clock : Nat
  /-- Whether the operation at work has given way since the clock reached this moment, so
  that everything due at it has happened. -/
  gaveWay : Bool := false

/-- An operation of a process. -/
abbrev Operation (σ : Type) := EStateM Error (Node σ)

namespace Node

variable {σ : Type}

/-- Everything due before this moment has happened. -/
def horizon (node : Node σ) : Nat := if node.gaveWay then node.clock + 1 else node.clock

/-- Let everything happen that is due at this moment. -/
def giveWay (node : Node σ) : Node σ :=
  { node with toSite := node.toSite.catchUp node.clock, gaveWay := true }

end Node

/-- The caller's signal to withdraw from an operation. It fires at a moment, unless the
operation goes on first at that moment, or as soon as the provider and the volume are in a
certain state. -/
structure CancelSignal (σ : Type) where
  deadline : Option Nat := none
  trigger : σ → Volume → Bool := fun _ _ => false

namespace CancelSignal

variable {σ : Type}

/-- A signal that never fires. -/
def never : CancelSignal σ := {}

/-- A signal that has fired. -/
def fired : CancelSignal σ := { trigger := fun _ _ => true }

/-- Whether the signal has fired. -/
def isFired (signal : CancelSignal σ) (node : Node σ) : Bool :=
  signal.deadline.any (· < node.horizon) || signal.trigger node.crypto node.volume

/-- The moment at which the signal ends a wait that aims at `target`, if no trigger does so
earlier. -/
def wakeUp? (signal : CancelSignal σ) (target : Nat) : Option Nat :=
  signal.deadline.filter (· < target)

/-- Withdraw if the signal has fired. -/
def check (signal : CancelSignal σ) : Operation σ Unit := fun node =>
  if signal.isFired node then .error .cancelled node else .ok () node

end CancelSignal

namespace Node

variable {σ α : Type}

/-- Run a computation that calls the provider. -/
def calling (call : Crypto σ α) : Operation σ α := fun node =>
  match call node.crypto with
  | .ok value after => .ok value { node with crypto := after }
  | .error failure after => .error failure { node with crypto := after }

/-- A check, as a step of an operation. -/
def checking : Except Error α → Operation σ α
  | .ok value => pure value
  | .error failure => throw failure

/-- The party at work. -/
def messenger : Operation σ Messenger := do return (← get).own.messenger

/-- Change the party at work. -/
def modifyMessenger (change : Messenger → Messenger) : Operation σ Unit :=
  modify (fun node =>
    { node with own := { node.own with messenger := change node.own.messenger } })

/-- Replace the identity of the party at work. -/
def setIdentity (identity : Identity) : Operation σ Unit :=
  modifyMessenger (fun messenger => { messenger with identity := identity })

/-- Let time pass until `target`, or until the signal fires. At `target` itself the
operation goes on before anything else that is due at that moment. -/
def waitUntil (signal : CancelSignal σ) (target : Nat) (node : Node σ) : Node σ :=
  let wakeUp := signal.wakeUp? target
  let limit := (wakeUp.map (· + 1)).getD target
  match node.toSite.run (signal.trigger node.crypto) limit node.clock with
  | (some moment, site) => { node with toSite := site, clock := moment, gaveWay := true }
  | (none, site) =>
    match wakeUp with
    | some moment =>
      { node with toSite := site, clock := max node.clock moment, gaveWay := true }
    | none => { node with toSite := site, clock := target, gaveWay := false }

/-- Wait, unless the signal fires before. A wait of no length does not give way. -/
def wait (signal : CancelSignal σ) (duration : Nat) : Operation σ Unit := fun node =>
  if signal.isFired node then .error .cancelled node
  else if duration = 0 then .ok () node
  else
    let waited := waitUntil signal (waitEnd node.clock duration node.own.timer) node
    if signal.isFired waited then .error .cancelled waited else .ok () waited

end Node

end RatchetMessaging
