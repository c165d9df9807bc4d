import RatchetMessaging.Messenger.Node
import RatchetMessaging.Provider.Faulty

/-!
Contract: signals that fire in the middle of an operation.

Owns: the signals that fire at a moment, with a certain write, or with a certain draw of
random bytes.

Does not own: what an operation does when a signal fires.
-/

namespace RatchetMessaging.CancelSignal

variable {σ : Type}

/-- A signal that fires at a moment. -/
def atMoment (moment : Nat) : CancelSignal σ := { deadline := some moment }

/-- A signal that fires once `count` writes were tried on the volume. -/
def afterWrites (count : Nat) : CancelSignal σ :=
  { trigger := fun _ volume => decide (count ≤ volume.writes.total) }

/-- A signal that fires once the provider was asked `count` times for random bytes. -/
def afterRandomCalls (count : Nat) : CancelSignal (Faulty σ) :=
  { trigger := fun crypto _ => decide (count ≤ crypto.randomCalls) }

end RatchetMessaging.CancelSignal
