import RatchetMessaging.Error

/-!
Contract: values that hold private key material and can be given up.

Owns: the one-way switch after which the private part is out of reach.

Does not own: the public part of such a value, which stays readable.
-/

namespace RatchetMessaging

/-- A value and whether it was given up. -/
structure Disposable (α : Type) where
  value : α
  disposed : Bool := false

namespace Disposable

variable {α : Type}

/-- The value, while it is live. -/
def live (holder : Disposable α) : Except Error α :=
  if holder.disposed then .error (.objectDisposed "SecureBuffer") else .ok holder.value

/-- Give the value up. -/
def dispose (holder : Disposable α) : Disposable α := { holder with disposed := true }

end Disposable

end RatchetMessaging
