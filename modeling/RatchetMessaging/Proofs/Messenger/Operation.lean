import RatchetMessaging.Messenger.Node
import RatchetMessaging.Proofs.Computation

/-!
Contract: reasoning about the operations of a process.

Owns: what the steps of an operation that call the provider, check, and read the party come to.

Does not own: waits and writes.
-/

namespace RatchetMessaging

variable {σ α : Type}

namespace Crypto

variable {before after : σ} {value : α} {failure reason : Error}

@[simp] theorem pure_ne_error :
    (pure value : Crypto σ α) before ≠ .error failure after := by
  change EStateM.Result.ok value before ≠ _
  simp

theorem throw_eq_error :
    (throw reason : Crypto σ α) before = .error failure after ↔
      reason = failure ∧ before = after := by
  change EStateM.Result.error reason before = _ ↔ _
  simp

/-- What returns a value of an operation fails only if the operation does. -/
theorem error_of_bind_pure {β : Type} {first : Crypto σ β} {next : β → α}
    (failed : (first >>= fun value => pure (next value)) before = .error failure after) :
    first before = .error failure after := by
  obtain firstFailed | ⟨_, _, _, returned⟩ := bind_eq_error.1 failed
  · exact firstFailed
  · exact absurd returned pure_ne_error

end Crypto

namespace Node

variable {call : Crypto σ α} {check : Except Error α} {before after : Node σ} {value : α}
  {failure : Error}

theorem calling_eq_ok :
    calling call before = .ok value after ↔
      ∃ crypto, call before.crypto = .ok value crypto ∧
        after = { before with crypto := crypto } := by
  unfold calling
  cases call before.crypto with
  | ok given crypto =>
    simp only [EStateM.Result.ok.injEq]
    constructor
    · rintro ⟨rfl, rfl⟩
      exact ⟨_, ⟨rfl, rfl⟩, rfl⟩
    · rintro ⟨_, ⟨rfl, rfl⟩, rfl⟩
      exact ⟨rfl, rfl⟩
  | error reason crypto => simp

theorem calling_eq_error :
    calling call before = .error failure after ↔
      ∃ crypto, call before.crypto = .error failure crypto ∧
        after = { before with crypto := crypto } := by
  unfold calling
  cases call before.crypto with
  | ok given crypto => simp
  | error reason crypto =>
    simp only [EStateM.Result.error.injEq]
    constructor
    · rintro ⟨rfl, rfl⟩
      exact ⟨_, ⟨rfl, rfl⟩, rfl⟩
    · rintro ⟨_, ⟨rfl, rfl⟩, rfl⟩
      exact ⟨rfl, rfl⟩

theorem checking_eq_ok :
    (checking check : Operation σ α) before = .ok value after ↔
      check = .ok value ∧ before = after := by
  cases check with
  | ok given => simpa [checking] using Crypto.pure_eq_ok
  | error reason => simp [checking]

theorem checking_eq_error :
    (checking check : Operation σ α) before = .error failure after ↔
      check = .error failure ∧ before = after := by
  cases check with
  | ok given => simp [checking]
  | error reason => simpa [checking] using Crypto.throw_eq_error

theorem messenger_eq_ok {party : Messenger} :
    messenger before = .ok party after ↔ before.own.messenger = party ∧ before = after := by
  change EStateM.Result.ok _ _ = _ ↔ _
  simp

@[simp] theorem messenger_ne_error : messenger before ≠ .error failure after := nofun

theorem get_eq_ok {node : Node σ} :
    (get : Operation σ (Node σ)) before = .ok node after ↔ before = node ∧ before = after := by
  change EStateM.Result.ok _ _ = _ ↔ _
  simp

@[simp] theorem get_ne_error :
    (get : Operation σ (Node σ)) before ≠ .error failure after := nofun

theorem modifyMessenger_eq_ok {change : Messenger → Messenger} {done : PUnit} :
    modifyMessenger change before = .ok done after ↔
      after = { before with own.messenger := change before.own.messenger } := by
  change EStateM.Result.ok _ _ = _ ↔ _
  simp [eq_comm]

@[simp] theorem modifyMessenger_ne_error {change : Messenger → Messenger} :
    modifyMessenger change before ≠ .error failure after := nofun

theorem setIdentity_eq_ok {identity : Identity} {done : PUnit} :
    setIdentity identity before = .ok done after ↔
      after = { before with own.messenger.identity := identity } :=
  modifyMessenger_eq_ok

@[simp] theorem setIdentity_ne_error {identity : Identity} :
    setIdentity identity before ≠ .error failure after := nofun

end Node

end RatchetMessaging
