import RatchetMessaging.Provider.Faulty
import RatchetMessaging.Proofs.Provider.Compositional
import RatchetMessaging.Proofs.Provider.Transparent

/-!
Contract: providers that give the same again.

Owns:
- `Provider.Steady`, for a provider whose primitives, on the way in, depend on what they are given
  and not on what the provider remembers, as long as it is healthy;
- `Provider.Functional`, for a provider whose primitives, on the way in, are functions of what they
  are given, which is the plainest reason to be steady;
- the same of every decryption;
- a provider whose faults have cleared is as steady as the provider that it wraps.

Does not own: encryption, which draws new secrets.
-/

namespace RatchetMessaging

variable {σ : Type} {provider : Provider σ} {healthy : σ → Prop}

/-- In healthy states the primitives that a decryption calls give the same again. -/
structure Provider.Steady (provider : Provider σ) (healthy : σ → Prop) : Prop where
  agrees : ∀ secret peer, Crypto.Steady healthy (provider.x25519Shared secret peer)
  derives : ∀ salt material info size,
    Crypto.Steady healthy (provider.hkdf salt material info size)
  macs : ∀ key message, Crypto.Steady healthy (provider.hmac key message)
  opens : ∀ key nonce ciphertext associatedData,
    Crypto.Steady healthy (provider.aeadDecrypt key nonce ciphertext associatedData)

theorem Crypto.steady_compositional (healthy : σ → Prop) :
    Crypto.Compositional (fun _ : Type => Crypto.Steady healthy) where
  returns := Crypto.steady_pure healthy
  fails := Crypto.steady_throw healthy
  bind := Crypto.Steady.bind

namespace Provider.Steady

theorem met (steady : provider.Steady healthy) :
    provider.Derives (fun _ => Crypto.Steady healthy) where
  compositional := Crypto.steady_compositional healthy
  agrees := steady.agrees
  derives := steady.derives
  macs := steady.macs

/-- What a message key opens, it opens again. -/
theorem decrypt (steady : provider.Steady healthy) (messageKey : FixedBytes 32)
    (ciphertext associatedData : Bytes) :
    Crypto.Steady healthy
      (MessageCipher.decrypt provider messageKey ciphertext associatedData) :=
  (steady.met.material messageKey).bind fun _ => steady.opens _ _ _ _

/-- A decryption gives the same again. -/
theorem stageDecrypt (steady : provider.Steady healthy) (connection : Connection)
    (message : RatchetMessage) (associatedData : Bytes) :
    Crypto.Steady healthy (connection.stageDecrypt provider message associatedData) :=
  steady.met.stageDecrypt steady.opens connection message associatedData

end Provider.Steady

/-! ### Functions -/

/-- The primitives that a decryption calls are functions of what they are given: they neither look
at the state of the provider nor change it. -/
structure Provider.Functional (provider : Provider σ) : Prop where
  agrees : ∀ secret peer, ∃ outcome, provider.x25519Shared secret peer = Crypto.ofExcept outcome
  derives : ∀ salt material info size, ∃ outcome,
    provider.hkdf salt material info size = Crypto.ofExcept outcome
  macs : ∀ key message, ∃ outcome, provider.hmac key message = Crypto.ofExcept outcome
  opens : ∀ key nonce ciphertext associatedData, ∃ outcome,
    provider.aeadDecrypt key nonce ciphertext associatedData = Crypto.ofExcept outcome

theorem Provider.Functional.steady (functional : provider.Functional) (healthy : σ → Prop) :
    provider.Steady healthy := by
  have outcomes : ∀ {α : Type} {call : Crypto σ α},
      (∃ outcome, call = Crypto.ofExcept outcome) → Crypto.Steady healthy call := by
    rintro α _ ⟨outcome, rfl⟩
    exact (Crypto.steady_compositional healthy).ofExcept outcome
  constructor
  · exact fun _ _ => outcomes (functional.agrees _ _)
  · exact fun _ _ _ _ => outcomes (functional.derives _ _ _ _)
  · exact fun _ _ => outcomes (functional.macs _ _)
  · exact fun _ _ _ _ => outcomes (functional.opens _ _ _ _)

/-! ### Faults that have cleared -/

namespace Faulty

variable {α : Type} {call : Crypto σ α}

/-- No fault is left, and the wrapped provider is healthy. -/
def Cleared (healthy : σ → Prop) (state : Faulty σ) : Prop :=
  state.faults = [] ∧ healthy state.inner

theorem lift_steady (steady : Crypto.Steady healthy call) :
    Crypto.Steady (Cleared healthy) (lift call) := by
  intro before value after cleared result
  unfold lift at result
  cases called : call before.inner with
  | error failure inner =>
    rw [called] at result
    cases result
  | ok given inner =>
    rw [called] at result
    cases result
    obtain ⟨innerHealthy, again⟩ := steady _ _ _ cleared.2 called
    refine ⟨⟨cleared.1, innerHealthy⟩, fun other otherCleared => ?_⟩
    obtain ⟨otherInner, calledAgain⟩ := again other.inner otherCleared.2
    refine ⟨{ other with inner := otherInner }, ?_⟩
    simp only [lift, calledAgain]

theorem guarded_of_cleared {state : Faulty σ} (cleared : Cleared healthy state)
    (primitive : Primitive) (failure : Error) (change : FaultMode → α → α) :
    guarded primitive failure call change state = lift call state := by
  obtain ⟨inner, faults, randomCalls⟩ := state
  obtain ⟨rfl, _⟩ := cleared
  rfl

theorem guarded_steady (steady : Crypto.Steady healthy call) (primitive : Primitive)
    (failure : Error) (change : FaultMode → α → α) :
    Crypto.Steady (Cleared healthy) (guarded primitive failure call change) := by
  intro before value after cleared result
  rw [guarded_of_cleared cleared] at result
  obtain ⟨stillCleared, again⟩ := lift_steady steady _ _ _ cleared result
  refine ⟨stillCleared, fun other otherCleared => ?_⟩
  rw [guarded_of_cleared otherCleared]
  exact again other otherCleared

/-- A provider whose faults have cleared is as steady as the provider that it wraps. -/
theorem wrap_steady (steady : provider.Steady healthy) :
    (wrap provider).Steady (Cleared healthy) where
  agrees _ _ := guarded_steady (steady.agrees _ _) _ _ _
  derives _ _ _ _ := guarded_steady (steady.derives _ _ _ _) _ _ _
  macs _ _ := guarded_steady (steady.macs _ _) _ _ _
  opens _ _ _ _ := guarded_steady (steady.opens _ _ _ _) _ _ _

end Faulty

theorem Provider.transparent_functional : Provider.transparent.Functional where
  agrees _ _ := ⟨.ok _, rfl⟩
  derives _ _ _ _ := ⟨.ok _, rfl⟩
  macs _ _ := ⟨.ok _, rfl⟩
  opens _ _ _ _ := by
    simp only [Provider.transparent]
    split
    · exact ⟨.ok _, rfl⟩
    · exact ⟨.error _, rfl⟩

theorem Provider.transparent_steady : Provider.transparent.Steady (fun _ => True) :=
  Provider.transparent_functional.steady _

end RatchetMessaging
