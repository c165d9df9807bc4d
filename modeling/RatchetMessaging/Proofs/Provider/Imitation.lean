import RatchetMessaging.Provider.Faulty
import RatchetMessaging.Proofs.Provider.Agreeing

/-!
Contract: a provider that fails on demand is good as long as it does not fail.

Owns:
- a guarded call that succeeds has the value of the call that it guards, repaired or not;
- a wrapped provider imitates the provider that it wraps.

Does not own: how often a provider fails.
-/

namespace RatchetMessaging

variable {σ α : Type} {provider : Provider σ} {primitives : Primitives}

namespace Faulty

variable {call : Crypto σ α} {before after : Faulty σ} {value : α}

theorem lift_eq_ok (lifted : lift call before = .ok value after) :
    ∃ inner, call before.inner = .ok value inner := by
  unfold lift at lifted
  cases called : call before.inner with
  | error failure inner =>
    rw [called] at lifted
    cases lifted
  | ok given inner =>
    rw [called] at lifted
    cases lifted
    exact ⟨inner, rfl⟩

theorem guarded_eq_ok {primitive : Primitive} {failure : Error} {change : FaultMode → α → α}
    (succeeded : guarded primitive failure call change before = .ok value after) :
    ∃ given innerBefore innerAfter, call innerBefore = .ok given innerAfter ∧
      (value = given ∨ ∃ mode, value = change mode given) := by
  simp only [guarded, Crypto.bind_eq_ok] at succeeded
  obtain ⟨entered, between, _, succeeded⟩ := succeeded
  have repaired : ∀ mode, (change mode <$> lift call) between = .ok value after →
      ∃ given innerBefore innerAfter, call innerBefore = .ok given innerAfter ∧
        (value = given ∨ ∃ mode, value = change mode given) := by
    intro mode mapped
    rw [map_eq_pure_bind] at mapped
    obtain ⟨given, _, lifted, returned⟩ := Crypto.bind_eq_ok.1 mapped
    obtain ⟨rfl, _⟩ := Crypto.pure_eq_ok.1 returned
    obtain ⟨_, called⟩ := lift_eq_ok lifted
    exact ⟨given, _, _, called, .inr ⟨mode, rfl⟩⟩
  cases entered with
  | none =>
    obtain ⟨_, called⟩ := lift_eq_ok succeeded
    exact ⟨value, _, _, called, .inl rfl⟩
  | some mode =>
    cases mode with
    | error => exact absurd succeeded Crypto.throw_ne_ok
    | zero => exact repaired .zero succeeded
    | corrupt => exact repaired .corrupt succeeded
    | reject => exact repaired .reject succeeded

/-- A call whose value is never repaired has the value of the call that it guards. -/
theorem guarded_eq_ok_of_unrepaired {primitive : Primitive} {failure : Error}
    (succeeded : guarded primitive failure call (fun _ given => given) before = .ok value after) :
    ∃ innerBefore innerAfter, call innerBefore = .ok value innerAfter := by
  obtain ⟨given, _, _, called, rfl | ⟨_, rfl⟩⟩ := guarded_eq_ok succeeded <;>
    exact ⟨_, _, called⟩

/-- What comes out of a wrapped provider is good for the provider that it wraps, whatever faults
are to come. -/
theorem wrap_imitates (agreeing : provider.Agreeing primitives) :
    (wrap provider).Imitates provider primitives where
  publishes secret _ _ _ published := by
    obtain ⟨_, _, called⟩ := guarded_eq_ok_of_unrepaired published
    exact agreeing.publishes secret _ _ _ called
  seeds made := by
    obtain ⟨_, _, paired, returned⟩ := Crypto.bind_eq_ok.1 made
    obtain ⟨_, _, called⟩ := guarded_eq_ok_of_unrepaired paired
    obtain ⟨rfl, _⟩ := Crypto.pure_eq_ok.1 returned
    exact ⟨_, _, _, Crypto.bind_eq_ok.2 ⟨_, _, called, rfl⟩⟩
  signs vouching _ _ _ _ _ seeded signed := by
    obtain ⟨_, _, isSigned, returned⟩ := Crypto.bind_eq_ok.1 signed
    obtain ⟨_, _, called⟩ := guarded_eq_ok_of_unrepaired isSigned
    obtain ⟨rfl, _⟩ := Crypto.pure_eq_ok.1 returned
    exact vouching.accepts seeded (Crypto.bind_eq_ok.2 ⟨_, _, called, rfl⟩)
  verifies vouching _ _ _ _ _ verified := by
    obtain ⟨given, _, _, called, same⟩ := guarded_eq_ok verified
    have isTrue : given = true := by
      obtain rfl | ⟨_, repaired⟩ := same
      · rfl
      · exact (Bool.and_eq_true_iff.1 repaired.symm).1
    subst isTrue
    exact vouching.steady called

end Faulty

end RatchetMessaging
