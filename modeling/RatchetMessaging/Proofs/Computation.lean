import RatchetMessaging.Provider

/-!
Contract: reasoning about computations that call primitives.

Owns:
- what a computation that succeeds has done, one step at a time, and a sequence whose first step
  is known; the value of one, if it succeeds;
- `Crypto.Returns`, for computations that give the same value from every state of the
  provider, `Crypto.Succeeds`, for those that never fail, `Crypto.Steady`, for those that give
  the same again, and the composition of each along a sequence of steps.

Does not own: any computation.
-/

namespace RatchetMessaging.Crypto

variable {σ α β : Type}

/-! ### Computations that succeed -/

theorem bind_eq_ok {first : Crypto σ α} {next : α → Crypto σ β} {before after : σ} {value : β} :
    (first >>= next) before = .ok value after ↔
      ∃ middle between, first before = .ok middle between ∧
        next middle between = .ok value after := by
  change EStateM.bind first next before = _ ↔ _
  unfold EStateM.bind
  cases first before with
  | ok middle between =>
    constructor
    · intro rest
      exact ⟨middle, between, rfl, rest⟩
    · rintro ⟨_, _, same, rest⟩
      cases same
      exact rest
  | error failure between => simp

theorem bind_eq_error {first : Crypto σ α} {next : α → Crypto σ β} {before after : σ}
    {failure : Error} :
    (first >>= next) before = .error failure after ↔
      first before = .error failure after ∨
        ∃ middle between, first before = .ok middle between ∧
          next middle between = .error failure after := by
  change EStateM.bind first next before = _ ↔ _
  unfold EStateM.bind
  cases first before with
  | ok middle between =>
    constructor
    · intro rest
      exact .inr ⟨middle, between, rfl, rest⟩
    · rintro (failed | ⟨_, _, same, rest⟩)
      · cases failed
      · cases same
        exact rest
  | error failure between => simp

theorem bind_of_ok {first : Crypto σ α} {before between : σ} {middle : α}
    (firstResult : first before = .ok middle between) (next : α → Crypto σ β) :
    (first >>= next) before = next middle between := by
  change EStateM.bind first next before = _
  simp [EStateM.bind, firstResult]

theorem bind_of_error {first : Crypto σ α} {before after : σ} {failure : Error}
    (firstResult : first before = .error failure after) (next : α → Crypto σ β) :
    (first >>= next) before = .error failure after := by
  change EStateM.bind first next before = _
  simp [EStateM.bind, firstResult]

theorem pure_eq_ok {given value : α} {before after : σ} :
    (pure given : Crypto σ α) before = .ok value after ↔ given = value ∧ before = after := by
  change EStateM.pure given before = _ ↔ _
  simp [EStateM.pure]

@[simp] theorem throw_ne_ok {failure : Error} {value : α} {before after : σ} :
    (throw failure : Crypto σ α) before ≠ .ok value after := by
  change EStateM.Result.error failure before ≠ _
  simp

theorem ofExcept_eq_ok {check : Except Error α} {value : α} {before after : σ} :
    (ofExcept check : Crypto σ α) before = .ok value after ↔
      check = .ok value ∧ before = after := by
  cases check with
  | ok given => simpa [ofExcept] using pure_eq_ok
  | error failure => simp [ofExcept]

/-- The value of a computation, if it succeeds. -/
def value? (computation : Crypto σ α) (before : σ) : Option α :=
  match computation before with
  | .ok value _ => some value
  | .error _ _ => none

theorem eq_ok_of_value? {computation : Crypto σ α} {before : σ} {value : α}
    (succeeds : computation.value? before = some value) :
    ∃ after, computation before = .ok value after := by
  unfold value? at succeeds
  cases outcome : computation before with
  | ok other after =>
    rw [outcome] at succeeds
    cases succeeds
    exact ⟨after, rfl⟩
  | error failure after =>
    rw [outcome] at succeeds
    cases succeeds

/-! ### Computations with one value -/

/-- From every state of the provider the computation succeeds with the same value. -/
def Returns (computation : Crypto σ α) (value : α) : Prop :=
  ∀ before, ∃ after, computation before = .ok value after

theorem Returns.eq_of_ok {computation : Crypto σ α} {expected value : α} {before after : σ}
    (returns : Returns computation expected) (succeeded : computation before = .ok value after) :
    value = expected := by
  obtain ⟨_, result⟩ := returns before
  rw [succeeded] at result
  cases result
  rfl

theorem returns_pure (value : α) : Returns (pure value : Crypto σ α) value :=
  fun before => ⟨before, rfl⟩

theorem returns_ofExcept {check : Except Error α} {value : α} (passed : check = .ok value) :
    Returns (ofExcept check : Crypto σ α) value := by
  subst passed
  exact returns_pure value

theorem Returns.bind {first : Crypto σ α} {next : α → Crypto σ β} {middle : α} {value : β}
    (firstReturns : Returns first middle) (nextReturns : Returns (next middle) value) :
    Returns (first >>= next) value := by
  intro before
  obtain ⟨between, firstResult⟩ := firstReturns before
  obtain ⟨after, nextResult⟩ := nextReturns between
  exact ⟨after, bind_eq_ok.2 ⟨middle, between, firstResult, nextResult⟩⟩

theorem Returns.exists_bind {first : Crypto σ α} {next : α → Crypto σ β}
    (firstReturns : ∃ middle, Returns first middle)
    (nextReturns : ∀ middle, Returns first middle → ∃ value, Returns (next middle) value) :
    ∃ value, Returns (first >>= next) value := by
  obtain ⟨middle, isMiddle⟩ := firstReturns
  obtain ⟨value, isValue⟩ := nextReturns middle isMiddle
  exact ⟨value, isMiddle.bind isValue⟩

/-! ### Computations that do not fail -/

/-- From every state of the provider the computation succeeds. -/
def Succeeds (computation : Crypto σ α) : Prop :=
  ∀ before, ∃ value after, computation before = .ok value after

theorem Returns.succeeds {computation : Crypto σ α} {value : α}
    (returns : Returns computation value) : Succeeds computation := by
  intro before
  obtain ⟨after, result⟩ := returns before
  exact ⟨value, after, result⟩

theorem succeeds_pure (value : α) : Succeeds (pure value : Crypto σ α) :=
  (returns_pure value).succeeds

/-- What follows has to succeed for the values that the first step can give. -/
theorem Succeeds.bind {first : Crypto σ α} {next : α → Crypto σ β}
    (firstSucceeds : Succeeds first)
    (nextSucceeds : ∀ value, (∃ before after, first before = .ok value after) →
      Succeeds (next value)) :
    Succeeds (first >>= next) := by
  intro before
  obtain ⟨middle, between, firstResult⟩ := firstSucceeds before
  obtain ⟨value, after, nextResult⟩ := nextSucceeds middle ⟨_, _, firstResult⟩ between
  exact ⟨value, after, bind_eq_ok.2 ⟨middle, between, firstResult, nextResult⟩⟩

/-- After a step with one value only that value matters. -/
theorem Returns.bind_succeeds {first : Crypto σ α} {next : α → Crypto σ β} {middle : α}
    (firstReturns : Returns first middle) (nextSucceeds : Succeeds (next middle)) :
    Succeeds (first >>= next) := by
  intro before
  obtain ⟨between, firstResult⟩ := firstReturns before
  obtain ⟨value, after, nextResult⟩ := nextSucceeds between
  exact ⟨value, after, bind_eq_ok.2 ⟨middle, between, firstResult, nextResult⟩⟩

/-! ### Computations that give the same again -/

/-- What succeeds from one healthy state of the provider leaves a healthy state, and succeeds with
the same value from every other. -/
def Steady (healthy : σ → Prop) (computation : Crypto σ α) : Prop :=
  ∀ before value after, healthy before → computation before = .ok value after →
    healthy after ∧ ∀ other, healthy other → ∃ otherAfter, computation other = .ok value otherAfter

theorem steady_pure (healthy : σ → Prop) (value : α) :
    Steady healthy (pure value : Crypto σ α) := by
  intro _ _ _ isHealthy result
  obtain ⟨rfl, rfl⟩ := pure_eq_ok.1 result
  exact ⟨isHealthy, fun other _ => ⟨other, rfl⟩⟩

theorem steady_throw (healthy : σ → Prop) (failure : Error) :
    Steady healthy (throw failure : Crypto σ α) :=
  fun _ _ _ _ result => absurd result throw_ne_ok

theorem Steady.bind {healthy : σ → Prop} {first : Crypto σ α} {next : α → Crypto σ β}
    (firstSteady : Steady healthy first) (nextSteady : ∀ middle, Steady healthy (next middle)) :
    Steady healthy (first >>= next) := by
  intro before value after isHealthy result
  obtain ⟨middle, between, firstResult, nextResult⟩ := bind_eq_ok.1 result
  obtain ⟨stillHealthy, firstAgain⟩ := firstSteady _ _ _ isHealthy firstResult
  obtain ⟨healthyAfter, nextAgain⟩ := nextSteady middle _ _ _ stillHealthy nextResult
  refine ⟨healthyAfter, fun other otherHealthy => ?_⟩
  obtain ⟨otherBetween, otherFirst⟩ := firstAgain other otherHealthy
  obtain ⟨otherAfter, otherNext⟩ :=
    nextAgain otherBetween (firstSteady _ _ _ otherHealthy otherFirst).1
  exact ⟨otherAfter, bind_eq_ok.2 ⟨middle, otherBetween, otherFirst, otherNext⟩⟩

end RatchetMessaging.Crypto
