import RatchetMessaging.Identity.Upkeep
import RatchetMessaging.Provider.Faulty
import RatchetMessaging.Proofs.Identity.Additions
import RatchetMessaging.Proofs.Provider.Queries

/-!
Contract: how many numbers are drawn for a new pre-key.

Owns:
- `Provider.drawUntil`, the drawing of numbers until one suits, of which both the number of a
  one-time pre-key and that of a signed pre-key are cases;
- `Provider.PassesOver`, for a provider whose next numbers all do not suit, and
  `Crypto.EndsAfter`, for a drawing that comes to its end by itself;
- the number of a one-time pre-key is chosen or given up after a fixed number of draws, and the
  drawing for a signed pre-key ends exactly as soon as a draw fails or suits.

Does not own: which numbers a source draws.
-/

namespace RatchetMessaging

variable {σ : Type} {provider : Provider σ} {suits : UInt32 → Bool} {before after : σ}
  {count : Nat} {id : UInt32}

open Crypto

/-! ### Drawing until a number suits -/

namespace Provider

/-- Draw numbers until one suits, `draws` times at most. -/
def drawUntil (provider : Provider σ) (suits : UInt32 → Bool) :
    (draws : Nat) → Crypto σ (Option UInt32)
  | 0 => pure none
  | draws + 1 => do
    let id ← provider.randomWord
    if suits id then
      return some id
    else
      drawUntil provider suits draws

/-- The next `count` numbers can be drawn, and none of them suits. -/
inductive PassesOver (provider : Provider σ) (suits : UInt32 → Bool) : Nat → σ → σ → Prop
  | start {before : σ} : PassesOver provider suits 0 before before
  | next {count : Nat} {before between after : σ} {id : UInt32}
      (drawn : provider.randomWord before = .ok id between) (unsuitable : suits id = false)
      (rest : PassesOver provider suits count between after) :
      PassesOver provider suits (count + 1) before after

theorem randomWord_logging (provider : Provider σ) (before : σ) (earlier : List Query) :
    provider.logging.randomWord (before, earlier) =
      withQueries (earlier ++ [.randomBytes 4]) (provider.randomWord before) :=
  withQueries_bind rfl fun _ _ => rfl

section Steps

variable {between : σ} {failure : Error}

theorem drawUntil_of_suitable (drawn : provider.randomWord before = .ok id after)
    (suitable : suits id = true) (draws : Nat) :
    provider.drawUntil suits (draws + 1) before = .ok (some id) after := by
  rw [drawUntil, bind_of_ok drawn, if_pos suitable]
  rfl

theorem drawUntil_of_unsuitable (drawn : provider.randomWord before = .ok id between)
    (unsuitable : suits id = false) (draws : Nat) :
    provider.drawUntil suits (draws + 1) before = provider.drawUntil suits draws between := by
  rw [drawUntil, bind_of_ok drawn, if_neg (Bool.eq_false_iff.1 unsuitable)]

theorem drawUntil_logging_of_unsuitable (drawn : provider.randomWord before = .ok id between)
    (unsuitable : suits id = false) (draws : Nat) (earlier : List Query) :
    provider.logging.drawUntil suits (draws + 1) (before, earlier) =
      provider.logging.drawUntil suits draws (between, earlier ++ [.randomBytes 4]) := by
  have logs := provider.randomWord_logging before earlier
  rw [drawn] at logs
  exact drawUntil_of_unsuitable logs unsuitable draws

theorem drawUntil_of_failure (failed : provider.randomWord before = .error failure after)
    (draws : Nat) : provider.drawUntil suits (draws + 1) before = .error failure after := by
  rw [drawUntil, bind_of_error failed]

end Steps

end Provider

/-! ### The end of a drawing -/

/-- With enough patience the drawing comes to an outcome of its own, a number or a failure, after
`count` draws, and more patience changes nothing. -/
def Crypto.EndsAfter (logging : Nat → Crypto (σ × List Query) (Option UInt32))
    (plain : Nat → Crypto σ (Option UInt32)) (before : σ) (count : Nat) : Prop :=
  ∃ outcome, (∀ after, outcome ≠ .ok none after) ∧
    ∀ patience, count ≤ patience → plain patience before = outcome ∧
      ∀ earlier, logging patience (before, earlier) =
        withQueries (earlier ++ List.replicate count (.randomBytes 4)) outcome

namespace Provider

/-- A draw that suits or fails ends the drawing. -/
theorem endsAfter_one {outcome : EStateM.Result Error σ (Option UInt32)}
    (comesTo : ∀ after, outcome ≠ .ok none after)
    (plain : ∀ draws, provider.drawUntil suits (draws + 1) before = outcome)
    (logging : ∀ draws earlier, provider.logging.drawUntil suits (draws + 1) (before, earlier) =
      withQueries (earlier ++ [.randomBytes 4]) outcome) :
    EndsAfter (provider.logging.drawUntil suits) (provider.drawUntil suits) before 1 := by
  refine ⟨outcome, comesTo, fun patience enough => ?_⟩
  obtain ⟨draws, rfl⟩ := Nat.exists_eq_add_of_le' enough
  exact ⟨plain draws, logging draws⟩

theorem endsAfter_succ {between : σ} (drawn : provider.randomWord before = .ok id between)
    (unsuitable : suits id = false)
    (ends : EndsAfter (provider.logging.drawUntil suits) (provider.drawUntil suits) between count) :
    EndsAfter (provider.logging.drawUntil suits) (provider.drawUntil suits) before (count + 1) := by
  obtain ⟨outcome, comesTo, reached⟩ := ends
  refine ⟨outcome, comesTo, fun patience enough => ?_⟩
  obtain ⟨draws, rfl⟩ := Nat.exists_eq_add_of_le' (Nat.le_of_add_left_le enough)
  obtain ⟨plain, logging⟩ := reached draws (by omega)
  refine ⟨(drawUntil_of_unsuitable drawn unsuitable draws).trans plain, fun earlier => ?_⟩
  rw [drawUntil_logging_of_unsuitable drawn unsuitable, logging, List.append_assoc]
  rfl

/-- Numbers that are passed over are all drawn. -/
theorem PassesOver.drawUntil (passes : provider.PassesOver suits count before after) :
    provider.drawUntil suits count before = .ok none after ∧
      ∀ earlier, provider.logging.drawUntil suits count (before, earlier) =
        withQueries (earlier ++ List.replicate count (.randomBytes 4)) (.ok none after) := by
  induction passes with
  | start =>
    refine ⟨rfl, fun earlier => ?_⟩
    rw [List.replicate_zero, List.append_nil]
    rfl
  | @next count before between after id drawn unsuitable rest inductionHypothesis =>
    obtain ⟨plain, logging⟩ := inductionHypothesis
    refine ⟨(drawUntil_of_unsuitable drawn unsuitable count).trans plain, fun earlier => ?_⟩
    rw [drawUntil_logging_of_unsuitable drawn unsuitable, logging, List.append_assoc]
    rfl

/-- Within a bound all numbers are passed over, or the drawing ends. -/
theorem passesOver_or_endsAfter (provider : Provider σ) (suits : UInt32 → Bool) (bound : Nat)
    (before : σ) :
    (∃ after, provider.PassesOver suits bound before after) ∨
      ∃ count ≤ bound,
        EndsAfter (provider.logging.drawUntil suits) (provider.drawUntil suits) before count := by
  induction bound generalizing before with
  | zero => exact .inl ⟨before, .start⟩
  | succ bound inductionHypothesis =>
    -- Only a draw that is passed over leaves the decision to the others.
    have logs := provider.randomWord_logging before
    cases draw : provider.randomWord before with
    | error failure after =>
      simp only [draw] at logs
      refine .inr ⟨1, Nat.le_add_left 1 bound, ?_⟩
      exact endsAfter_one (by simp) (drawUntil_of_failure draw) fun draws earlier =>
        drawUntil_of_failure (logs earlier) draws
    | ok id between =>
      simp only [draw] at logs
      cases suited : suits id with
      | true =>
        refine .inr ⟨1, Nat.le_add_left 1 bound, ?_⟩
        exact endsAfter_one (by simp) (drawUntil_of_suitable draw suited) fun draws earlier =>
          drawUntil_of_suitable (logs earlier) suited draws
      | false =>
        obtain ⟨after, rest⟩ | ⟨count, few, ends⟩ := inductionHypothesis between
        · exact .inl ⟨after, .next draw suited rest⟩
        · exact .inr ⟨count + 1, Nat.succ_le_succ few, endsAfter_succ draw suited ends⟩

/-- A drawing has ended within a number of draws unless they are all passed over. -/
theorem endsAfter_iff (provider : Provider σ) (suits : UInt32 → Bool) (bound : Nat) (before : σ) :
    (∃ count ≤ bound,
      EndsAfter (provider.logging.drawUntil suits) (provider.drawUntil suits) before count) ↔
      ¬ ∃ after, provider.PassesOver suits bound before after := by
  constructor
  · rintro ⟨count, few, outcome, comesTo, reached⟩ ⟨after, passes⟩
    exact comesTo after ((reached bound few).1.symm.trans passes.drawUntil.1)
  · exact (passesOver_or_endsAfter provider suits bound before).resolve_left

/-- Within a bound there are no more draws than the bound. -/
theorem drawUntil_draws (provider : Provider σ) (suits : UInt32 → Bool) (bound : Nat)
    (before : σ) :
    ∃ count ≤ bound, ∀ earlier, provider.logging.drawUntil suits bound (before, earlier) =
      withQueries (earlier ++ List.replicate count (.randomBytes 4))
        (provider.drawUntil suits bound before) := by
  obtain ⟨after, passes⟩ | ⟨count, few, outcome, _, reached⟩ :=
    passesOver_or_endsAfter provider suits bound before
  · obtain ⟨plain, logging⟩ := passes.drawUntil
    rw [plain]
    exact ⟨bound, Nat.le_refl bound, logging⟩
  · obtain ⟨plain, logging⟩ := reached bound few
    rw [plain]
    exact ⟨count, few, logging⟩

end Provider

/-! ### The two drawings -/

/-- What comes of the drawing for a one-time pre-key. -/
def OneTimePreKeys.chosenId : Option UInt32 → Except Error UInt32
  | some id => .ok id
  | none => .error (.keyGeneration "could not find an unused one-time pre-key id")

theorem OneTimePreKeys.drawFreeId_eq (provider : Provider σ) (preKeys : OneTimePreKeys)
    (reserved : UInt32) (draws : Nat) :
    drawFreeId provider preKeys reserved draws =
      provider.drawUntil (fun id => firstOneTimePreKeyId ≤ id && isFree preKeys reserved id) draws
        >>= fun drawn => Crypto.ofExcept (chosenId drawn) := by
  induction draws with
  | zero => rfl
  | succ draws inductionHypothesis =>
    rw [drawFreeId, Provider.drawUntil, inductionHypothesis, bind_assoc]
    refine bind_congr fun id => ?_
    split <;> rfl

/-- The number of a one-time pre-key is chosen or given up after `draws` draws at most. -/
theorem OneTimePreKeys.drawFreeId_draws (provider : Provider σ) (preKeys : OneTimePreKeys)
    (reserved : UInt32) (draws : Nat) (before : σ) :
    ∃ count ≤ draws, ∀ earlier,
      drawFreeId provider.logging preKeys reserved draws (before, earlier) =
        withQueries (earlier ++ List.replicate count (.randomBytes 4))
          (drawFreeId provider preKeys reserved draws before) := by
  rw [drawFreeId_eq, drawFreeId_eq]
  obtain ⟨count, few, logging⟩ := provider.drawUntil_draws
    (fun id => firstOneTimePreKeyId ≤ id && isFree preKeys reserved id) draws before
  refine ⟨count, few, fun earlier => withQueries_bind (logging earlier) fun drawn _ => ?_⟩
  cases drawn <;> rfl

namespace Identity

/-- A number that a new signed pre-key can have. -/
def isNewId (current id : UInt32) : Bool := id != 0 && id != current

theorem drawSignedPreKeyId_eq (provider : Provider σ) (current : UInt32) :
    drawSignedPreKeyId provider current = provider.drawUntil (isNewId current) := by
  funext patience
  induction patience with
  | zero => rfl
  | succ patience inductionHypothesis =>
    rw [drawSignedPreKeyId, Provider.drawUntil, inductionHypothesis]
    simp only [isNewId, Bool.and_eq_true, bne_iff_ne]

/-- With any provider the number of a one-time pre-key is chosen, or its choice given up, after 64
draws at most. The number of a new signed pre-key is not bounded in this way: its drawing has come
to a number or a failure within a number of draws exactly if those draws are not all passed over,
that is, do not all give zero or the current number. -/
theorem number_draws_end_unless_passed_over (provider : Provider σ) (preKeys : OneTimePreKeys)
    (reserved current : UInt32) (before : σ) :
    (∃ count ≤ OneTimePreKeys.maxIdDraws, ∀ earlier,
      OneTimePreKeys.drawFreeId provider.logging preKeys reserved OneTimePreKeys.maxIdDraws
          (before, earlier) =
        withQueries (earlier ++ List.replicate count (.randomBytes 4))
          (OneTimePreKeys.drawFreeId provider preKeys reserved OneTimePreKeys.maxIdDraws
            before)) ∧
    ∀ bound,
      (∃ count ≤ bound, EndsAfter (drawSignedPreKeyId provider.logging current)
        (drawSignedPreKeyId provider current) before count) ↔
        ¬ ∃ after, provider.PassesOver (isNewId current) bound before after := by
  refine ⟨OneTimePreKeys.drawFreeId_draws provider preKeys reserved _ before, fun bound => ?_⟩
  rw [drawSignedPreKeyId_eq, drawSignedPreKeyId_eq]
  exact provider.endsAfter_iff (isNewId current) bound before

/-- A source whose every answer is zeros. -/
def stuckSource : Faulty Nat := ⟨0, [⟨.random, .zero, 0⟩], 0⟩

/-- Zeros are passed over, as many as are drawn. -/
theorem passesOver_of_zeros {current : UInt32} (before : Faulty Nat)
    (stuck : before.faults = stuckSource.faults) (count : Nat) :
    ∃ after, (Faulty.wrap .transparent).PassesOver (isNewId current) count before after := by
  induction count generalizing before with
  | zero => exact ⟨before, .start⟩
  | succ count inductionHypothesis =>
    obtain ⟨drawn, faults, calls⟩ := before
    obtain rfl : faults = stuckSource.faults := stuck
    have zero : (Faulty.wrap .transparent).randomWord ⟨drawn, stuckSource.faults, calls⟩ =
        .ok 0 ⟨drawn + 1, stuckSource.faults, calls + 1⟩ := rfl
    obtain ⟨after, rest⟩ := inductionHypothesis ⟨drawn + 1, stuckSource.faults, calls + 1⟩ rfl
    exact ⟨after, .next zero rfl rest⟩

/-- With a stuck source the rotation of a live identity never comes to an end: however many draws
it is given, they are all made, and there is still neither a number nor a failure. -/
theorem rotation_never_ends_on_stuck_source :
    ¬ ∃ patience, ∀ after, sampleWithOne.rotate (Faulty.wrap .transparent).logging patience
      (stuckSource, []) ≠ .ok none (after, List.replicate patience (.randomBytes 4)) := by
  rintro ⟨patience, comesTo⟩
  obtain ⟨after, passes⟩ := passesOver_of_zeros stuckSource rfl patience
  refine comesTo after ?_
  have logs := passes.drawUntil.2 []
  rw [← drawSignedPreKeyId_eq] at logs
  have live : sampleWithOne.ensureLive = .ok () := rfl
  rw [rotate, live]
  exact bind_of_ok logs _

end Identity

end RatchetMessaging
