import RatchetMessaging.Proofs.Identity.Derivation
import RatchetMessaging.Proofs.Identity.KeyOperations
import RatchetMessaging.Proofs.Identity.Genuine

/-!
Contract: the number of the signed pre-key is that of no one-time pre-key.

Owns:
- the identities that a party comes to: generated or derived, and then changed by operations, each
  with a provider of its own and also by those that fail;
- that the numbers stay apart along all operations, except by a rotation that draws the number of a
  one-time pre-key that is still there; and an identity for which it has.

Does not own: how likely such a number is.
-/

namespace RatchetMessaging

variable {σ : Type} {provider : Provider σ} {before after : σ}

/-! ### Batches -/

namespace OneTimePreKeys

variable {reserved id : UInt32} {preKeys result : OneTimePreKeys} {count : Nat}

/-- The keys of a new identity leave out the reserved number. -/
theorem contains_generateFrom_reserved {numbers : Nat}
    (generates : generateFrom provider reserved numbers count id preKeys before =
      .ok result after) (absent : preKeys.contains reserved = false) :
    result.contains reserved = false := by
  induction numbers generalizing count id preKeys before with
  | zero =>
    cases count with
    | zero =>
      obtain ⟨rfl, _⟩ := Crypto.pure_eq_ok.1 generates
      exact absent
    | succ count => simp [generateFrom] at generates
  | succ numbers inductionHypothesis =>
    cases count with
    | zero =>
      obtain ⟨rfl, _⟩ := Crypto.pure_eq_ok.1 generates
      exact absent
    | succ count =>
      unfold generateFrom at generates
      split at generates
      · rename_i free
        obtain ⟨keyPair, _, _, rest⟩ := Crypto.bind_eq_ok.1 generates
        refine inductionHypothesis rest (OrderedMap.contains_insert_eq_false.2 ⟨?_, absent⟩)
        simp only [isFree, Bool.and_eq_true, bne_iff_ne, ne_eq] at free
        exact free.1
      · exact inductionHypothesis generates absent

/-- So do the keys of a later batch, also of one that ends early. -/
theorem contains_addRandom_reserved {batch result : PreKeyBatch}
    (adds : addRandom provider reserved count batch before = .ok result after)
    (absent : batch.preKeys.contains reserved = false) :
    result.preKeys.contains reserved = false := by
  induction count generalizing batch before with
  | zero =>
    obtain ⟨rfl, _⟩ := Crypto.pure_eq_ok.1 adds
    exact absent
  | succ count inductionHypothesis =>
    unfold addRandom at adds
    split at adds
    · cases adds
      exact absent
    · rename_i generates
      refine inductionHypothesis adds (OrderedMap.contains_insert_eq_false.2 ⟨?_, absent⟩)
      exact (generateOne_eq_ok generates).notReserved

end OneTimePreKeys

theorem SignedPreKey.id_of_generate {id : UInt32} {signer : Ed25519KeyPair} {preKey : SignedPreKey}
    (generates : generate provider id signer before = .ok preKey after) : preKey.id = id := by
  simp only [generate, sign, Crypto.bind_eq_ok, Crypto.pure_eq_ok] at generates
  obtain ⟨_, _, _, _, _, _, rfl, _⟩ := generates
  rfl

namespace Identity

variable {identity later : Identity}

/-- The number of the signed pre-key is that of no one-time pre-key. -/
def NumbersApart (identity : Identity) : Prop :=
  identity.hasOneTimePreKey identity.signedPreKey.id = false

/-! ### New identities -/

theorem numbersApart_of_generate {count : Nat}
    (generates : generate provider count before = .ok identity after) : identity.NumbersApart := by
  simp only [generate, Crypto.bind_eq_ok, Crypto.pure_eq_ok] at generates
  obtain ⟨_, _, _, _, _, _, signedPreKey, _, isSigned, preKeys, _, arePreKeys, rfl, _⟩ := generates
  unfold NumbersApart hasOneTimePreKey
  rw [SignedPreKey.id_of_generate isSigned]
  exact OneTimePreKeys.contains_generateFrom_reserved arePreKeys rfl

/-- Derived one-time pre-keys are numbered from two on, and the signed one is the first. -/
theorem numbersApart_of_derive {masterKey membership : Bytes} {count : Nat}
    (derives : derive provider masterKey membership count before = .ok identity after) :
    identity.NumbersApart := by
  unfold NumbersApart
  rw [signedPreKey_id_of_derive derives, Bool.eq_false_iff]
  intro held
  have fromTwo := ((holdsNumbers_of_derive derives _).1 held).1
  exact absurd fromTwo (by decide)

/-! ### Operations -/

theorem numbersApart_consumeNamed (apart : identity.NumbersApart) (hello : Hello) :
    (identity.consumeNamed hello).NumbersApart := by
  have sameSigned : (identity.consumeNamed hello).signedPreKey = identity.signedPreKey := by
    unfold consumeNamed
    split <;> rfl
  unfold NumbersApart at apart ⊢
  rw [sameSigned, Bool.eq_false_iff]
  intro held
  rw [(hasOneTimePreKey_consumeNamed held).1] at apart
  cases apart

/-- A replenishment leaves out the number of the signed pre-key, also one that fails. -/
theorem numbersApart_replenish {target : Nat} {replenishment : Replenishment}
    (apart : identity.NumbersApart)
    (replenished : identity.replenish provider target before = .ok replenishment after) :
    replenishment.identity.NumbersApart := by
  rcases replenish_cases replenished with ⟨_, rfl⟩ | ⟨_, batch, added, same, _⟩
  · exact apart
  · rw [same]
    exact OneTimePreKeys.contains_addRandom_reserved added apart

/-- A rotation does not look at the one-time pre-keys. -/
theorem numbersApart_rotate {patience : Nat} {id : UInt32} {rotated : Identity}
    (rotates : identity.rotate provider patience before = .ok (some (id, rotated)) after) :
    rotated.NumbersApart ↔ identity.hasOneTimePreKey id = false := by
  obtain ⟨_, signedPreKey, _, generated, rfl⟩ := rotate_eq_ok rotates
  unfold NumbersApart hasOneTimePreKey
  rw [SignedPreKey.id_of_generate generated]

end Identity

/-! ### Outcomes -/

/-- What an operation has come to: the answer or the failure, and the keys afterwards. -/
structure KeyOutcome where
  answer : Except Error KeyAnswer
  identity : Identity

/-- The outcome of a computation on keys in place. -/
def KeyOutcome.ofResult : EStateM.Result Error (σ × Identity) KeyAnswer → KeyOutcome
  | .ok answer after => ⟨.ok answer, after.2⟩
  | .error failure after => ⟨.error failure, after.2⟩

/-- The outcome is not that of a rotation whose new number is that of a one-time pre-key. -/
def KeyOutcome.SparesNumbers (identity : Identity) (outcome : KeyOutcome) : Prop :=
  ∀ id, outcome.answer = .ok (.rotated (some id)) → identity.hasOneTimePreKey id = false

namespace KeyOperation

variable {identity : Identity}

/-- Carry the operation out on the keys. -/
def outcome (provider : Provider σ) (operation : KeyOperation) (identity : Identity) (before : σ) :
    KeyOutcome :=
  .ofResult (operation.perform provider (before, identity))

/-- An outcome that is not that of a rotation takes no number. -/
private theorem numbersApart_iff_of_kept {answer : Except Error KeyAnswer} {later : Identity}
    (apart : later.NumbersApart) (other : ∀ id, answer ≠ .ok (.rotated (some id))) :
    later.NumbersApart ↔ KeyOutcome.SparesNumbers identity ⟨answer, later⟩ :=
  iff_of_true apart (fun id rotated => absurd rotated (other id))

/-- It is enough to look at a computation that succeeds: after a failure nothing is installed. -/
private theorem numbersApart_install {computation : Crypto σ (KeyAnswer × Identity)}
    (apart : identity.NumbersApart)
    (succeeds : ∀ answer later after, computation before = .ok (answer, later) after →
      (later.NumbersApart ↔ KeyOutcome.SparesNumbers identity ⟨.ok answer, later⟩)) :
    (KeyOutcome.ofResult (InPlace.install computation (before, identity))).identity.NumbersApart ↔
      (KeyOutcome.ofResult (InPlace.install computation (before, identity))).SparesNumbers
        identity := by
  unfold InPlace.install
  cases result : computation before with
  | ok value after => exact succeeds value.1 value.2 after result
  | error failure after => exact numbersApart_iff_of_kept apart (by simp)

private theorem numbersApart_install_of_kept {α : Type} {computation : Crypto σ (α × Identity)}
    {answer : α → KeyAnswer} (apart : identity.NumbersApart)
    (other : ∀ value id, answer value ≠ .rotated (some id))
    (kept : ∀ value later after, computation before = .ok (value, later) after →
      later.NumbersApart) :
    let installed : InPlace σ KeyAnswer := InPlace.install (do
      let (value, later) ← computation
      return (answer value, later))
    (KeyOutcome.ofResult (installed (before, identity))).identity.NumbersApart ↔
      (KeyOutcome.ofResult (installed (before, identity))).SparesNumbers identity := by
  refine numbersApart_install apart (fun shown later after answered => ?_)
  obtain ⟨⟨value, _⟩, _, succeeds, returned⟩ := Crypto.bind_eq_ok.1 answered
  obtain ⟨same, _⟩ := Crypto.pure_eq_ok.1 returned
  cases same
  exact numbersApart_iff_of_kept (kept value later _ succeeds)
    (fun id rotated => other value id (Except.ok.inj rotated))

/-- One operation, with any provider and also when it fails: the numbers stay apart unless the
operation is a rotation that draws the number of a one-time pre-key. -/
theorem numbersApart_outcome (apart : identity.NumbersApart) (provider : Provider σ)
    (operation : KeyOperation) (before : σ) :
    (operation.outcome provider identity before).identity.NumbersApart ↔
      (operation.outcome provider identity before).SparesNumbers identity := by
  unfold outcome
  rw [perform_eq_attempt]
  cases operation with
  | prepareEphemeral =>
    refine numbersApart_install_of_kept apart (by simp) (fun _ _ _ prepares => ?_)
    obtain ⟨_, rfl⟩ := Identity.prepareEphemeral_eq_ok prepares
    exact apart
  | initiate remote info =>
    refine numbersApart_install_of_kept apart (by simp) (fun _ _ _ initiates => ?_)
    obtain rfl := Identity.initiate_eq_ok initiates
    exact apart
  | respond hello info =>
    refine numbersApart_install_of_kept apart (by simp) (fun _ _ _ responds => ?_)
    obtain ⟨_, _, _, returned⟩ := Crypto.bind_eq_ok.1 responds
    cases (Crypto.pure_eq_ok.1 returned).1
    exact Identity.numbersApart_consumeNamed apart hello
  | replenish target =>
    cases replenished : identity.replenish provider target before with
    | error failure after =>
      simp only [attempt, replenished]
      exact numbersApart_iff_of_kept apart (by simp)
    | ok replenishment after =>
      have kept := Identity.numbersApart_replenish apart replenished
      obtain ⟨later, answer⟩ := replenishment
      simp only [attempt, replenished]
      cases answer with
      | ok added => exact numbersApart_iff_of_kept kept (by simp)
      | error failure => exact numbersApart_iff_of_kept kept (by simp)
  | rotate patience =>
    refine numbersApart_install apart (fun answer later after rotated => ?_)
    obtain ⟨drawn, between, rotates, returned⟩ := Crypto.bind_eq_ok.1 rotated
    cases drawn with
    | none =>
      cases (Crypto.pure_eq_ok.1 returned).1
      exact numbersApart_iff_of_kept apart (by simp)
    | some drawn =>
      obtain ⟨id, rotated⟩ := drawn
      cases (Crypto.pure_eq_ok.1 returned).1
      rw [Identity.numbersApart_rotate rotates]
      constructor
      · rintro free _ ⟨⟩
        exact free
      · intro spares
        exact spares id rfl

end KeyOperation

/-! ### Histories -/

/-- The identities that a party comes to: a new one or one of a master key, and what operations make
of it. Each operation has a provider of its own, may fail, and has an outcome that is admitted. -/
inductive Identity.ReachedBy (admits : Identity → KeyOutcome → Prop) : Identity → Prop
  | generate {σ : Type} {provider : Provider σ} {count : Nat} {identity : Identity}
      {before after : σ}
      (generates : Identity.generate provider count before = .ok identity after) :
      ReachedBy admits identity
  | derive {σ : Type} {provider : Provider σ} {masterKey membership : Bytes} {count : Nat}
      {identity : Identity} {before after : σ}
      (derives : Identity.derive provider masterKey membership count before =
        .ok identity after) : ReachedBy admits identity
  | operate {σ : Type} {identity : Identity} (reached : ReachedBy admits identity)
      (provider : Provider σ) (operation : KeyOperation) (before : σ)
      (admitted : admits identity (operation.outcome provider identity before)) :
      ReachedBy admits (operation.outcome provider identity before).identity

theorem Identity.ReachedBy.numbersApart {identity : Identity}
    (reached : ReachedBy KeyOutcome.SparesNumbers identity) : identity.NumbersApart := by
  induction reached with
  | generate generates => exact numbersApart_of_generate generates
  | derive derives => exact numbersApart_of_derive derives
  | operate _ provider operation before spares inductionHypothesis =>
    exact (operation.numbersApart_outcome inductionHypothesis provider before).2 spares

namespace KeyOperation

/-- Whatever a party does with its keys and whatever is drawn, the number of the signed pre-key is
that of no one-time pre-key, as long as no rotation draws the number of a one-time pre-key that is
still there; and the first rotation that does so ends it. -/
theorem pre_key_numbers_stay_apart {identity : Identity}
    (reached : Identity.ReachedBy KeyOutcome.SparesNumbers identity) :
    identity.NumbersApart ∧
      ∀ {σ : Type} (provider : Provider σ) (operation : KeyOperation) (before : σ),
        (operation.outcome provider identity before).identity.NumbersApart ↔
          (operation.outcome provider identity before).SparesNumbers identity :=
  ⟨reached.numbersApart, fun provider operation before =>
    operation.numbersApart_outcome reached.numbersApart provider before⟩

/-- After a rotation the same number is drawn for a one-time pre-key, and passed over. -/
theorem pre_key_numbers_stay_apart_sample :
    ∃ (identity rotated : Identity) (generated : Nat),
      Identity.generate .transparent 1 0 = .ok identity generated ∧
      (rotate 1).outcome .transparent identity 2 = ⟨.ok (.rotated (some 0x02020202)), rotated⟩ ∧
      ((replenish 2).outcome .transparent rotated 258).answer =
        .ok (.replenished [0x03030303]) ∧
      ((replenish 2).outcome .transparent rotated 258).identity.NumbersApart := by
  obtain ⟨identity, rotated, generated, generates, rotates, free, replenishes⟩ :
      ∃ (identity rotated : Identity) (generated : Nat),
        Identity.generate .transparent 1 0 = .ok identity generated ∧
        (rotate 1).outcome .transparent identity 2 = ⟨.ok (.rotated (some 0x02020202)), rotated⟩ ∧
        identity.hasOneTimePreKey 0x02020202 = false ∧
        ((replenish 2).outcome .transparent rotated 258).answer =
          .ok (.replenished [0x03030303]) :=
    ⟨_, _, _, rfl, rfl, rfl, rfl⟩
  have spares : ((rotate 1).outcome .transparent identity 2).SparesNumbers identity := by
    rw [rotates]
    rintro _ ⟨⟩
    exact free
  have reached := (Identity.ReachedBy.generate generates).operate .transparent (rotate 1) 2 spares
  rw [rotates] at reached
  refine ⟨identity, rotated, generated, generates, rotates, replenishes, ?_⟩
  refine ((pre_key_numbers_stay_apart reached).2 .transparent (replenish 2) 258).2 ?_
  intro id isRotation
  rw [replenishes] at isRotation
  cases isRotation

/-- What is drawn repeats after 256 draws: a number that a replenishment has given to a one-time
pre-key is drawn for the signed pre-key. -/
theorem rotation_takes_number_of_one_time_pre_key :
    ∃ identity, Identity.ReachedBy (fun _ _ => True) identity ∧
      identity.signedPreKey.id = 0x02020202 ∧ identity.oneTimePreKeys.keys = [0x02020202] ∧
      ¬ identity.NumbersApart := by
  obtain ⟨fresh, generated, generates, number, numbers, together⟩ :
      ∃ (fresh : Identity) (generated : Nat),
        Identity.generate .transparent 0 0 = .ok fresh generated ∧
        ((rotate 1).outcome .transparent
          ((replenish 1).outcome .transparent fresh 2).identity 258).identity.signedPreKey.id =
            0x02020202 ∧
        ((rotate 1).outcome .transparent
          ((replenish 1).outcome .transparent fresh 2).identity 258).identity.oneTimePreKeys.keys =
            [0x02020202] ∧
        ((rotate 1).outcome .transparent
          ((replenish 1).outcome .transparent fresh 2).identity 258).identity.hasOneTimePreKey
            0x02020202 = true :=
    ⟨_, _, rfl, rfl, rfl, rfl⟩
  have isFresh : Identity.ReachedBy (fun _ _ => True) fresh := .generate generates
  have replenished := isFresh.operate .transparent (replenish 1) 2 trivial
  refine ⟨_, replenished.operate .transparent (rotate 1) 258 trivial, number, numbers, ?_⟩
  unfold Identity.NumbersApart
  rw [number, together]
  exact Bool.noConfusion

end KeyOperation

end RatchetMessaging
