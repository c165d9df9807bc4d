import RatchetMessaging.Proofs.Key

/-!
Contract: reads that accept exactly what satisfies a condition.

Owns:
- `Crypto.Admits`, for computations that succeed if a condition holds and otherwise refuse what
  they read as malformed, and its composition along steps, checks and lists;
- `Provider.Computes`, for a provider that computes given functions and never fails;
- the conditions under which stored keys, key pairs and signed pre-keys are accepted.

Does not own: the records that these are read from.
-/

namespace RatchetMessaging

variable {σ α β : Type}

/-! ### Computations that accept or refuse -/

namespace Crypto

theorem ofExcept_bind (check : Except Error α) (next : α → Except Error β) :
    (ofExcept (check >>= next) : Crypto σ β) =
      ofExcept check >>= fun value => ofExcept (next value) := by
  cases check <;> rfl

theorem ofExcept_map (check : Except Error α) (result : α → β) :
    (ofExcept (check.map result) : Crypto σ β) =
      ofExcept check >>= fun value => pure (result value) := by
  cases check <;> rfl

/-- The computation succeeds if the condition holds, and otherwise refuses what it reads. -/
structure Admits (condition : Prop) (computation : Crypto σ α) : Prop where
  accepts : condition → Succeeds computation
  refuses : ¬ condition → ∀ before, ∃ detail after,
    computation before = .error (.decode detail) after

namespace Admits

variable {condition further : Prop} {computation : Crypto σ α} {next : α → Crypto σ β}

theorem eq_ok_iff (admits : Admits condition computation) (before : σ) :
    (∃ value after, computation before = .ok value after) ↔ condition := by
  refine ⟨fun ⟨value, after, succeeded⟩ => ?_, fun holds => admits.accepts holds before⟩
  refine Classical.not_not.1 fun fails => ?_
  obtain ⟨_, _, refused⟩ := admits.refuses fails before
  rw [succeeded] at refused
  cases refused

theorem congr (admits : Admits condition computation) (same : condition ↔ further) :
    Admits further computation where
  accepts holds := admits.accepts (same.2 holds)
  refuses fails := admits.refuses fun holds => fails (same.1 holds)

theorem of_returns {value : α} (returns : Returns computation value) : Admits True computation where
  accepts _ := returns.succeeds
  refuses never := absurd trivial never

theorem of_throw (detail : String) (fails : ¬ condition) :
    Admits condition (throw (.decode detail) : Crypto σ α) where
  accepts holds := absurd holds fails
  refuses _ before := ⟨detail, before, rfl⟩

/-- What follows is asked for the values that the first step can give. -/
theorem bind (first : Admits condition computation)
    (rest : ∀ value, (∃ before after, computation before = .ok value after) →
      Admits further (next value)) :
    Admits (condition ∧ further) (computation >>= next) where
  accepts holds := (first.accepts holds.1).bind fun value gives =>
    (rest value gives).accepts holds.2
  refuses fails before := by
    by_cases holds : condition
    · obtain ⟨value, between, succeeded⟩ := first.accepts holds before
      obtain ⟨detail, after, refused⟩ :=
        (rest value ⟨_, _, succeeded⟩).refuses (fun further => fails ⟨holds, further⟩) between
      exact ⟨detail, after, (bind_of_ok succeeded next).trans refused⟩
    · obtain ⟨detail, after, refused⟩ := first.refuses holds before
      exact ⟨detail, after, bind_of_error refused next⟩

/-- A step that only puts a value together refuses nothing more. -/
theorem bind_pure (admits : Admits condition computation) (result : α → β) :
    Admits condition (computation >>= fun value => pure (result value)) :=
  (admits.bind fun _ _ => of_returns (returns_pure _)).congr (and_iff_left trivial)

/-- A step with one value leaves the decision to what follows. -/
theorem of_bind_returns {value : α} (returns : Returns computation value)
    (rest : Admits condition (next value)) : Admits condition (computation >>= next) := by
  refine ((of_returns returns).bind fun other ⟨_, _, gives⟩ => ?_).congr (and_iff_right trivial)
  rwa [returns.eq_of_ok gives]

/-- A condition that is asked before the rest. -/
theorem of_guard {refused : Prop} [Decidable refused] (detail : String) {rest : Crypto σ β}
    (admits : ¬ refused → Admits further rest) :
    Admits (¬ refused ∧ further)
      (if refused then (throw (.decode detail) : Crypto σ α) >>= next else rest) := by
  split
  · rename_i isRefused
    exact ⟨fun holds => absurd isRefused holds.1, fun _ before => ⟨detail, before, rfl⟩⟩
  · rename_i notRefused
    exact (admits notRefused).congr (and_iff_right notRefused).symm

/-! ### Checks -/

/-- A check of the size of a field. -/
theorem of_ofBytes? {size : Nat} {bytes : Bytes} {check : Except Error α}
    (passes : ∀ value, FixedBytes.ofBytes? size bytes = some value → ∃ result, check = .ok result)
    (fails : FixedBytes.ofBytes? size bytes = none → ∃ detail, check = .error (.decode detail)) :
    Admits (bytes.length = size) (ofExcept check : Crypto σ α) := by
  cases sized : FixedBytes.ofBytes? size bytes with
  | none =>
    obtain ⟨detail, rfl⟩ := fails sized
    exact of_throw detail (FixedBytes.ofBytes?_eq_none_iff.1 sized)
  | some value =>
    obtain ⟨result, rfl⟩ := passes value sized
    obtain rfl := FixedBytes.ofBytes?_eq_some_iff.1 sized
    exact (of_returns (returns_pure _)).congr (by simp)

theorem map {check : Except Error α} (admits : Admits condition (ofExcept check : Crypto σ α))
    (result : α → β) : Admits condition (ofExcept (check.map result) : Crypto σ β) := by
  rw [ofExcept_map]
  exact admits.bind_pure result

/-- A list is accepted when each of its elements is. -/
theorem mapM {read : α → Except Error β} {holds : α → Prop}
    (each : ∀ element, Admits (holds element) (ofExcept (read element) : Crypto σ β))
    (elements : List α) :
    Admits (∀ element ∈ elements, holds element)
      (ofExcept (elements.mapM read) : Crypto σ (List β)) := by
  induction elements with
  | nil => exact (of_returns (returns_pure [])).congr (by simp)
  | cons first rest inductionHypothesis =>
    rw [List.mapM_cons, ofExcept_bind]
    simp only [ofExcept_bind]
    refine ((each first).bind fun value _ => ?_).congr List.forall_mem_cons.symm
    exact inductionHypothesis.bind_pure _

end Admits

end Crypto

/-! ### Fields of a given size -/

@[simp] theorem FixedBytes.fit_toBytes {size : Nat} (value : FixedBytes size) :
    fit size value.toBytes = value := by
  apply FixedBytes.ext
  simp only [fit, length_toBytes, Nat.sub_self, List.replicate_zero, List.append_nil]
  exact List.take_of_length_le (Nat.le_of_eq value.length_eq)

theorem FixedBytes.fit_toBytes_eq_left {first second : Nat} (value : FixedBytes (first + second)) :
    fit first value.toBytes = value.left := by
  apply FixedBytes.ext
  have noFill : first - (first + second) = 0 := by omega
  simp [fit, left, noFill]

theorem X25519PublicKey.admits_ofField (what : String) (bytes : Bytes) :
    Crypto.Admits (bytes.length = 32) (Crypto.ofExcept (ofField what bytes) : Crypto σ _) :=
  .of_ofBytes? (fun value sized => ⟨⟨value⟩, by rw [ofField, sized]⟩)
    (fun sized => ⟨_, by rw [ofField, sized, Error.wrongFieldLength]⟩)

theorem Ed25519Signature.admits_ofField (what : String) (bytes : Bytes) :
    Crypto.Admits (bytes.length = 64) (Crypto.ofExcept (ofField what bytes) : Crypto σ _) :=
  .of_ofBytes? (fun value sized => ⟨⟨value⟩, by rw [ofField, sized]⟩)
    (fun sized => ⟨_, by rw [ofField, sized, Error.wrongFieldLength]⟩)

/-! ### Keys that belong together -/

/-- The functions of a provider that bear on stored keys: the public half of a secret, the encoding
and the verification key of a seed, and the verification of a signature. -/
structure KeyFunctions where
  publicKey : FixedBytes 32 → FixedBytes 32
  signingPair : FixedBytes 32 → FixedBytes 64 × FixedBytes 32
  verifies : FixedBytes 32 → Bytes → FixedBytes 64 → Bool

namespace KeyFunctions

/-- Both halves of an agreement pair have their size, and the public one is that of the secret. -/
def IsPair (functions : KeyFunctions) (secret publicKey : Bytes) : Prop :=
  secret.length = 32 ∧ publicKey.length = 32 ∧
    (functions.publicKey (.fit 32 secret)).toBytes = publicKey

/-- The encoding and the verification key of a signing pair have their size, and they are those of
the seed that the encoding starts with. -/
def IsSigningPair (functions : KeyFunctions) (encoding publicKey : Bytes) : Prop :=
  encoding.length = 64 ∧ publicKey.length = 32 ∧
    (functions.signingPair (.fit 32 encoding)).1.toBytes = encoding ∧
    (functions.signingPair (.fit 32 encoding)).2.toBytes = publicKey

end KeyFunctions

/-- The provider computes the functions from every state, and does not fail. -/
structure Provider.Computes (provider : Provider σ) (functions : KeyFunctions) : Prop where
  publicKey : ∀ secret, Crypto.Returns (provider.x25519Public secret) (functions.publicKey secret)
  signingPair : ∀ seed, Crypto.Returns (provider.ed25519KeyPair seed) (functions.signingPair seed)
  verifies : ∀ key message signature,
    Crypto.Returns (provider.ed25519Verify key message signature)
      (functions.verifies key message signature)

variable {provider : Provider σ} {functions : KeyFunctions}

namespace Provider.Computes

theorem ofSecret (computes : provider.Computes functions) (secret : FixedBytes 32) :
    Crypto.Returns (X25519KeyPair.ofSecret provider secret)
      ⟨⟨functions.publicKey secret⟩, secret⟩ :=
  (computes.publicKey secret).bind (Crypto.returns_pure _)

theorem ofSeed (computes : provider.Computes functions) (seed : FixedBytes 32) :
    Crypto.Returns (Ed25519KeyPair.ofSeed provider seed)
      ⟨⟨(functions.signingPair seed).2⟩, (functions.signingPair seed).1⟩ :=
  (computes.signingPair seed).bind (Crypto.returns_pure _)

end Provider.Computes

theorem X25519KeyPair.admits_ofStored (computes : provider.Computes functions)
    (secret publicKey : Bytes) :
    Crypto.Admits (functions.IsPair secret publicKey) (ofStored provider secret publicKey) := by
  unfold ofStored
  cases isSecret : FixedBytes.ofBytes? 32 secret with
  | none =>
    exact .of_throw _ fun isPair => FixedBytes.ofBytes?_eq_none_iff.1 isSecret isPair.1
  | some secretValue =>
    cases isPublic : FixedBytes.ofBytes? 32 publicKey with
    | none =>
      exact .of_throw _ fun isPair => FixedBytes.ofBytes?_eq_none_iff.1 isPublic isPair.2.1
    | some publicValue =>
      obtain rfl := FixedBytes.ofBytes?_eq_some_iff.1 isSecret
      obtain rfl := FixedBytes.ofBytes?_eq_some_iff.1 isPublic
      refine (Crypto.Admits.of_bind_returns (computes.ofSecret secretValue)
        (.of_guard _ fun _ => .of_returns (Crypto.returns_pure _))).congr ?_
      simp [KeyFunctions.IsPair, FixedBytes.ext_iff]

theorem Ed25519KeyPair.admits_ofStored (computes : provider.Computes functions)
    (encoding publicKey : Bytes) :
    Crypto.Admits (functions.IsSigningPair encoding publicKey)
      (ofStored provider encoding publicKey) := by
  unfold ofStored
  cases isEncoding : FixedBytes.ofBytes? 64 encoding with
  | none =>
    exact .of_throw _ fun isPair => FixedBytes.ofBytes?_eq_none_iff.1 isEncoding isPair.1
  | some encodingValue =>
    cases isPublic : FixedBytes.ofBytes? 32 publicKey with
    | none =>
      exact .of_throw _ fun isPair => FixedBytes.ofBytes?_eq_none_iff.1 isPublic isPair.2.1
    | some publicValue =>
      obtain rfl := FixedBytes.ofBytes?_eq_some_iff.1 isEncoding
      obtain rfl := FixedBytes.ofBytes?_eq_some_iff.1 isPublic
      have seed : FixedBytes.fit 32 encodingValue.toBytes = @FixedBytes.left 32 32 encodingValue :=
        @FixedBytes.fit_toBytes_eq_left 32 32 encodingValue
      refine (Crypto.Admits.of_bind_returns (computes.ofSeed _)
        (.of_guard _ fun _ => .of_returns (Crypto.returns_pure _))).congr ?_
      simp [KeyFunctions.IsSigningPair, FixedBytes.ext_iff, seed]

theorem SignedPreKey.admits_ofStored (computes : provider.Computes functions) (id : UInt32)
    (keyPair : X25519KeyPair) (signature : Ed25519Signature) (owner : Ed25519PublicKey) :
    Crypto.Admits
      (functions.verifies owner.bytes keyPair.publicKey.toBytes signature.bytes = true)
      (ofStored provider id keyPair signature owner) := by
  refine (Crypto.Admits.of_bind_returns (computes.verifies _ _ _)
    (.of_guard _ fun _ => .of_returns (Crypto.returns_pure _))).congr ?_
  simp [SignedPreKey.publicKey]

end RatchetMessaging
