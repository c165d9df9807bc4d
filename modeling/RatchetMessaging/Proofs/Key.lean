import RatchetMessaging.Key.SignedPreKey
import RatchetMessaging.Proofs.Computation

/-!
Contract: keys that are read back.

Owns:
- keys and key pairs that are read back as they were written, whatever the provider does: what it
  computes again has to agree;
- `Provider.Repeats`, for a provider that computes again what another one has computed, so that it
  can read back every pair that the other one has made or read; and `Provider.SteadyKeys`, for one
  that repeats itself.

Does not own: the records that keys are read from.
-/

namespace RatchetMessaging

variable {σ τ : Type} {provider : Provider σ} {working : Provider τ} {before after : σ}

theorem X25519PublicKey.ofField_eq_ok {what : String} {bytes : Bytes} {key : X25519PublicKey} :
    ofField what bytes = .ok key ↔ key.toBytes = bytes := by
  constructor
  · intro read
    unfold ofField at read
    split at read
    · rename_i value isValue
      cases read
      exact FixedBytes.ofBytes?_eq_some_iff.1 isValue
    · cases read
  · rintro rfl
    simp [ofField, toBytes]

theorem Ed25519Signature.ofField_eq_ok {what : String} {bytes : Bytes}
    {signature : Ed25519Signature} :
    ofField what bytes = .ok signature ↔ signature.toBytes = bytes := by
  constructor
  · intro read
    unfold ofField at read
    split at read
    · rename_i value isValue
      cases read
      exact FixedBytes.ofBytes?_eq_some_iff.1 isValue
    · cases read
  · rintro rfl
    simp [ofField, toBytes]

namespace X25519KeyPair

variable {pair : X25519KeyPair}

theorem ofSecret_eq_ok {secret : FixedBytes 32} :
    ofSecret provider secret before = .ok pair after ↔
      pair.secret = secret ∧ provider.x25519Public secret before = .ok pair.publicKey.bytes after := by
  simp only [ofSecret, Crypto.bind_eq_ok, Crypto.pure_eq_ok]
  constructor
  · rintro ⟨_, _, published, rfl, rfl⟩
    exact ⟨rfl, published⟩
  · rintro ⟨rfl, published⟩
    exact ⟨_, _, published, rfl, rfl⟩

/-- A stored pair is read when it is made again from its secret and both halves are the stored
ones. -/
theorem ofStored_eq_ok {secret publicKey : Bytes} :
    ofStored provider secret publicKey before = .ok pair after ↔
      pair.secret.toBytes = secret ∧ pair.publicKey.toBytes = publicKey ∧
        ofSecret provider pair.secret before = .ok pair after := by
  constructor
  · intro read
    cases isSecret : FixedBytes.ofBytes? 32 secret with
    | none => simp [ofStored, isSecret] at read
    | some secretValue =>
      cases isPublic : FixedBytes.ofBytes? 32 publicKey with
      | none => simp [ofStored, isSecret, isPublic] at read
      | some publicValue =>
        simp only [ofStored, isSecret, isPublic, Crypto.bind_eq_ok] at read
        obtain ⟨made, _, isMade, read⟩ := read
        split at read
        · simp only [Crypto.bind_eq_ok, Crypto.throw_ne_ok, false_and, exists_false] at read
        · rename_i agrees
          obtain ⟨rfl, rfl⟩ := Crypto.pure_eq_ok.1 read
          obtain ⟨rfl, _⟩ := ofSecret_eq_ok.1 isMade
          refine ⟨FixedBytes.ofBytes?_eq_some_iff.1 isSecret, ?_, isMade⟩
          rw [← FixedBytes.ofBytes?_eq_some_iff.1 isPublic, ← Decidable.not_not.1 agrees]
          rfl
  · rintro ⟨rfl, rfl, made⟩
    unfold ofStored X25519PublicKey.toBytes
    simp only [FixedBytes.ofBytes?_toBytes]
    rw [Crypto.bind_of_ok made, if_neg (not_not_intro rfl)]
    rfl

theorem ofStored_toBytes {stored : X25519KeyPair}
    (read : ofStored provider stored.secret.toBytes stored.publicKey.toBytes before =
      .ok pair after) : pair = stored := by
  obtain ⟨sameSecret, samePublic, _⟩ := ofStored_eq_ok.1 read
  obtain ⟨⟨publicKey⟩, secret⟩ := pair
  obtain ⟨⟨storedPublic⟩, storedSecret⟩ := stored
  simp only [mk.injEq, X25519PublicKey.mk.injEq]
  exact ⟨FixedBytes.ext samePublic, FixedBytes.ext sameSecret⟩

end X25519KeyPair

/-! ### Pairs that belong together -/

/-- The public key of a secret does not depend on what the provider remembers. -/
def Provider.SteadyKeys (provider : Provider σ) : Prop :=
  ∀ secret, Crypto.Steady (fun _ => True) (provider.x25519Public secret)

/-- Whenever the other provider has computed a public key, this one computes it, too. -/
def Provider.Repeats (working : Provider τ) (provider : Provider σ) : Prop :=
  ∀ secret before key after, provider.x25519Public secret before = .ok key after →
    Crypto.Returns (working.x25519Public secret) key

theorem Provider.SteadyKeys.repeats (steady : provider.SteadyKeys) : provider.Repeats provider :=
  fun secret before key after published other =>
    (steady secret before key after trivial published).2 other trivial

namespace X25519KeyPair

variable {pair : X25519KeyPair} {secret publicKey : Bytes}

/-- The public half is that of the secret, from every state of the provider. -/
def Matches (provider : Provider σ) (pair : X25519KeyPair) : Prop :=
  Crypto.Returns (ofSecret provider pair.secret) pair

theorem matches_of_ofSecret (repeats : working.Repeats provider) {secret : FixedBytes 32}
    (made : ofSecret provider secret before = .ok pair after) : pair.Matches working := by
  obtain ⟨rfl, published⟩ := ofSecret_eq_ok.1 made
  exact (repeats _ _ _ _ published).bind (Crypto.returns_pure _)

theorem matches_of_generate (repeats : working.Repeats provider)
    (generated : generate provider before = .ok pair after) : pair.Matches working := by
  simp only [generate, Crypto.bind_eq_ok] at generated
  obtain ⟨_, _, _, made⟩ := generated
  exact matches_of_ofSecret repeats made

theorem matches_of_ofStored (repeats : working.Repeats provider)
    (read : ofStored provider secret publicKey before = .ok pair after) : pair.Matches working :=
  matches_of_ofSecret repeats (ofStored_eq_ok.1 read).2.2

theorem Matches.ofStored (isPair : pair.Matches provider) :
    Crypto.Returns (ofStored provider pair.secret.toBytes pair.publicKey.toBytes) pair := by
  intro before
  obtain ⟨after, made⟩ := isPair before
  exact ⟨after, ofStored_eq_ok.2 ⟨rfl, rfl, made⟩⟩

end X25519KeyPair

/-! ### Signing pairs -/

namespace Ed25519KeyPair

variable {pair : Ed25519KeyPair}

/-- A stored pair is read when it is made again from its seed and both halves are the stored
ones. -/
theorem ofStored_eq_ok {encoding publicKey : Bytes} :
    ofStored provider encoding publicKey before = .ok pair after ↔
      pair.encoding.toBytes = encoding ∧ pair.publicKey.toBytes = publicKey ∧
        ofSeed provider (@FixedBytes.left 32 32 pair.encoding) before = .ok pair after := by
  constructor
  · intro read
    cases isEncoding : FixedBytes.ofBytes? 64 encoding with
    | none => simp [ofStored, isEncoding] at read
    | some encodingValue =>
      cases isPublic : FixedBytes.ofBytes? 32 publicKey with
      | none => simp [ofStored, isEncoding, isPublic] at read
      | some publicValue =>
        simp only [ofStored, isEncoding, isPublic, Crypto.bind_eq_ok] at read
        obtain ⟨made, _, isMade, read⟩ := read
        split at read
        · simp only [Crypto.bind_eq_ok, Crypto.throw_ne_ok, false_and, exists_false] at read
        · rename_i agrees
          obtain ⟨rfl, rfl⟩ := Crypto.pure_eq_ok.1 read
          obtain ⟨sameEncoding, samePublic⟩ := not_or.1 agrees
          rw [← Decidable.not_not.1 sameEncoding] at isMade isEncoding
          rw [← FixedBytes.ofBytes?_eq_some_iff.1 isEncoding,
            ← FixedBytes.ofBytes?_eq_some_iff.1 isPublic, ← Decidable.not_not.1 samePublic]
          exact ⟨rfl, rfl, isMade⟩
  · rintro ⟨rfl, rfl, made⟩
    have agrees :
        ¬ (pair.encoding ≠ pair.encoding ∨ pair.publicKey.bytes ≠ pair.publicKey.bytes) := by
      simp
    unfold ofStored Ed25519PublicKey.toBytes
    simp only [FixedBytes.ofBytes?_toBytes]
    rw [Crypto.bind_of_ok made, if_neg agrees]
    rfl

theorem ofStored_toBytes {stored : Ed25519KeyPair}
    (read : ofStored provider stored.encoding.toBytes stored.publicKey.toBytes before =
      .ok pair after) : pair = stored := by
  obtain ⟨sameEncoding, samePublic, _⟩ := ofStored_eq_ok.1 read
  obtain ⟨⟨publicKey⟩, encoding⟩ := pair
  obtain ⟨⟨storedPublic⟩, storedEncoding⟩ := stored
  simp only [mk.injEq, Ed25519PublicKey.mk.injEq]
  exact ⟨FixedBytes.ext samePublic, FixedBytes.ext sameEncoding⟩

end Ed25519KeyPair

/-- A stored pre-key is read when its signature verifies. -/
theorem SignedPreKey.ofStored_eq_ok {id : UInt32} {keyPair : X25519KeyPair}
    {signature : Ed25519Signature} {owner : Ed25519PublicKey} {preKey : SignedPreKey} :
    ofStored provider id keyPair signature owner before = .ok preKey after ↔
      preKey = ⟨id, keyPair, signature⟩ ∧ preKey.verify provider owner before = .ok true after := by
  constructor
  · intro read
    simp only [ofStored, Crypto.bind_eq_ok] at read
    obtain ⟨verified, _, isVerified, read⟩ := read
    cases verified with
    | false =>
      simp only [Bool.not_false, if_true, Crypto.bind_eq_ok, Crypto.throw_ne_ok, false_and,
        exists_false] at read
    | true =>
      obtain ⟨rfl, rfl⟩ := Crypto.pure_eq_ok.1 read
      exact ⟨rfl, isVerified⟩
  · rintro ⟨rfl, isVerified⟩
    exact Crypto.bind_eq_ok.2 ⟨true, after, isVerified, rfl⟩

end RatchetMessaging
