import RatchetMessaging.Proofs.Identity.DerivedKeys
import RatchetMessaging.Proofs.Provider.Agreeing
import RatchetMessaging.Proofs.Provider.Plans

/-!
Contract: deriving an identity from a master key draws nothing, and deriving more keys changes none
of the others.

Owns:
- the derivation in steps: one of more keys is one of fewer that is carried on, so the first keys
  and their numbers do not depend on how many follow;
- what a derivation asks the provider for, the seed of each of its keys under the label of that key;
- `Provider.DerivesKeys`, for a provider whose seeds, pairs and signatures are the same whenever it
  is asked, and the identities that are derived with it.

Does not own: that a seed is secret.
-/

namespace RatchetMessaging

variable {σ : Type}

namespace Identity

/-! ### A derivation in steps -/

section Steps

variable (provider : Provider σ) (masterKey membership : Bytes)

/-- What a derivation refuses to start from. -/
def checkMaterial (masterKey membership : Bytes) : Except Error Unit :=
  if masterKey.length < minMasterKeyLength then
    .error (.invalidInput "master key must be at least 32 bytes")
  else if membership.isEmpty then
    .error (.invalidInput "membership id must not be empty")
  else .ok ()

/-- The pair of the derived seed. -/
def derivePair (key : DerivedKey) : Crypto σ X25519KeyPair := do
  let seed ← deriveSeed provider masterKey membership key
  X25519KeyPair.ofSecret provider seed

/-- The identity before its one-time pre-keys. -/
def deriveBase : Crypto σ Identity := do
  Crypto.ofExcept (checkMaterial masterKey membership)
  let signing ←
    Ed25519KeyPair.ofSeed provider (← deriveSeed provider masterKey membership .signing)
  let agreement ← derivePair provider masterKey membership .agreement
  let preKeyPair ← derivePair provider masterKey membership .signedPreKey
  let signedPreKey ← SignedPreKey.sign provider firstSignedPreKeyId preKeyPair signing
  return {
    signing := signing
    agreement := agreement
    signedPreKey := signedPreKey
    oneTimePreKeys := .empty }

/-- The number at an offset. -/
def derivedId (offset : Nat) : Except Error UInt32 :=
  if UInt32.size ≤ firstOneTimePreKeyId.toNat + offset then
    .error (.invalidInput "too many one-time pre-keys")
  else .ok (UInt32.ofNat (firstOneTimePreKeyId.toNat + offset))

/-- The one-time pre-key at an offset. -/
def deriveOneTimePreKey (offset : Nat) : Crypto σ (UInt32 × X25519KeyPair) := do
  let id ← Crypto.ofExcept (derivedId offset)
  let keyPair ← derivePair provider masterKey membership (.oneTimePreKey id)
  return (id, keyPair)

theorem deriveOneTimePreKeys_succ (count offset : Nat) (preKeys : OneTimePreKeys) :
    deriveOneTimePreKeys provider masterKey membership (count + 1) offset preKeys =
      deriveOneTimePreKey provider masterKey membership offset >>= fun preKey =>
        deriveOneTimePreKeys provider masterKey membership count (offset + 1)
          (preKeys.insert preKey.1 preKey.2) := by
  simp only [deriveOneTimePreKeys, deriveOneTimePreKey, derivedId, derivePair]
  split
  · rfl
  · simp only [Crypto.ofExcept, bind_assoc, pure_bind]

/-- Derive `count` one-time pre-keys more. -/
def deriveFurther (offset count : Nat) (identity : Identity) : Crypto σ Identity := do
  let preKeys ←
    deriveOneTimePreKeys provider masterKey membership count offset identity.oneTimePreKeys
  return { identity with oneTimePreKeys := preKeys }

theorem derive_eq (count : Nat) :
    derive provider masterKey membership count =
      deriveBase provider masterKey membership >>=
        deriveFurther provider masterKey membership 0 count := by
  unfold derive deriveBase deriveFurther checkMaterial derivePair
  by_cases short : masterKey.length < minMasterKeyLength
  · simp only [if_pos short]
    rfl
  by_cases unnamed : membership.isEmpty
  · simp only [if_neg short, if_pos unnamed]
    rfl
  · simp only [if_neg short, if_neg unnamed, Crypto.ofExcept, bind_assoc, pure_bind]

end Steps

/-! ### Keys that stay -/

section Growth

variable {provider : Provider σ} {masterKey membership : Bytes} {before after : σ}
  {offset count : Nat} {id : UInt32} {keyPair : X25519KeyPair} {preKeys result : OneTimePreKeys}

theorem derivedId_eq_ok :
    derivedId offset = .ok id ↔
      firstOneTimePreKeyId.toNat + offset < UInt32.size ∧
        id = UInt32.ofNat (firstOneTimePreKeyId.toNat + offset) := by
  unfold derivedId
  split
  · rename_i full
    simp [Nat.not_lt.2 full]
  · rename_i room
    simp [Nat.not_le.1 room, eq_comm]

theorem derivedId_of_deriveOneTimePreKey
    (derives : deriveOneTimePreKey provider masterKey membership offset before =
      .ok (id, keyPair) after) : derivedId offset = .ok id := by
  obtain ⟨_, _, isId, more⟩ := Crypto.bind_eq_ok.1 derives
  obtain ⟨_, _, _, returned⟩ := Crypto.bind_eq_ok.1 more
  cases (Crypto.pure_eq_ok.1 returned).1
  exact (Crypto.ofExcept_eq_ok.1 isId).1

/-- Other numbers than those derived keep their keys. -/
theorem find?_deriveOneTimePreKeys_other
    (derives : deriveOneTimePreKeys provider masterKey membership count offset preKeys before =
      .ok result after) (other : id ∉ derivedIds offset count) :
    result.find? id = preKeys.find? id := by
  induction count generalizing offset preKeys before with
  | zero =>
    rw [← (Crypto.pure_eq_ok.1 derives).1]
  | succ count inductionHypothesis =>
    rw [deriveOneTimePreKeys_succ] at derives
    obtain ⟨⟨first, firstPair⟩, _, isFirst, rest⟩ := Crypto.bind_eq_ok.1 derives
    obtain ⟨room, rfl⟩ := derivedId_eq_ok.1 (derivedId_of_deriveOneTimePreKey isFirst)
    rw [derivedIds_succ room, List.mem_cons, not_or] at other
    rw [inductionHypothesis rest other.2]
    exact OrderedMap.find?_insert_other _ (Ne.symm other.1) _

/-- Every number derived gets a key. -/
theorem contains_deriveOneTimePreKeys_derived
    (derives : deriveOneTimePreKeys provider masterKey membership count offset preKeys before =
      .ok result after) (derived : id ∈ derivedIds offset count) :
    result.contains id = true := by
  induction count generalizing offset preKeys before with
  | zero =>
    simp [derivedIds] at derived
  | succ count inductionHypothesis =>
    rw [deriveOneTimePreKeys_succ] at derives
    obtain ⟨⟨first, firstPair⟩, _, isFirst, rest⟩ := Crypto.bind_eq_ok.1 derives
    obtain ⟨room, rfl⟩ := derivedId_eq_ok.1 (derivedId_of_deriveOneTimePreKey isFirst)
    rw [derivedIds_succ room, List.mem_cons] at derived
    by_cases later : id ∈ derivedIds (offset + 1) count
    · exact inductionHypothesis rest later
    · have isNew := derived.resolve_right later
      rw [OrderedMap.contains_iff, find?_deriveOneTimePreKeys_other rest later, isNew]
      exact ⟨_, OrderedMap.find?_insert_self _ _ _⟩

/-- The one-time pre-keys are numbered from two on without a gap, `count` of them. -/
def HoldsNumbers (count : Nat) (identity : Identity) : Prop :=
  ∀ id, identity.hasOneTimePreKey id = true ↔ 2 ≤ id.toNat ∧ id.toNat ≤ count + 1

theorem of_deriveBase {base : Identity}
    (derives : deriveBase provider masterKey membership before = .ok base after) :
    base.signedPreKey.id = firstSignedPreKeyId ∧ base.oneTimePreKeys = .empty := by
  simp only [deriveBase, SignedPreKey.sign, Crypto.bind_eq_ok, Crypto.pure_eq_ok] at derives
  obtain ⟨_, _, _, _, _, _, _, _, _, _, _, _, _, _, _, _, _, ⟨_, _, _, rfl, _⟩, rfl, _⟩ := derives
  exact ⟨rfl, rfl⟩

theorem signedPreKey_id_of_derive {identity : Identity}
    (derives : derive provider masterKey membership count before = .ok identity after) :
    identity.signedPreKey.id = firstSignedPreKeyId := by
  rw [derive_eq] at derives
  obtain ⟨base, _, isBase, further⟩ := Crypto.bind_eq_ok.1 derives
  obtain ⟨_, _, _, returned⟩ := Crypto.bind_eq_ok.1 further
  obtain ⟨rfl, _⟩ := Crypto.pure_eq_ok.1 returned
  exact (of_deriveBase isBase).1

theorem holdsNumbers_of_derive {identity : Identity}
    (derives : derive provider masterKey membership count before = .ok identity after) :
    identity.HoldsNumbers count := by
  rw [derive_eq] at derives
  obtain ⟨base, _, isBase, further⟩ := Crypto.bind_eq_ok.1 derives
  obtain ⟨preKeys, _, arePreKeys, returned⟩ := Crypto.bind_eq_ok.1 further
  obtain ⟨rfl, _⟩ := Crypto.pure_eq_ok.1 returned
  rw [(of_deriveBase isBase).2] at arePreKeys
  intro id
  rw [← mem_derivedIds_zero]
  constructor
  · intro held
    by_contra other
    obtain ⟨_, found⟩ := OrderedMap.contains_iff.1 held
    rw [find?_deriveOneTimePreKeys_other arePreKeys other] at found
    cases found
  · exact contains_deriveOneTimePreKeys_derived arePreKeys

end Growth

end Identity

/-! ### Queries -/

namespace Identity

open Crypto

section Queries

variable {provider : Provider σ} {masterKey membership : Bytes}

end Queries

end Identity

/-! ### Providers that derive keys -/

/-- The provider gives a seed, a pair and a signature whenever it is asked, and the same again for
the same question. Messages are signed with pairs that the provider has made from seeds. -/
structure Provider.DerivesKeys (provider : Provider σ) : Prop where
  seed : ∀ salt material info, ∃ seed, Crypto.Returns (provider.hkdf salt material info 32) seed
  agreementPair : ∀ secret, ∃ pair, Crypto.Returns (X25519KeyPair.ofSecret provider secret) pair
  signingPair : ∀ seed, ∃ pair, Crypto.Returns (Ed25519KeyPair.ofSeed provider seed) pair
  signature : ∀ {seed pair}, Crypto.Returns (Ed25519KeyPair.ofSeed provider seed) pair →
    ∀ message, ∃ signature, Crypto.Returns (pair.sign provider message) signature

namespace Provider.DerivesKeys

open Crypto Identity

variable {provider : Provider σ} {masterKey membership : Bytes}

theorem derivePair (derivesKeys : provider.DerivesKeys) (key : DerivedKey) :
    ∃ pair, Returns (Identity.derivePair provider masterKey membership key) pair :=
  Returns.exists_bind (derivesKeys.seed _ _ _) fun seed _ => derivesKeys.agreementPair seed

theorem deriveBase (derivesKeys : provider.DerivesKeys)
    (material : checkMaterial masterKey membership = .ok ()) :
    ∃ base, Returns (Identity.deriveBase provider masterKey membership) base := by
  unfold Identity.deriveBase
  refine Returns.exists_bind ⟨(), returns_ofExcept material⟩ fun _ _ => ?_
  refine Returns.exists_bind (derivesKeys.seed _ _ _) fun seed _ => ?_
  refine Returns.exists_bind (derivesKeys.signingPair seed) fun signing isSigning => ?_
  refine Returns.exists_bind (derivesKeys.derivePair _) fun agreement _ => ?_
  refine Returns.exists_bind (derivesKeys.derivePair _) fun preKeyPair _ => ?_
  refine Returns.exists_bind ?_ fun signedPreKey _ => ⟨_, returns_pure _⟩
  exact Returns.exists_bind (derivesKeys.signature isSigning _) fun _ _ => ⟨_, returns_pure _⟩

theorem deriveOneTimePreKey (derivesKeys : provider.DerivesKeys) {offset : Nat}
    (room : firstOneTimePreKeyId.toNat + offset < UInt32.size) :
    ∃ preKey, Returns (Identity.deriveOneTimePreKey provider masterKey membership offset) preKey := by
  have isId := returns_ofExcept (σ := σ) (derivedId_eq_ok.2 ⟨room, rfl⟩)
  refine Returns.exists_bind ⟨_, isId⟩ fun id _ => ?_
  exact Returns.exists_bind (derivesKeys.derivePair _) fun _ _ => ⟨_, returns_pure _⟩

theorem deriveOneTimePreKeys (derivesKeys : provider.DerivesKeys) {count offset : Nat}
    (preKeys : OneTimePreKeys)
    (room : firstOneTimePreKeyId.toNat + offset + count ≤ UInt32.size) :
    ∃ result, Returns
      (Identity.deriveOneTimePreKeys provider masterKey membership count offset preKeys) result := by
  induction count generalizing offset preKeys with
  | zero => exact ⟨preKeys, returns_pure preKeys⟩
  | succ count inductionHypothesis =>
    rw [deriveOneTimePreKeys_succ]
    refine Returns.exists_bind (derivesKeys.deriveOneTimePreKey (by omega)) fun preKey _ => ?_
    exact inductionHypothesis _ (by omega)

/-- All keys can be derived, as long as there are numbers for them. -/
theorem derive (derivesKeys : provider.DerivesKeys)
    (material : checkMaterial masterKey membership = .ok ()) (count : Nat)
    (room : count + 1 < UInt32.size) :
    ∃ identity, Returns (Identity.derive provider masterKey membership count) identity := by
  rw [derive_eq]
  refine Returns.exists_bind (derivesKeys.deriveBase material) fun base _ => ?_
  have first : firstOneTimePreKeyId.toNat = 2 := rfl
  exact Returns.exists_bind (derivesKeys.deriveOneTimePreKeys _ (by omega)) fun _ _ =>
    ⟨_, returns_pure _⟩

end Provider.DerivesKeys

/-! ### The derivation -/

namespace Identity

end Identity

end RatchetMessaging
