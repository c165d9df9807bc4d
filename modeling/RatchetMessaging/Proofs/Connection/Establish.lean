import RatchetMessaging.Connection.Establish
import RatchetMessaging.Proofs.Computation

/-!
Contract: what a session starts from, whatever the provider does.

Owns: the first state of either role, when establishing the session succeeds.

Does not own: the relation between the first states of the two ends.
-/

namespace RatchetMessaging

variable {σ : Type} {provider : Provider σ} {before after : σ} {seed : SessionSeed}

namespace RatchetState

variable {limits : RatchetLimits} {state : RatchetState}

/-- The keys that both roles derive from the shared secret. -/
def seedKeys (provider : Provider σ) (seed : SessionSeed) :
    Crypto σ (FixedBytes 32 × FixedBytes 32) := do
  let secret ← Crypto.ofExcept (seed.sharedSecret.read 32)
  let rootKey ← provider.hkdf none secret rootInfo 32
  let chainKey ← provider.hkdf none rootKey.toBytes firstChainInfo 32
  return (rootKey, chainKey)

/-- The initiator starts with a new key pair and a sending chain, the responder with its pre-key
pair and a receiving chain. -/
theorem ofSeed_eq_ok (seeded : ofSeed provider limits seed before = .ok state after) :
    ∃ rootKey chainKey middle,
      seedKeys provider seed before = .ok (rootKey, chainKey) middle ∧
      ((seed.isInitiator = true ∧ seed.remoteRatchetKey.isSome = true ∧
          ∃ keyPair, X25519KeyPair.generate provider middle = .ok keyPair after ∧
            state = initial limits seed rootKey keyPair (some ⟨.sending, chainKey, 0⟩) none) ∨
        (seed.isInitiator = false ∧ middle = after ∧
          ∃ keyPair, seed.localRatchetKey = some keyPair ∧
            state =
              initial limits seed rootKey keyPair none (some ⟨.receiving, chainKey, 0⟩))) := by
  simp only [ofSeed, Crypto.bind_eq_ok] at seeded
  obtain ⟨secret, _, read, rootKey, _, derivedRoot, chainKey, middle, derivedChain, seeded⟩ :=
    seeded
  have keys : seedKeys provider seed before = .ok (rootKey, chainKey) middle := by
    simp only [seedKeys, Crypto.bind_eq_ok, Crypto.pure_eq_ok]
    exact ⟨secret, _, read, rootKey, _, derivedRoot, chainKey, _, derivedChain, rfl, rfl⟩
  refine ⟨rootKey, chainKey, middle, keys, ?_⟩
  cases role : seed.isInitiator with
  | true =>
    left
    cases remote : seed.remoteRatchetKey with
    | none => simp [role, remote, Crypto.bind_eq_ok] at seeded
    | some remoteKey =>
      simp only [role, remote, if_true, Option.isNone_some, Bool.false_eq_true, if_false,
        Crypto.bind_eq_ok, Crypto.pure_eq_ok] at seeded
      obtain ⟨keyPair, _, generated, rfl, rfl⟩ := seeded
      exact ⟨rfl, rfl, keyPair, generated, rfl⟩
  | false =>
    right
    cases pair : seed.localRatchetKey with
    | none => simp [role, pair] at seeded
    | some keyPair =>
      simp only [role, pair, Bool.false_eq_true, if_false, Crypto.pure_eq_ok] at seeded
      obtain ⟨rfl, rfl⟩ := seeded
      exact ⟨rfl, rfl, keyPair, rfl, rfl⟩

end RatchetState

namespace Connection

/-- Only a connection before its session is established moves, to the first state. -/
theorem establish_eq_ok {fresh connection : Connection}
    (established : fresh.establish provider seed before = .ok connection after) :
    ∃ state, RatchetState.ofSeed provider fresh.limits seed before = .ok state after ∧
      connection = { fresh with phase := .established state } := by
  cases phase : fresh.phase with
  | established state => simp [establish, phase] at established
  | closed => simp [establish, phase] at established
  | unestablished =>
    simp only [establish, phase, Crypto.bind_eq_ok, Crypto.pure_eq_ok] at established
    obtain ⟨state, _, seeded, rfl, rfl⟩ := established
    exact ⟨state, seeded, rfl⟩

end Connection

end RatchetMessaging
