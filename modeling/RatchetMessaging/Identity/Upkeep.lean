import RatchetMessaging.Identity.Basic

/-!
Contract: the upkeep of the pre-keys.

Owns: the replenishment of the one-time pre-keys, and the rotation of the signed pre-key.

Does not own: when either is due.
-/

namespace RatchetMessaging

variable {σ : Type}

/-- What a replenishment has come to: the identity afterwards, and the numbers added or the
failure that ended it. A replenishment that fails keeps the keys it has made by then. -/
structure Replenishment where
  identity : Identity
  outcome : Except Error (List UInt32)

namespace Identity

/-- Fill the one-time pre-keys up to `target`. -/
def replenish (provider : Provider σ) (target : Nat) (identity : Identity) :
    Crypto σ Replenishment := do
  match identity.ensureLive with
  | .error failure => return ⟨identity, .error failure⟩
  | .ok () =>
    let missing := target - identity.oneTimePreKeyCount
    let batch ← OneTimePreKeys.addRandom provider identity.signedPreKey.id missing
      ⟨identity.oneTimePreKeys, [], none⟩
    return {
      identity := { identity with oneTimePreKeys := batch.preKeys }
      outcome := match batch.failure with
        | some failure => .error failure
        | none => .ok batch.added }

/-- Draw numbers until one can serve for a new signed pre-key. The drawing has no bound of
its own; after `patience` draws the answer is none. -/
def drawSignedPreKeyId (provider : Provider σ) (current : UInt32) :
    (patience : Nat) → Crypto σ (Option UInt32)
  | 0 => pure none
  | patience + 1 => do
    let candidate ← provider.randomWord
    if candidate ≠ 0 ∧ candidate ≠ current then
      return some candidate
    else
      drawSignedPreKeyId provider current patience

/-- Replace the signed pre-key by a fresh one, unless no number is found in `patience`
draws. -/
def rotate (provider : Provider σ) (patience : Nat) (identity : Identity) :
    Crypto σ (Option (UInt32 × Identity)) := do
  Crypto.ofExcept identity.ensureLive
  match ← drawSignedPreKeyId provider identity.signedPreKey.id patience with
  | none => return none
  | some id =>
    let signedPreKey ← SignedPreKey.generate provider id identity.signing
    return some (id, { identity with signedPreKey := signedPreKey })

end Identity

end RatchetMessaging
