import Mathlib.Tactic.MkIffOfInductiveProp
import RatchetMessaging.Identity.Snapshot
import RatchetMessaging.Proofs.Admission
import RatchetMessaging.Proofs.OrderedMap

/-!
Contract: the identity records that are accepted.

Owns:
- `Record.IdentityRecord.Consistent`, what a record has to satisfy: sizes, halves that belong
  together, a signature that verifies, and one-time pre-keys with different numbers;
- an identity is read of the consistent records, and all others are refused.

Does not own: the identity that is read.
-/

namespace RatchetMessaging

variable {σ : Type} {provider : Provider σ} {functions : KeyFunctions}

/-- The keys of the record have their sizes and belong together, the signed pre-key is vouched for,
and no two one-time pre-keys share a number. -/
@[mk_iff]
structure Record.IdentityRecord.Consistent (functions : KeyFunctions)
    (record : Record.IdentityRecord) : Prop where
  signing : functions.IsSigningPair record.ed25519Secret record.ed25519Public
  agreement : functions.IsPair record.identityX25519Secret record.identityX25519Public
  signature : record.signedPreKeySignature.length = 64
  signedPreKey : functions.IsPair record.signedPreKeySecret record.signedPreKeyPublic
  verified : functions.verifies (.fit 32 record.ed25519Public) record.signedPreKeyPublic
    (.fit 64 record.signedPreKeySignature) = true
  oneTimePreKeys : ∀ preKey ∈ record.oneTimePreKeys,
    functions.IsPair preKey.secretKey preKey.publicKey
  distinct : (record.oneTimePreKeys.map Record.OneTimePreKeyRecord.id).Nodup

namespace Identity

/-- One-time pre-keys are read when all are pairs, and their numbers are new and different. -/
theorem admits_readOneTimePreKeys (computes : provider.Computes functions)
    (records : List Record.OneTimePreKeyRecord) (preKeys : OneTimePreKeys) :
    Crypto.Admits
      ((∀ record ∈ records, functions.IsPair record.secretKey record.publicKey) ∧
        (records.map Record.OneTimePreKeyRecord.id).Nodup ∧
        ∀ record ∈ records, preKeys.contains record.id = false)
      (readOneTimePreKeys provider records preKeys) := by
  induction records generalizing preKeys with
  | nil => exact (Crypto.Admits.of_returns (Crypto.returns_pure _)).congr (by simp)
  | cons first rest inductionHypothesis =>
    unfold readOneTimePreKeys
    split
    · rename_i held
      refine .of_throw _ fun ⟨_, _, areNew⟩ => ?_
      rw [areNew first List.mem_cons_self] at held
      cases held
    · rename_i isNew
      -- The keys that follow have to differ from the first one, whatever pair that is.
      have following (keyPair : X25519KeyPair) :=
        (inductionHypothesis (preKeys.insert first.id keyPair)).congr <|
          and_congr_right fun _ => and_congr_right fun _ => forall₂_congr fun _ _ =>
            OrderedMap.contains_insert_eq_false
      refine ((X25519KeyPair.admits_ofStored computes _ _).bind fun keyPair _ =>
        following keyPair).congr ?_
      simp only [List.forall_mem_cons, List.map_cons, List.nodup_cons, List.mem_map, not_exists,
        not_and, Bool.not_eq_true _ ▸ isNew, true_and]
      constructor
      · rintro ⟨isPair, arePairs, distinct, areNew⟩
        exact ⟨⟨isPair, arePairs⟩, ⟨fun record member same => (areNew record member).1 same.symm,
          distinct⟩, fun record member => (areNew record member).2⟩
      · rintro ⟨⟨isPair, arePairs⟩, ⟨different, distinct⟩, areNew⟩
        exact ⟨isPair, arePairs, distinct, fun record member =>
          ⟨fun same => different record member same.symm, areNew record member⟩⟩

/-- An identity is read of the consistent records, and all others are refused. -/
theorem admits_ofRecord (computes : provider.Computes functions)
    (record : Record.IdentityRecord) :
    Crypto.Admits (record.Consistent functions) (ofRecord provider record) := by
  refine Crypto.Admits.congr ?_ (record.consistent_iff functions).symm
  refine (Ed25519KeyPair.admits_ofStored computes _ _).bind fun signing ⟨_, _, isSigning⟩ => ?_
  refine (X25519KeyPair.admits_ofStored computes _ _).bind fun agreement _ => ?_
  refine (Ed25519Signature.admits_ofField _ _).bind fun signature ⟨_, _, isSignature⟩ => ?_
  refine (X25519KeyPair.admits_ofStored computes _ _).bind fun preKeyPair ⟨_, _, isPair⟩ => ?_
  -- What is verified are the bytes of the record, since each key was read of them unchanged.
  obtain ⟨_, sameKey, _⟩ := Ed25519KeyPair.ofStored_eq_ok.1 isSigning
  obtain ⟨_, samePreKey, _⟩ := X25519KeyPair.ofStored_eq_ok.1 isPair
  have sameSignature := Ed25519Signature.ofField_eq_ok.1 (Crypto.ofExcept_eq_ok.1 isSignature).1
  rw [← sameKey, ← samePreKey, ← sameSignature, Ed25519PublicKey.toBytes, FixedBytes.fit_toBytes,
    Ed25519Signature.toBytes, FixedBytes.fit_toBytes]
  refine (SignedPreKey.admits_ofStored computes _ _ _ _).bind fun signedPreKey _ => ?_
  refine Crypto.Admits.bind_pure ((admits_readOneTimePreKeys computes _ _).congr ?_) _
  exact and_congr_right fun _ => and_iff_left fun _ _ => OrderedMap.contains_empty _

end Identity

end RatchetMessaging
