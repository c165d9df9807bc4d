import RatchetMessaging.Messenger.Sessions
import RatchetMessaging.Proofs.Identity.Snapshot
import RatchetMessaging.Proofs.Messenger.Operation

/-!
Contract: what a replenishment of the one-time pre-keys adds.

Owns:
- `OneTimePreKeys.Gains`, pre-keys with a number of fresh ones added under numbers that were not in
  use, and that a batch that succeeds is of this kind;
- `Identity.HasAnswered`, the identity after it has answered a hello.

Does not own: a replenishment that fails.
-/

namespace RatchetMessaging

variable {σ : Type} {provider : Provider σ} {before after : σ}

/-! ### Batches -/

namespace OneTimePreKeys

variable {preKeys middle later : OneTimePreKeys} {reserved id : UInt32} {keyPair : X25519KeyPair}
  {draws count more : Nat}

/-- A key that was not there before: generated, under a number not in use. -/
structure IsFresh (provider : Provider σ) (reserved : UInt32) (preKeys : OneTimePreKeys)
    (id : UInt32) (keyPair : X25519KeyPair) : Prop where
  notInUse : preKeys.find? id = none
  afterFirst : firstOneTimePreKeyId ≤ id
  notReserved : id ≠ reserved
  generated : ∃ before after, X25519KeyPair.generate provider before = .ok keyPair after

/-- The old keys, and `count` fresh ones. -/
structure Gains (provider : Provider σ) (reserved : UInt32) (count : Nat)
    (preKeys later : OneTimePreKeys) : Prop where
  keeps : ∀ id keyPair, preKeys.find? id = some keyPair → later.find? id = some keyPair
  fresh : ∀ id keyPair, later.find? id = some keyPair →
    preKeys.find? id = some keyPair ∨ IsFresh provider reserved preKeys id keyPair
  size : later.size = preKeys.size + count

theorem Gains.refl (provider : Provider σ) (reserved : UInt32) (preKeys : OneTimePreKeys) :
    Gains provider reserved 0 preKeys preKeys :=
  ⟨fun _ _ found => found, fun _ _ found => .inl found, rfl⟩

theorem IsFresh.gains (isFresh : IsFresh provider reserved preKeys id keyPair) :
    Gains provider reserved 1 preKeys (preKeys.insert id keyPair) where
  keeps other otherPair found := by
    have different : id ≠ other := by
      rintro rfl
      rw [isFresh.notInUse] at found
      cases found
    rw [OrderedMap.find?_insert_other _ different]
    exact found
  fresh other otherPair found := by
    by_cases same : id = other
    · subst same
      rw [OrderedMap.find?_insert_self] at found
      cases found
      exact .inr isFresh
    · rw [OrderedMap.find?_insert_other _ same] at found
      exact .inl found
  size := OrderedMap.size_insert_of_absent isFresh.notInUse keyPair

theorem Gains.trans (first : Gains provider reserved count preKeys middle)
    (second : Gains provider reserved more middle later) :
    Gains provider reserved (count + more) preKeys later where
  keeps id keyPair found := second.keeps id keyPair (first.keeps id keyPair found)
  fresh id keyPair found := by
    obtain earlier | isFresh := second.fresh id keyPair found
    · exact first.fresh id keyPair earlier
    · refine .inr { isFresh with notInUse := ?_ }
      cases held : preKeys.find? id with
      | none => rfl
      | some other => exact absurd (first.keeps id other held) (by simp [isFresh.notInUse])
  size := by rw [second.size, first.size, Nat.add_assoc]

theorem drawFreeId_eq_ok
    (drawn : drawFreeId provider preKeys reserved draws before = .ok id after) :
    preKeys.find? id = none ∧ firstOneTimePreKeyId ≤ id ∧ id ≠ reserved := by
  induction draws generalizing before with
  | zero => simp [drawFreeId] at drawn
  | succ draws inductionHypothesis =>
    simp only [drawFreeId, Crypto.bind_eq_ok] at drawn
    obtain ⟨candidate, _, _, drawn⟩ := drawn
    split at drawn
    · rename_i suitable
      obtain ⟨rfl, _⟩ := Crypto.pure_eq_ok.1 drawn
      simp only [isFree, Bool.and_eq_true, decide_eq_true_eq, bne_iff_ne, ne_eq,
        Bool.not_eq_true', OrderedMap.contains_eq_false_iff] at suitable
      exact ⟨suitable.2.2, suitable.1, suitable.2.1⟩
    · exact inductionHypothesis drawn

theorem generateOne_eq_ok
    (generates : generateOne provider preKeys reserved before = .ok (id, keyPair) after) :
    IsFresh provider reserved preKeys id keyPair := by
  simp only [generateOne, Crypto.bind_eq_ok, Crypto.pure_eq_ok, Prod.mk.injEq] at generates
  obtain ⟨_, _, drawn, _, _, generated, ⟨rfl, rfl⟩, _⟩ := generates
  obtain ⟨notInUse, afterFirst, notReserved⟩ := drawFreeId_eq_ok drawn
  exact ⟨notInUse, afterFirst, notReserved, _, _, generated⟩

/-- A batch that has come to its end has added all its keys. -/
theorem gains_of_addRandom {batch result : PreKeyBatch}
    (added : addRandom provider reserved count batch before = .ok result after)
    (finished : result.failure = none) :
    Gains provider reserved count batch.preKeys result.preKeys := by
  induction count generalizing batch before with
  | zero =>
    obtain ⟨rfl, _⟩ := Crypto.pure_eq_ok.1 added
    exact .refl provider reserved _
  | succ count inductionHypothesis =>
    unfold addRandom at added
    split at added
    · cases added
      cases finished
    · rename_i generates
      rw [Nat.add_comm]
      exact (generateOne_eq_ok generates).gains.trans (inductionHypothesis added)

end OneTimePreKeys

/-! ### Answers -/

namespace Identity

variable {identity later : Identity} {hello : Hello} {target : Nat} {drawn : List UInt32}
  {replenishment : Replenishment}

/-- A replenishment that succeeds has filled the one-time pre-keys up, and changed nothing else. -/
theorem replenish_gains
    (replenished : identity.replenish provider target before = .ok replenishment after)
    (succeeded : replenishment.outcome = .ok drawn) :
    ∃ preKeys, replenishment.identity = { identity with oneTimePreKeys := preKeys } ∧
      OneTimePreKeys.Gains provider identity.signedPreKey.id (target - identity.oneTimePreKeyCount)
        identity.oneTimePreKeys preKeys := by
  cases live : identity.ensureLive with
  | error failure =>
    simp only [replenish, live, Crypto.pure_eq_ok] at replenished
    obtain ⟨rfl, _⟩ := replenished
    cases succeeded
  | ok _ =>
    simp only [replenish, live, Crypto.bind_eq_ok, Crypto.pure_eq_ok] at replenished
    obtain ⟨batch, _, added, rfl, _⟩ := replenished
    refine ⟨batch.preKeys, rfl, OneTimePreKeys.gains_of_addRandom added ?_⟩
    cases failure : batch.failure with
    | none => rfl
    | some reason =>
      simp only [failure] at succeeded
      cases succeeded

/-- The identity after it has answered a hello: as it is recorded, without the one-time pre-key
that the hello names, and with fresh ones if too few are left. -/
structure HasAnswered (provider : Provider σ) (config : Config) (hello : Hello)
    (identity later : Identity) : Prop where
  keys : later =
    { identity with ephemeral := none, oneTimePreKeys := later.oneTimePreKeys }
  preKeys :
    config.minOneTimePreKeys ≤ (identity.consumeNamed hello).oneTimePreKeyCount ∧
        later.oneTimePreKeys = (identity.consumeNamed hello).oneTimePreKeys ∨
      (identity.consumeNamed hello).oneTimePreKeyCount < config.minOneTimePreKeys ∧
        OneTimePreKeys.Gains provider identity.signedPreKey.id
          (config.oneTimePreKeyCount - (identity.consumeNamed hello).oneTimePreKeyCount)
          (identity.consumeNamed hello).oneTimePreKeys later.oneTimePreKeys

/-- A used key is removed from the one-time pre-keys, and nothing else. -/
theorem consumeNamed_with (identity : Identity) (ephemeral : Option X25519KeyPair) (hello : Hello) :
    { identity with ephemeral := ephemeral }.consumeNamed hello =
      { identity with
        ephemeral := ephemeral
        oneTimePreKeys := (identity.consumeNamed hello).oneTimePreKeys } := by
  unfold consumeNamed
  split <;> rfl

end Identity

end RatchetMessaging
