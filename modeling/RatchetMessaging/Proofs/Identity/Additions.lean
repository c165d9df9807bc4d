import RatchetMessaging.Handshake.Bundle
import RatchetMessaging.Proofs.Identity.Replenishment
import RatchetMessaging.Proofs.Provider.Transparent

/-!
Contract: the one-time pre-keys that a replenishment adds, number by number.

Owns:
- `OneTimePreKeys.Adds`, pre-keys with fresh ones added under the numbers of a list, and that a
  batch that succeeds adds exactly the numbers that it lists;
- the bundle of a live identity lists the one-time pre-keys in increasing order of their numbers;
- a replenishment that succeeds adds exactly as many as are missing, and changes nothing else.

Does not own: a replenishment that fails.
-/

namespace RatchetMessaging

variable {σ : Type} {provider : Provider σ} {before after : σ}

/-! ### Batches -/

namespace OneTimePreKeys

variable {preKeys later : OneTimePreKeys} {reserved id : UInt32} {keyPair : X25519KeyPair}
  {added : List UInt32} {count : Nat}

/-- The old keys with a fresh one under each number of a list. -/
structure Adds (provider : Provider σ) (reserved : UInt32) (added : List UInt32)
    (preKeys later : OneTimePreKeys) : Prop where
  distinct : added.Nodup
  fresh : ∀ id ∈ added, ∃ keyPair, later.find? id = some keyPair ∧
    IsFresh provider reserved preKeys id keyPair
  others : ∀ id, id ∉ added → later.find? id = preKeys.find? id

theorem Adds.refl (provider : Provider σ) (reserved : UInt32) (preKeys : OneTimePreKeys) :
    Adds provider reserved [] preKeys preKeys :=
  ⟨.nil, by simp, fun _ _ => rfl⟩

/-- What is fresh after an insertion was fresh before, under another number. -/
theorem IsFresh.of_insert {other : UInt32} {otherPair : X25519KeyPair}
    (isFresh : IsFresh provider reserved (preKeys.insert id keyPair) other otherPair) :
    id ≠ other ∧ IsFresh provider reserved preKeys other otherPair := by
  have different : id ≠ other := by
    intro same
    have free := isFresh.notInUse
    rw [same, OrderedMap.find?_insert_self] at free
    cases free
  have free := isFresh.notInUse
  rw [OrderedMap.find?_insert_other _ different] at free
  exact ⟨different, { isFresh with notInUse := free }⟩

/-- One more fresh key goes in before the others. -/
theorem Adds.cons (isFresh : IsFresh provider reserved preKeys id keyPair)
    (rest : Adds provider reserved added (preKeys.insert id keyPair) later) :
    Adds provider reserved (id :: added) preKeys later := by
  have absent : id ∉ added := by
    intro member
    obtain ⟨_, _, again⟩ := rest.fresh id member
    exact again.of_insert.1 rfl
  constructor
  · exact List.nodup_cons.2 ⟨absent, rest.distinct⟩
  · intro other member
    rcases List.mem_cons.1 member with rfl | isLater
    · refine ⟨keyPair, ?_, isFresh⟩
      rw [rest.others other absent, OrderedMap.find?_insert_self]
    · obtain ⟨otherPair, found, otherFresh⟩ := rest.fresh other isLater
      exact ⟨otherPair, found, otherFresh.of_insert.2⟩
  · intro other outside
    have different : id ≠ other := by
      rintro rfl
      exact outside List.mem_cons_self
    have notLater : other ∉ added := fun isLater => outside (List.mem_cons_of_mem _ isLater)
    rw [rest.others other notLater, OrderedMap.find?_insert_other _ different]

/-- A batch that has come to its end has added a key under each number that it lists. -/
theorem adds_of_addRandom {batch result : PreKeyBatch}
    (adds : addRandom provider reserved count batch before = .ok result after)
    (finished : result.failure = none) :
    ∃ added, result.added = batch.added ++ added ∧ added.length = count ∧
      Adds provider reserved added batch.preKeys result.preKeys := by
  induction count generalizing batch before with
  | zero =>
    obtain ⟨rfl, _⟩ := Crypto.pure_eq_ok.1 adds
    exact ⟨[], (List.append_nil _).symm, rfl, .refl provider reserved _⟩
  | succ count inductionHypothesis =>
    unfold addRandom at adds
    split at adds
    · cases adds
      cases finished
    · rename_i id keyPair between generates
      obtain ⟨added, listed, length, rest⟩ := inductionHypothesis adds
      refine ⟨id :: added, ?_, congrArg (· + 1) length, ?_⟩
      · rw [listed, List.append_assoc, List.singleton_append]
      · exact .cons (generateOne_eq_ok generates) rest

/-- The old numbers stay in use, and the listed ones come to them. -/
theorem Adds.contains_iff (adds : Adds provider reserved added preKeys later) :
    later.contains id = true ↔ preKeys.contains id = true ∨ id ∈ added := by
  by_cases member : id ∈ added
  · obtain ⟨keyPair, found, _⟩ := adds.fresh id member
    exact iff_of_true (OrderedMap.contains_iff.2 ⟨keyPair, found⟩) (.inr member)
  · rw [OrderedMap.contains, adds.others id member, ← OrderedMap.contains]
    exact (or_iff_left member).symm

theorem Adds.keeps (adds : Adds provider reserved added preKeys later)
    (found : preKeys.find? id = some keyPair) : later.find? id = some keyPair := by
  rw [adds.others id]
  · exact found
  · intro member
    obtain ⟨_, _, isFresh⟩ := adds.fresh id member
    rw [isFresh.notInUse] at found
    cases found

/-! ### Public halves -/

theorem publicKeys_increasing (preKeys : OneTimePreKeys) :
    preKeys.publicKeys.Pairwise (fun earlier later => earlier.id < later.id) :=
  List.pairwise_map.2 preKeys.increasing

theorem mem_publicKeys_iff {preKey : OneTimePreKeyPublic} :
    preKey ∈ preKeys.publicKeys ↔ ∃ keyPair, preKeys.find? preKey.id = some keyPair ∧
      keyPair.publicKey = preKey.publicKey := by
  simp only [publicKeys, List.mem_map, OrderedMap.find?_eq_some_iff]
  constructor
  · rintro ⟨entry, member, rfl⟩
    exact ⟨entry.2, member, rfl⟩
  · rintro ⟨keyPair, member, isPublic⟩
    exact ⟨(preKey.id, keyPair), member, by rw [isPublic]⟩

end OneTimePreKeys

/-! ### Replenishments -/

namespace Identity

variable {identity : Identity} {target : Nat} {replenishment : Replenishment}
  {added : List UInt32}

/-- A replenishment that succeeds has added a key under each number that it returns. -/
theorem replenish_adds
    (replenished : identity.replenish provider target before = .ok replenishment after)
    (succeeded : replenishment.outcome = .ok added) :
    identity.disposed = false ∧ added.length = target - identity.oneTimePreKeyCount ∧
      ∃ preKeys, replenishment.identity = { identity with oneTimePreKeys := preKeys } ∧
        OneTimePreKeys.Adds provider identity.signedPreKey.id added identity.oneTimePreKeys
          preKeys := by
  cases live : identity.ensureLive with
  | error failure =>
    simp only [replenish, live, Crypto.pure_eq_ok] at replenished
    obtain ⟨rfl, _⟩ := replenished
    cases succeeded
  | ok _ =>
    simp only [replenish, live, Crypto.bind_eq_ok, Crypto.pure_eq_ok] at replenished
    obtain ⟨batch, _, adds, rfl, _⟩ := replenished
    cases failure : batch.failure with
    | some reason =>
      simp only [failure] at succeeded
      cases succeeded
    | none =>
      simp only [failure] at succeeded
      cases succeeded
      obtain ⟨_, listed, length, isAdded⟩ := OneTimePreKeys.adds_of_addRandom adds failure
      rw [List.nil_append] at listed
      subst listed
      exact ⟨ensureLive_eq_ok.1 live, length, batch.preKeys, rfl, isAdded⟩

/-- A replenishment that succeeds has added exactly as many one-time pre-keys as were missing, under
different numbers that nothing had. All others are as they were, and the bundle lists the old and
the new ones in order of their numbers. -/
theorem replenish_adds_exactly_missing
    (replenished : identity.replenish provider target before = .ok replenishment after)
    (succeeded : replenishment.outcome = .ok added) :
    (added.length = target - identity.oneTimePreKeyCount ∧ added.Nodup ∧
      ∀ id ∈ added, 2 ≤ id ∧ id ≠ identity.signedPreKey.id ∧
        identity.hasOneTimePreKey id = false) ∧
    (∃ preKeys, replenishment.identity = { identity with oneTimePreKeys := preKeys } ∧
      (∀ id keyPair, identity.oneTimePreKeys.find? id = some keyPair →
        preKeys.find? id = some keyPair) ∧
      ∀ id ∈ added, ∃ keyPair drawn generated, preKeys.find? id = some keyPair ∧
        X25519KeyPair.generate provider drawn = .ok keyPair generated) ∧
    (∀ id, replenishment.identity.hasOneTimePreKey id = true ↔
      identity.hasOneTimePreKey id = true ∨ id ∈ added) ∧
    replenishment.identity.oneTimePreKeyCount = max identity.oneTimePreKeyCount target ∧
    ∃ bundle, replenishment.identity.bundle = .ok bundle ∧
      bundle.oneTimePreKeys.Pairwise (fun earlier later => earlier.id < later.id) ∧
      ∀ preKey, preKey ∈ bundle.oneTimePreKeys ↔ ∃ keyPair,
        replenishment.identity.oneTimePreKeys.find? preKey.id = some keyPair ∧
          keyPair.publicKey = preKey.publicKey := by
  obtain ⟨live, length, preKeys, same, adds⟩ := replenish_adds replenished succeeded
  obtain ⟨_, alsoSame, gains⟩ := replenish_gains replenished succeeded
  cases same.symm.trans alsoSame
  have size : preKeys.size = max identity.oneTimePreKeyCount target := by
    have grown := gains.size
    simp only [oneTimePreKeyCount] at grown ⊢
    omega
  rw [same]
  refine ⟨⟨length, adds.distinct, ?_⟩, ⟨preKeys, rfl, fun _ _ => adds.keeps, ?_⟩,
    fun _ => adds.contains_iff, size, ?_⟩
  · intro id member
    obtain ⟨_, _, isFresh⟩ := adds.fresh id member
    exact ⟨isFresh.afterFirst, isFresh.notReserved,
      OrderedMap.contains_eq_false_iff.2 isFresh.notInUse⟩
  · intro id member
    obtain ⟨keyPair, found, isFresh⟩ := adds.fresh id member
    obtain ⟨drawn, generated, generates⟩ := isFresh.generated
    exact ⟨keyPair, drawn, generated, found, generates⟩
  · have isLive : ({ identity with oneTimePreKeys := preKeys } : Identity).ensureLive = .ok () :=
      ensureLive_eq_ok.2 live
    refine ⟨_, by rw [bundle, isLive]; rfl, preKeys.publicKeys_increasing, fun _ => ?_⟩
    exact OneTimePreKeys.mem_publicKeys_iff

/-- An identity that has one one-time pre-key, and is to have three. -/
def sampleWithOne : Identity where
  signing := ⟨⟨.replicate 32 1⟩, (FixedBytes.replicate 32 1).append (.replicate 32 1)⟩
  agreement := .sample
  signedPreKey := ⟨0x02020202, .sample, ⟨.replicate 64 0⟩⟩
  oneTimePreKeys := OrderedMap.empty.insert 0x01010101 .sample

/-- The numbers 0, 0x01010101 and 0x02020202 are passed over: the first is too small, the others are
in use. -/
theorem replenish_adds_exactly_missing_sample :
    ∃ replenishment drawn,
      sampleWithOne.replenish .transparent 3 0 = .ok replenishment drawn ∧
      replenishment.outcome = .ok [0x03030303, 0x05050505] ∧
      (∀ id, replenishment.identity.hasOneTimePreKey id = true ↔
        sampleWithOne.hasOneTimePreKey id = true ∨ id ∈ [0x03030303, 0x05050505]) ∧
      replenishment.identity.oneTimePreKeyCount = 3 := by
  obtain ⟨replenishment, drawn, replenished, succeeded⟩ :
      ∃ replenishment drawn,
        sampleWithOne.replenish .transparent 3 0 = .ok replenishment drawn ∧
          replenishment.outcome = .ok [0x03030303, 0x05050505] :=
    ⟨_, _, rfl, rfl⟩
  obtain ⟨_, _, numbers, count, _⟩ := replenish_adds_exactly_missing replenished succeeded
  exact ⟨replenishment, drawn, replenished, succeeded, numbers, count⟩

end Identity

end RatchetMessaging
