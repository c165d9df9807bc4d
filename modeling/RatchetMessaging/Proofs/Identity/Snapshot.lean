import RatchetMessaging.Handshake.Agreement
import RatchetMessaging.Identity.Snapshot
import RatchetMessaging.Identity.Upkeep
import RatchetMessaging.Proofs.Key
import RatchetMessaging.Proofs.OrderedMap

/-!
Contract: what of an identity survives its record, a handshake and its upkeep.

Owns:
- the identity that is read back, whatever the provider does: it lacks only the pending ephemeral
  key;
- what either side of a handshake changes;
- the one-time pre-keys after a replenishment: the old ones, and those with the numbers that were
  drawn.

Does not own: the bytes of a record.
-/

namespace RatchetMessaging

variable {σ : Type} {provider : Provider σ} {before after : σ}

namespace Identity

variable {identity restored : Identity}

/-! ### Reading a record back -/

/-- The keys are read in the order of their numbers, so each is placed behind those before. -/
theorem readOneTimePreKeys_eq_ok {entries : List (UInt32 × X25519KeyPair)}
    (preKeys : OneTimePreKeys) {read : OneTimePreKeys}
    (increasing : (preKeys.entries ++ entries).Pairwise
      (fun earlier later => earlier.1 < later.1))
    (reads : readOneTimePreKeys provider
      (entries.map (fun entry => { id := entry.1
                                   publicKey := entry.2.publicKey.toBytes
                                   secretKey := entry.2.secret.toBytes })) preKeys before =
        .ok read after) :
    read.entries = preKeys.entries ++ entries := by
  induction entries generalizing preKeys before with
  | nil =>
    obtain ⟨rfl, _⟩ := Crypto.pure_eq_ok.1 reads
    exact (List.append_nil _).symm
  | cons first rest inductionHypothesis =>
    simp only [List.map_cons, readOneTimePreKeys] at reads
    split at reads
    · simp at reads
    · obtain ⟨keyPair, _, isPair, reads⟩ := Crypto.bind_eq_ok.1 reads
      obtain rfl := X25519KeyPair.ofStored_toBytes isPair
      have placed := OrderedMap.entries_insert_of_increasing increasing
      rw [← placed] at increasing ⊢
      exact inductionHypothesis _ increasing reads

/-- What is read of a record: keys that the provider makes again, a signature that it verifies
again, and nothing else. -/
theorem ofRecord_eq_ok {record : Record.IdentityRecord}
    (reads : ofRecord provider record before = .ok restored after) :
    ∃ first second third fourth,
      Ed25519KeyPair.ofStored provider record.ed25519Secret record.ed25519Public before =
        .ok restored.signing first ∧
      X25519KeyPair.ofStored provider record.identityX25519Secret record.identityX25519Public
        first = .ok restored.agreement second ∧
      X25519KeyPair.ofStored provider record.signedPreKeySecret record.signedPreKeyPublic second =
        .ok restored.signedPreKey.keyPair third ∧
      restored.signedPreKey.id = record.signedPreKeyId ∧
      restored.signedPreKey.signature.toBytes = record.signedPreKeySignature ∧
      restored.signedPreKey.verify provider restored.signing.publicKey third = .ok true fourth ∧
      readOneTimePreKeys provider record.oneTimePreKeys .empty fourth =
        .ok restored.oneTimePreKeys after ∧
      restored.ephemeral = none ∧ restored.disposed = false := by
  simp only [ofRecord, Crypto.bind_eq_ok, Crypto.pure_eq_ok, Crypto.ofExcept_eq_ok,
    Ed25519Signature.ofField_eq_ok] at reads
  obtain ⟨signing, first, isSigning, agreement, second, isAgreement, signature, _,
    ⟨isSignature, rfl⟩, keyPair, third, isPair, signedPreKey, fourth, isSignedPreKey, preKeys, _,
    arePreKeys, rfl, rfl⟩ := reads
  obtain ⟨rfl, isVerified⟩ := SignedPreKey.ofStored_eq_ok.1 isSignedPreKey
  exact ⟨first, second, third, fourth, isSigning, isAgreement, isPair, rfl, isSignature,
    isVerified, arePreKeys, rfl, rfl⟩

/-- An identity that is read back lacks only the pending ephemeral key. -/
theorem ofRecord_toRecord_eq_ok
    (reads : ofRecord provider identity.toRecord before = .ok restored after) :
    restored = { identity with ephemeral := none, disposed := false } := by
  obtain ⟨_, _, _, _, isSigning, isAgreement, isPair, sameId, sameSignature, _, arePreKeys,
    noEphemeral, isLive⟩ := ofRecord_eq_ok reads
  have sameSigning := Ed25519KeyPair.ofStored_toBytes isSigning
  have sameAgreement := X25519KeyPair.ofStored_toBytes isAgreement
  have samePair := X25519KeyPair.ofStored_toBytes isPair
  have samePreKeys := OrderedMap.ext
    (readOneTimePreKeys_eq_ok .empty identity.oneTimePreKeys.increasing arePreKeys)
  obtain ⟨signing, agreement, ⟨id, keyPair, ⟨signature⟩⟩, preKeys, ephemeral, disposed⟩ := restored
  obtain rfl := FixedBytes.ext sameSignature
  subst sameSigning sameAgreement samePair sameId samePreKeys noEphemeral isLive
  rfl

theorem ensureLive_eq_ok {done : Unit} :
    identity.ensureLive = .ok done ↔ identity.disposed = false := by
  unfold ensureLive
  cases identity.disposed <;> simp

theorem exportRecord_eq_ok {record : Record.IdentityRecord} :
    identity.exportRecord = .ok record ↔
      identity.disposed = false ∧ record = identity.toRecord := by
  unfold exportRecord ensureLive
  cases identity.disposed with
  | true => exact iff_of_false nofun nofun
  | false =>
    constructor
    · intro exported
      cases exported
      exact ⟨rfl, rfl⟩
    · rintro ⟨_, rfl⟩
      rfl

/-- The copy of an identity lacks only the pending ephemeral key. -/
theorem clone_eq_ok (cloned : identity.clone provider before = .ok restored after) :
    identity.disposed = false ∧ restored = { identity with ephemeral := none } := by
  simp only [clone, Crypto.bind_eq_ok, Crypto.ofExcept_eq_ok, exportRecord_eq_ok] at cloned
  obtain ⟨_, _, ⟨⟨isLive, rfl⟩, _⟩, reads⟩ := cloned
  refine ⟨isLive, ?_⟩
  rw [ofRecord_toRecord_eq_ok reads, ← isLive]

/-! ### Handshakes -/

theorem prepareEphemeral_eq_ok {prepared : Identity} {key : X25519PublicKey}
    (prepares : identity.prepareEphemeral provider before = .ok (key, prepared) after) :
    ∃ ephemeral, prepared = { identity with ephemeral := ephemeral } := by
  simp only [prepareEphemeral, Crypto.bind_eq_ok, Crypto.pure_eq_ok, Prod.mk.injEq] at prepares
  obtain ⟨_, _, _, keyPair, _, _, ⟨_, rfl⟩, _⟩ := prepares
  exact ⟨some keyPair, rfl⟩

/-- The key that has served is wiped. -/
theorem initiate_eq_ok {prepared : Identity} {bundle : Bundle} {info : Bytes}
    {initiation : Initiation}
    (initiates : identity.initiate provider bundle info before = .ok (initiation, prepared) after) :
    prepared = { identity with ephemeral := none } := by
  simp only [initiate, Crypto.bind_eq_ok] at initiates
  obtain ⟨_, _, _, _, _, _, verified, _, _, initiates⟩ := initiates
  cases verified with
  | false => simp [Crypto.bind_eq_ok] at initiates
  | true =>
    cases ephemeral : identity.ephemeral with
    | none => simp [ephemeral] at initiates
    | some keyPair =>
      simp only [ephemeral, Bool.not_true, Bool.false_eq_true, if_false, Crypto.bind_eq_ok,
        Crypto.pure_eq_ok, Prod.mk.injEq] at initiates
      obtain ⟨_, _, _, _, _, _, _, _, _, _, _, _, _, _, _, ⟨_, rfl⟩, _⟩ := initiates
      rfl

/-- A used key is gone, and the others stay. -/
theorem hasOneTimePreKey_consumeNamed {hello : Hello} {id : UInt32}
    (held : (identity.consumeNamed hello).hasOneTimePreKey id = true) :
    identity.hasOneTimePreKey id = true ∧ hello.oneTimePreKeyId ≠ some id := by
  unfold consumeNamed at held
  split at held
  · rename_i consumed named
    rw [named]
    simp only [hasOneTimePreKey, consumeOneTimePreKey, OrderedMap.contains,
      OrderedMap.find?_erase] at held
    split at held
    · cases held
    · rename_i different
      refine ⟨held, fun same => different ?_⟩
      cases same
      exact OrderedMap.sameKey_iff.2 rfl
  · rename_i unnamed
    exact ⟨held, by simp [unnamed]⟩

end Identity

/-! ### Upkeep -/

/-- A batch has the keys from before, and keys under the numbers that were added. -/
theorem OneTimePreKeys.contains_of_addRandom {reserved : UInt32} {count : Nat}
    {batch result : PreKeyBatch}
    (added : addRandom provider reserved count batch before = .ok result after) :
    (∀ id ∈ batch.added, id ∈ result.added) ∧
      ∀ id, result.preKeys.contains id = true →
        batch.preKeys.contains id = true ∨ id ∈ result.added := by
  induction count generalizing batch before with
  | zero =>
    obtain ⟨rfl, _⟩ := Crypto.pure_eq_ok.1 added
    exact ⟨fun _ => id, fun _ => .inl⟩
  | succ count inductionHypothesis =>
    unfold addRandom at added
    split at added
    · cases added
      exact ⟨fun _ => id, fun _ => .inl⟩
    · rename_i drawn keyPair _ _
      obtain ⟨kept, held⟩ := inductionHypothesis added
      refine ⟨fun id member => kept id (List.mem_append_left _ member), fun id contained => ?_⟩
      rcases held id contained with earlier | isNew
      · by_cases same : drawn = id
        · exact .inr (kept id (List.mem_append_right _ (by simp [same])))
        · rw [OrderedMap.contains, OrderedMap.find?_insert_other _ same] at earlier
          exact .inl earlier
      · exact .inr isNew

namespace Identity

variable {identity : Identity}

/-- A replenishment fails at once, or puts a batch in place of the one-time pre-keys. -/
theorem replenish_cases {target : Nat} {replenishment : Replenishment}
    (replenished : identity.replenish provider target before = .ok replenishment after) :
    (∃ failure, replenishment = ⟨identity, .error failure⟩) ∨
      ∃ count batch, OneTimePreKeys.addRandom provider identity.signedPreKey.id count
          ⟨identity.oneTimePreKeys, [], none⟩ before = .ok batch after ∧
        replenishment.identity = { identity with oneTimePreKeys := batch.preKeys } ∧
        ∀ drawn, replenishment.outcome = .ok drawn → drawn = batch.added := by
  cases live : identity.ensureLive with
  | error failure =>
    simp only [replenish, live, Crypto.pure_eq_ok] at replenished
    obtain ⟨rfl, _⟩ := replenished
    exact .inl ⟨failure, rfl⟩
  | ok _ =>
    simp only [replenish, live, Crypto.bind_eq_ok, Crypto.pure_eq_ok] at replenished
    obtain ⟨batch, _, added, rfl, rfl⟩ := replenished
    refine .inr ⟨_, batch, added, rfl, fun drawn succeeded => ?_⟩
    simp only at succeeded
    split at succeeded
    · cases succeeded
    · cases succeeded
      rfl

/-- A replenishment changes the one-time pre-keys only, and adds keys under the numbers drawn. -/
theorem replenish_eq_ok {target : Nat} {replenishment : Replenishment} {drawn : List UInt32}
    (replenished : identity.replenish provider target before = .ok replenishment after)
    (succeeded : replenishment.outcome = .ok drawn) :
    replenishment.identity.disposed = identity.disposed ∧
      ∀ id, replenishment.identity.hasOneTimePreKey id = true →
        identity.hasOneTimePreKey id = true ∨ id ∈ drawn := by
  rcases replenish_cases replenished with ⟨_, rfl⟩ | ⟨_, batch, added, same, isDrawn⟩
  · cases succeeded
  · rw [same, isDrawn drawn succeeded]
    exact ⟨rfl, (OneTimePreKeys.contains_of_addRandom added).2⟩

/-- A rotation puts a generated pre-key in place of the signed one. -/
theorem rotate_eq_ok {patience : Nat} {id : UInt32} {rotated : Identity}
    (rotates : identity.rotate provider patience before = .ok (some (id, rotated)) after) :
    identity.disposed = false ∧
      ∃ signedPreKey between,
        SignedPreKey.generate provider id identity.signing between = .ok signedPreKey after ∧
        rotated = { identity with signedPreKey := signedPreKey } := by
  simp only [rotate, Crypto.bind_eq_ok, Crypto.ofExcept_eq_ok, ensureLive_eq_ok] at rotates
  obtain ⟨_, _, ⟨isLive, _⟩, drawn, between, _, rotates⟩ := rotates
  cases drawn with
  | none => simp [Crypto.pure_eq_ok] at rotates
  | some number =>
    simp only [Crypto.bind_eq_ok, Crypto.pure_eq_ok, Option.some.injEq, Prod.mk.injEq] at rotates
    obtain ⟨signedPreKey, _, generated, ⟨rfl, rfl⟩, rfl⟩ := rotates
    exact ⟨isLive, signedPreKey, between, generated, rfl⟩

end Identity

end RatchetMessaging
