import RatchetMessaging.Proofs.Identity.Genuine
import RatchetMessaging.Proofs.Messenger.Sample

/-!
Contract: identities and their records, in both directions.

Owns:
- `Identity.Reached`, the identities that a caller comes by with the operations alone;
- the identity that is read back from its record, for a provider that repeats itself and accepts
  its own signatures: it lacks only the pending ephemeral key;
- the record that is exported again of one that was read: the same, with its one-time pre-keys in
  the order of their numbers.

Does not own: the bytes of a record, and which records are read at all.
-/

namespace RatchetMessaging.Identity

variable {σ : Type} {provider : Provider σ} {identity : Identity} {before after : σ}

/-! ### Operations -/

/-- The identities of a caller: a new one or one of a master key, and what handshakes and upkeep
make of it. -/
inductive Reached (provider : Provider σ) : Identity → Prop
  | generate {count : Nat} {identity : Identity} {before after : σ}
      (generates : Identity.generate provider count before = .ok identity after) :
      Reached provider identity
  | derive {masterKey membership : Bytes} {count : Nat} {identity : Identity} {before after : σ}
      (derives : Identity.derive provider masterKey membership count before =
        .ok identity after) : Reached provider identity
  | prepareEphemeral {identity later : Identity} {key : X25519PublicKey} {before after : σ}
      (reached : Reached provider identity)
      (prepares : identity.prepareEphemeral provider before = .ok (key, later) after) :
      Reached provider later
  | initiate {identity later : Identity} {bundle : Bundle} {info : Bytes}
      {initiation : Initiation} {before after : σ} (reached : Reached provider identity)
      (initiates : identity.initiate provider bundle info before =
        .ok (initiation, later) after) : Reached provider later
  | respond {identity later : Identity} {hello : Hello} {info : Bytes} {secret : FixedBytes 32}
      {before after : σ} (reached : Reached provider identity)
      (responds : identity.respond provider hello info before = .ok (secret, later) after) :
      Reached provider later
  /-- A replenishment that fails keeps the keys that it has made by then. -/
  | replenish {identity : Identity} {target : Nat} {replenishment : Replenishment}
      {before after : σ} (reached : Reached provider identity)
      (replenishes : identity.replenish provider target before = .ok replenishment after) :
      Reached provider replenishment.identity
  | rotate {identity rotated : Identity} {patience : Nat} {id : UInt32} {before after : σ}
      (reached : Reached provider identity)
      (rotates : identity.rotate provider patience before = .ok (some (id, rotated)) after) :
      Reached provider rotated

theorem Reached.made (reached : Reached provider identity) : Made provider identity := by
  induction reached with
  | generate generates => exact .generate generates
  | derive derives => exact .derive derives
  | prepareEphemeral _ prepares inductionHypothesis =>
    obtain ⟨ephemeral, rfl⟩ := prepareEphemeral_eq_ok prepares
    exact inductionHypothesis.step (.prepare ephemeral)
  | initiate _ initiates inductionHypothesis =>
    obtain rfl := initiate_eq_ok initiates
    exact inductionHypothesis.step (.prepare none)
  | respond _ responds inductionHypothesis =>
    obtain ⟨_, _, _, returned⟩ := Crypto.bind_eq_ok.1 responds
    cases (Crypto.pure_eq_ok.1 returned).1
    exact inductionHypothesis.step (.consume _)
  | replenish _ replenishes inductionHypothesis =>
    exact inductionHypothesis.step (.replenish replenishes)
  | rotate _ rotates inductionHypothesis => exact inductionHypothesis.step (.rotate rotates)

/-! ### From an identity to its record and back -/

/-- An identity that was made exports a record, and is read back from it. -/
theorem Made.returns_ofRecord (made : Made provider identity) (steady : provider.SteadyKeys)
    (vouching : provider.Vouching) :
    ∃ record, identity.exportRecord = .ok record ∧
      Crypto.Returns (ofRecord provider record) { identity with ephemeral := none } := by
  have repeatable := made.meets (steady.upholds_repeatable vouching)
  exact ⟨identity.toRecord, exportRecord_eq_ok.2 ⟨repeatable.live, rfl⟩,
    repeatable.returns_ofRecord vouching⟩

/-! ### From a record to its identity and back -/

/-- What is stored of a one-time pre-key. -/
def preKeyRecord (entry : UInt32 × X25519KeyPair) : Record.OneTimePreKeyRecord where
  id := entry.1
  publicKey := entry.2.publicKey.toBytes
  secretKey := entry.2.secret.toBytes

theorem perm_of_readOneTimePreKeys {records : List Record.OneTimePreKeyRecord}
    {preKeys read : OneTimePreKeys}
    (reads : readOneTimePreKeys provider records preKeys before = .ok read after) :
    (read.entries.map preKeyRecord).Perm (preKeys.entries.map preKeyRecord ++ records) := by
  induction records generalizing preKeys before with
  | nil =>
    obtain ⟨rfl, _⟩ := Crypto.pure_eq_ok.1 reads
    rw [List.append_nil]
  | cons record rest inductionHypothesis =>
    unfold readOneTimePreKeys at reads
    split at reads
    · simp at reads
    · rename_i isNew
      obtain ⟨keyPair, _, isPair, reads⟩ := Crypto.bind_eq_ok.1 reads
      obtain ⟨sameSecret, samePublic, _⟩ := X25519KeyPair.ofStored_eq_ok.1 isPair
      have sameRecord : preKeyRecord (record.id, keyPair) = record := by
        rw [preKeyRecord, sameSecret, samePublic]
      have absent := OrderedMap.contains_eq_false_iff.1 (Bool.not_eq_true _ ▸ isNew)
      have joined := (OrderedMap.perm_insert_of_absent absent keyPair).map preKeyRecord
      rw [List.map_cons, sameRecord] at joined
      exact (inductionHypothesis reads).trans
        ((joined.append_right rest).trans List.perm_middle.symm)

/-- What was read of a record is exported again, with the one-time pre-keys in order. -/
theorem exportRecord_of_ofRecord {record : Record.IdentityRecord}
    (reads : ofRecord provider record before = .ok identity after) :
    ∃ sorted, identity.exportRecord = .ok { record with oneTimePreKeys := sorted } ∧
      sorted.Perm record.oneTimePreKeys ∧
      sorted.Pairwise (fun earlier later => earlier.id < later.id) := by
  obtain ⟨_, _, _, _, isSigning, isAgreement, isPair, sameId, sameSignature, _, arePreKeys, _,
    isLive⟩ := ofRecord_eq_ok reads
  obtain ⟨sameEncoding, sameKey, _⟩ := Ed25519KeyPair.ofStored_eq_ok.1 isSigning
  obtain ⟨sameSecret, samePublic, _⟩ := X25519KeyPair.ofStored_eq_ok.1 isAgreement
  obtain ⟨sameSignedSecret, sameSignedPublic, _⟩ := X25519KeyPair.ofStored_eq_ok.1 isPair
  refine ⟨identity.oneTimePreKeys.entries.map preKeyRecord,
    exportRecord_eq_ok.2 ⟨isLive, ?_⟩, ?_, ?_⟩
  · simp only [toRecord, SignedPreKey.publicKey, sameEncoding, sameKey, sameSecret, samePublic,
      sameId, sameSignedSecret, sameSignedPublic, sameSignature]
    rfl
  · exact perm_of_readOneTimePreKeys arePreKeys
  · exact List.pairwise_map.2 identity.oneTimePreKeys.increasing

/-! ### Both directions -/

/-- For a provider that repeats itself and accepts its own signatures, an identity that a caller
has come by exports a record from which it is read back, but for the pending ephemeral key; and
whatever record is read, its identity exports it again, with its one-time pre-keys in the order of
their numbers. -/
theorem snapshot_round_trip (steady : provider.SteadyKeys) (vouching : provider.Vouching) :
    (∀ identity, Reached provider identity → ∃ record, identity.exportRecord = .ok record ∧
      Crypto.Returns (ofRecord provider record) { identity with ephemeral := none }) ∧
    ∀ record identity before after, ofRecord provider record before = .ok identity after →
      ∃ sorted, identity.exportRecord = .ok { record with oneTimePreKeys := sorted } ∧
        sorted.Perm record.oneTimePreKeys ∧
        sorted.Pairwise (fun earlier later => earlier.id < later.id) :=
  ⟨fun _ reached => reached.made.returns_ofRecord steady vouching,
    fun _ _ _ _ reads => exportRecord_of_ofRecord reads⟩

/-- An identity with a pending ephemeral key and a rotated pre-key, and a record with two one-time
pre-keys out of order. -/
theorem snapshot_round_trip_sample :
    (∃ generated later rotated id key,
      generate .transparent 2 0 = .ok generated 5 ∧
      generated.prepareEphemeral .transparent 5 = .ok (key, later) 6 ∧
      later.rotate .transparent 8 6 = .ok (some (id, rotated)) 8 ∧
      ∃ record, rotated.exportRecord = .ok record ∧
        Crypto.Returns (ofRecord .transparent record) { rotated with ephemeral := none }) ∧
    let key := X25519KeyPair.sample.secret.toBytes
    let unordered : Record.IdentityRecord :=
      { Identity.sample.toRecord with oneTimePreKeys := [⟨7, key, key⟩, ⟨3, key, key⟩] }
    ∃ identity, ofRecord .transparent unordered 0 = .ok identity 0 ∧
      ∃ sorted, identity.exportRecord = .ok { unordered with oneTimePreKeys := sorted } ∧
        sorted.Perm unordered.oneTimePreKeys ∧
        sorted.Pairwise (fun earlier later => earlier.id < later.id) := by
  have steady : Provider.transparent.SteadyKeys := fun _ => Crypto.steady_pure _ _
  obtain ⟨back, again⟩ := snapshot_round_trip steady Provider.transparent_vouching
  constructor
  · obtain ⟨generated, later, rotated, id, key, generates, prepares, rotates⟩ :
        ∃ generated later rotated id key,
          generate .transparent 2 0 = .ok generated 5 ∧
          generated.prepareEphemeral .transparent 5 = .ok (key, later) 6 ∧
          later.rotate .transparent 8 6 = .ok (some (id, rotated)) 8 :=
      ⟨_, _, _, _, _, rfl, rfl, rfl⟩
    exact ⟨generated, later, rotated, id, key, generates, prepares, rotates,
      back rotated (.rotate (.prepareEphemeral (.generate generates) prepares) rotates)⟩
  · intro key unordered
    obtain ⟨identity, reads⟩ : ∃ identity, ofRecord .transparent unordered 0 = .ok identity 0 :=
      ⟨_, rfl⟩
    exact ⟨identity, reads, again unordered identity 0 0 reads⟩

end RatchetMessaging.Identity
