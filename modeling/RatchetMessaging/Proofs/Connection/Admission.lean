import RatchetMessaging.Connection.Basic
import RatchetMessaging.Proofs.Identity.Admission
import RatchetMessaging.Proofs.Provider.Transparent

/-!
Contract: the connection records that are accepted, and what every import comes to.

Owns:
- `Record.ConnectionRecord.Consistent`, what a record has to satisfy: the present version, keys of
  their sizes, and a pair of ratchet keys that belongs together;
- a connection is read of the consistent records, under any limits, and all others are refused;
- every import of an identity or of a connection accepts exactly the consistent records, and
  refuses all others as malformed.

Does not own: the connection that is read.
-/

namespace RatchetMessaging

variable {σ : Type} {provider : Provider σ} {functions : KeyFunctions}

/-- The record has the present version, its keys have their sizes, where they are present, and the
own ratchet keys belong together. -/
@[mk_iff]
structure Record.ConnectionRecord.Consistent (functions : KeyFunctions)
    (record : Record.ConnectionRecord) : Prop where
  version : record.version = SessionRecord.currentVersion
  rootKey : record.rootKey.length = 32
  remoteKey : record.remoteDhPublic = [] ∨ record.remoteDhPublic.length = 32
  supersededKeys : ∀ superseded ∈ record.previousRemoteKeys, superseded.publicKey.length = 32
  retiredKeys : ∀ retired ∈ record.retiredRemoteKeys, retired.length = 32
  sendingChain : ∀ chain ∈ record.sendingChain, chain.key.length = 32
  receivingChain : ∀ chain ∈ record.receivingChain, chain.key.length = 32
  keyPair : functions.IsPair record.dhSecret record.dhPublic
  skippedKeys : ∀ skipped ∈ record.skippedKeys, skipped.key.length = 32

/-! ### Parts of a connection -/

theorem Chain.admits_ofRecord (kind : ChainKind) (record : Record.ChainRecord) :
    Crypto.Admits (record.key.length = 32) (Crypto.ofExcept (ofRecord kind record) : Crypto σ _) :=
  .of_ofBytes? (fun value sized => ⟨⟨kind, value, record.index⟩, by rw [ofRecord, sized]⟩)
    (fun sized => ⟨_, by rw [ofRecord, sized]⟩)

theorem Chain.admits_ofRecord? (kind : ChainKind) (record : Option Record.ChainRecord) :
    Crypto.Admits (∀ chain ∈ record, chain.key.length = 32)
      (Crypto.ofExcept (ofRecord? kind record) : Crypto σ _) := by
  cases record with
  | none => exact (Crypto.Admits.of_returns (Crypto.returns_pure _)).congr (by simp)
  | some chain => exact ((Chain.admits_ofRecord kind chain).map some).congr (by simp)

namespace RatchetState

theorem admits_readRemoteKey (bytes : Bytes) :
    Crypto.Admits (bytes = [] ∨ bytes.length = 32)
      (Crypto.ofExcept (readRemoteKey bytes) : Crypto σ _) := by
  unfold readRemoteKey
  split
  · rename_i isEmpty
    exact (Crypto.Admits.of_returns (Crypto.returns_pure _)).congr
      (iff_of_true trivial (.inl (List.isEmpty_iff.1 isEmpty)))
  · rename_i notEmpty
    exact ((X25519PublicKey.admits_ofField _ bytes).map some).congr
      (or_iff_right fun isNil => notEmpty (List.isEmpty_iff.2 isNil)).symm

theorem admits_readSuperseded (records : List Record.PreviousRemoteKeyRecord) :
    Crypto.Admits (∀ record ∈ records, record.publicKey.length = 32)
      (Crypto.ofExcept (readSuperseded records) : Crypto σ _) := by
  refine Crypto.Admits.mapM (fun record => ?_) records
  rw [Crypto.ofExcept_bind]
  exact (X25519PublicKey.admits_ofField _ _).bind_pure _

theorem admits_readRetired (fields : List Bytes) :
    Crypto.Admits (∀ field ∈ fields, field.length = 32)
      (Crypto.ofExcept (readRetired fields) : Crypto σ _) :=
  (Crypto.Admits.mapM (fun field => X25519PublicKey.admits_ofField _ field) fields).map
    (fun keys => keys.drop (keys.length - maxRetiredKeys))

end RatchetState

/-- A key of the wrong size is refused also when there is no room for it. -/
theorem SkippedKeys.admits_insertRecords (cache : SkippedKeys (FixedBytes 32))
    (records : List Record.SkippedKeyRecord) :
    Crypto.Admits (∀ record ∈ records, record.key.length = 32)
      (Crypto.ofExcept (insertRecords cache records) : Crypto σ _) := by
  induction records generalizing cache with
  | nil => exact (Crypto.Admits.of_returns (Crypto.returns_pure _)).congr (by simp)
  | cons first rest inductionHypothesis =>
    unfold insertRecords
    cases sized : FixedBytes.ofBytes? 32 first.key with
    | none =>
      exact .of_throw _ fun areSized =>
        FixedBytes.ofBytes?_eq_none_iff.1 sized (areSized first List.mem_cons_self)
    | some key =>
      have isSized : first.key.length = 32 := by
        rw [← FixedBytes.ofBytes?_eq_some_iff.1 sized, FixedBytes.length_toBytes]
      refine (inductionHypothesis _).congr ?_
      rw [List.forall_mem_cons]
      exact (and_iff_right isSized).symm

/-! ### Connections -/

/-- A state is read of the consistent records, and all others are refused. -/
theorem RatchetState.admits_ofRecord (computes : provider.Computes functions)
    (limits : RatchetLimits) (record : Record.ConnectionRecord) :
    Crypto.Admits (record.Consistent functions) (ofRecord provider limits record) := by
  refine Crypto.Admits.congr ?_ (record.consistent_iff functions).symm
  unfold ofRecord
  refine (Crypto.Admits.of_guard _ fun _ => ?_).congr (and_congr_left fun _ => Decidable.not_not)
  cases sized : FixedBytes.ofBytes? 32 record.rootKey with
  | none => exact .of_throw _ fun holds => FixedBytes.ofBytes?_eq_none_iff.1 sized holds.1
  | some rootKey =>
    have isSized : record.rootKey.length = 32 := by
      rw [← FixedBytes.ofBytes?_eq_some_iff.1 sized, FixedBytes.length_toBytes]
    refine Crypto.Admits.congr ?_ (and_iff_right isSized).symm
    refine (admits_readRemoteKey _).bind fun remoteKey _ => ?_
    refine (admits_readSuperseded _).bind fun supersededKeys _ => ?_
    refine (admits_readRetired _).bind fun retiredKeys _ => ?_
    refine (Chain.admits_ofRecord? _ _).bind fun sendingChain _ => ?_
    refine (Chain.admits_ofRecord? _ _).bind fun receivingChain _ => ?_
    refine (X25519KeyPair.admits_ofStored computes _ _).bind fun keyPair _ => ?_
    exact (SkippedKeys.admits_insertRecords _ _).bind_pure _

/-- A connection is read of the consistent records, and all others are refused. -/
theorem Connection.admits_ofRecord (computes : provider.Computes functions)
    (limits : RatchetLimits) (record : Record.ConnectionRecord) :
    Crypto.Admits (record.Consistent functions) (ofRecord provider limits record) :=
  (RatchetState.admits_ofRecord computes limits record).bind_pure _

/-! ### Imports -/

/-- Of a provider that does not fail, an import accepts exactly the consistent records, whatever the
provider remembers and under any limits, and it refuses every other record as malformed. -/
theorem import_accepts_exactly_consistent (computes : provider.Computes functions) :
    (∀ record before,
      ((∃ identity after, Identity.ofRecord provider record before = .ok identity after) ↔
        record.Consistent functions) ∧
      (¬ record.Consistent functions → ∃ detail after,
        Identity.ofRecord provider record before = .error (.decode detail) after)) ∧
    ∀ limits record before,
      ((∃ connection after, Connection.ofRecord provider limits record before =
        .ok connection after) ↔ record.Consistent functions) ∧
      (¬ record.Consistent functions → ∃ detail after,
        Connection.ofRecord provider limits record before = .error (.decode detail) after) := by
  constructor
  · intro record before
    have admits := Identity.admits_ofRecord computes record
    exact ⟨admits.eq_ok_iff before, fun inconsistent => admits.refuses inconsistent before⟩
  · intro limits record before
    have admits := Connection.admits_ofRecord computes limits record
    exact ⟨admits.eq_ok_iff before, fun inconsistent => admits.refuses inconsistent before⟩

/-- What `Provider.transparent` computes. -/
def KeyFunctions.transparent : KeyFunctions where
  publicKey := Primitives.transparent.publicKey
  signingPair seed := (seed.append seed, seed)
  verifies _ message signature := signature = .fit 64 message

theorem Provider.transparent_computes : Provider.transparent.Computes .transparent where
  publicKey _ := Crypto.returns_pure _
  signingPair _ := Crypto.returns_pure _
  verifies _ _ _ := Crypto.returns_pure _

/-- An identity whose one-time pre-key is listed twice, and a connection with a chain key that lacks
a byte, are refused; without these faults they are accepted. -/
theorem import_accepts_exactly_consistent_sample :
    let seed : Bytes := List.replicate 32 1
    let key : Bytes := List.replicate 32 50
    let identity : Record.IdentityRecord := {
      ed25519Public := seed
      ed25519Secret := seed ++ seed
      identityX25519Public := key
      identityX25519Secret := key
      signedPreKeyPublic := key
      signedPreKeySecret := key
      signedPreKeySignature := key ++ List.replicate 32 0
      oneTimePreKeys := [⟨7, key, key⟩] }
    let connection : Record.ConnectionRecord := {
      version := 1
      rootKey := key
      sendingChain := some ⟨key, 0⟩
      dhSecret := key
      dhPublic := key }
    (∃ accepted after, Identity.ofRecord .transparent identity 0 = .ok accepted after) ∧
      (∃ detail after, Identity.ofRecord .transparent
        { identity with oneTimePreKeys := [⟨7, key, key⟩, ⟨7, key, key⟩] } 0 =
          .error (.decode detail) after) ∧
      (∃ accepted after, Connection.ofRecord .transparent (.sample 8) connection 0 =
        .ok accepted after) ∧
      ∃ detail after, Connection.ofRecord .transparent (.sample 8)
        { connection with sendingChain := some ⟨key.drop 1, 0⟩ } 0 =
          .error (.decode detail) after := by
  intro seed key identity connection
  obtain ⟨identities, connections⟩ :=
    import_accepts_exactly_consistent Provider.transparent_computes
  have isPair : KeyFunctions.transparent.IsPair key key := ⟨rfl, rfl, rfl⟩
  refine ⟨(identities identity 0).1.2 ?_, (identities _ 0).2 ?_,
    (connections _ connection 0).1.2 ?_, (connections _ _ 0).2 ?_⟩
  · exact {
      signing := ⟨rfl, rfl, rfl, rfl⟩
      agreement := isPair
      signature := rfl
      signedPreKey := isPair
      verified := by decide
      oneTimePreKeys := fun _ member => List.mem_singleton.1 member ▸ isPair
      distinct := by decide }
  · exact fun consistent => absurd consistent.distinct (by decide)
  · exact {
      version := rfl
      rootKey := rfl
      remoteKey := .inl rfl
      supersededKeys := nofun
      retiredKeys := nofun
      sendingChain := by rintro _ ⟨⟩; rfl
      receivingChain := nofun
      keyPair := isPair
      skippedKeys := nofun }
  · exact fun consistent => absurd (consistent.sendingChain _ rfl) (by decide)

end RatchetMessaging
