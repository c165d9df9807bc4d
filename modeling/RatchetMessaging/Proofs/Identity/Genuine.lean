import Mathlib.Logic.Relation
import RatchetMessaging.Identity.Derivation
import RatchetMessaging.Proofs.Identity.Snapshot
import RatchetMessaging.Proofs.Provider.Agreeing

/-!
Contract: how a party comes by its keys, and that they belong together.

Owns:
- `Identity.Step`, whatever changes an identity, and the long-term keys that no step changes;
- `Identity.Made`, the ways to come by an identity: it is generated, derived or read, and takes
  steps;
- `KeyStandard`, what is asked of keys, and that an identity that was made meets every standard that
  its provider upholds;
- every pair of an identity that was made fits, its signing pair has a seed, and its signed pre-key
  is vouched for;
- an identity whose pairs are made again and whose signature is verified again is read back from its
  record, so that a live one can be copied.

Does not own: what makes a process take the steps.
-/

namespace RatchetMessaging

variable {σ τ : Type} {provider : Provider σ} {working : Provider τ} {primitives : Primitives}
  {before after : σ}

/-! ### Steps -/

namespace Identity

/-- What can change an identity. -/
inductive Step (provider : Provider σ) (identity : Identity) : Identity → Prop
  /-- The pending ephemeral key changes. -/
  | prepare (ephemeral : Option X25519KeyPair) :
      Step provider identity { identity with ephemeral := ephemeral }
  /-- A handshake uses up a one-time pre-key. -/
  | consume (hello : Hello) : Step provider identity (identity.consumeNamed hello)
  /-- The one-time pre-keys are replenished, as far as that succeeds. -/
  | replenish {target : Nat} {replenishment : Replenishment} {before after : σ}
      (replenishes : identity.replenish provider target before = .ok replenishment after) :
      Step provider identity replenishment.identity
  /-- The signed pre-key is replaced. -/
  | rotate {patience : Nat} {id : UInt32} {rotated : Identity} {before after : σ}
      (rotates : identity.rotate provider patience before = .ok (some (id, rotated)) after) :
      Step provider identity rotated

/-- Steps one after the other. -/
abbrev Steps (provider : Provider σ) : Identity → Identity → Prop :=
  Relation.ReflTransGen (Step provider)

variable {identity later : Identity}

theorem consumeNamed_eq (identity : Identity) (hello : Hello) :
    ∃ preKeys, identity.consumeNamed hello = { identity with oneTimePreKeys := preKeys } := by
  unfold consumeNamed
  split
  · exact ⟨_, rfl⟩
  · exact ⟨identity.oneTimePreKeys, rfl⟩

/-- What no step changes: the long-term keys, and whether the identity is live. -/
structure Succeeds (later identity : Identity) : Prop where
  signing : later.signing = identity.signing
  agreement : later.agreement = identity.agreement
  disposed : later.disposed = identity.disposed

theorem Step.succeeds (step : identity.Step provider later) : later.Succeeds identity := by
  cases step with
  | prepare ephemeral => exact ⟨rfl, rfl, rfl⟩
  | consume hello =>
    obtain ⟨preKeys, same⟩ := identity.consumeNamed_eq hello
    rw [same]
    exact ⟨rfl, rfl, rfl⟩
  | replenish replenishes =>
    rcases replenish_cases replenishes with ⟨_, rfl⟩ | ⟨_, _, _, same, _⟩
    · exact ⟨rfl, rfl, rfl⟩
    · rw [same]
      exact ⟨rfl, rfl, rfl⟩
  | rotate rotates =>
    obtain ⟨_, _, _, _, rfl⟩ := rotate_eq_ok rotates
    exact ⟨rfl, rfl, rfl⟩

theorem Steps.succeeds (steps : Steps provider identity later) : later.Succeeds identity := by
  induction steps with
  | refl => exact ⟨rfl, rfl, rfl⟩
  | tail _ step inductionHypothesis =>
    have last := step.succeeds
    exact ⟨last.signing.trans inductionHypothesis.signing,
      last.agreement.trans inductionHypothesis.agreement,
      last.disposed.trans inductionHypothesis.disposed⟩

end Identity

/-! ### Standards for keys -/

/-- What is asked of the keys of an identity: of each agreement pair, of the signing pair, and of
the signed pre-key under the verification key of its owner. -/
structure KeyStandard where
  pair : X25519KeyPair → Prop
  signing : Ed25519KeyPair → Prop
  signed : Ed25519PublicKey → SignedPreKey → Prop

/-- Whatever the provider makes, signs and verifies meets the standard. -/
structure KeyStandard.UpheldBy (standard : KeyStandard) (provider : Provider σ) : Prop where
  pair : ∀ {secret before pair after},
    X25519KeyPair.ofSecret provider secret before = .ok pair after → standard.pair pair
  signing : ∀ {seed before pair after},
    Ed25519KeyPair.ofSeed provider seed before = .ok pair after → standard.signing pair
  signed : ∀ {id keyPair signer before preKey after}, standard.signing signer →
    SignedPreKey.sign provider id keyPair signer before = .ok preKey after →
      standard.signed signer.publicKey preKey
  verified : ∀ {owner} {preKey : SignedPreKey} {before after},
    preKey.verify provider owner before = .ok true after → standard.signed owner preKey

namespace KeyStandard.UpheldBy

variable {standard : KeyStandard} {pair : X25519KeyPair}

theorem generated (upheld : standard.UpheldBy provider)
    (generates : X25519KeyPair.generate provider before = .ok pair after) :
    standard.pair pair := by
  obtain ⟨_, _, _, made⟩ := Crypto.bind_eq_ok.1 generates
  exact upheld.pair made

theorem stored (upheld : standard.UpheldBy provider) {secret publicKey : Bytes}
    (reads : X25519KeyPair.ofStored provider secret publicKey before = .ok pair after) :
    standard.pair pair :=
  upheld.pair (X25519KeyPair.ofStored_eq_ok.1 reads).2.2

end KeyStandard.UpheldBy

/-- Pairs fit, and the provider vouches for signatures if it accepts those of its own pairs. -/
def KeyStandard.fitting (working : Provider τ) (primitives : Primitives) : KeyStandard where
  pair := primitives.Fits
  signing := Ed25519KeyPair.Seeded working
  signed owner preKey := working.Vouching → preKey.VouchedFor working owner

theorem Provider.Imitates.upholds_fitting (imitates : provider.Imitates working primitives) :
    (KeyStandard.fitting working primitives).UpheldBy provider where
  pair := imitates.publishes.fits_of_ofSecret
  signing := imitates.seeds
  signed seeded signed vouching :=
    SignedPreKey.vouchedFor_of_sign (imitates.signs vouching seeded) signed
  verified isVerified vouching := imitates.verifies vouching isVerified

/-- The provider makes the pairs again from their secrets, and it verifies the signatures again. -/
def KeyStandard.repeatable (provider : Provider σ) : KeyStandard where
  pair := X25519KeyPair.Matches provider
  signing := Ed25519KeyPair.Seeded provider
  signed owner preKey := preKey.VouchedFor provider owner

theorem Provider.SteadyKeys.upholds_repeatable (steady : provider.SteadyKeys)
    (vouching : provider.Vouching) : (KeyStandard.repeatable provider).UpheldBy provider where
  pair := X25519KeyPair.matches_of_ofSecret steady.repeats
  signing made := ⟨_, _, _, made⟩
  signed seeded signed := SignedPreKey.vouchedFor_of_sign (vouching.accepts seeded) signed
  verified := vouching.steady

/-! ### One-time pre-keys -/

/-- Every pair meets a condition. -/
def OneTimePreKeys.All (holds : X25519KeyPair → Prop) (preKeys : OneTimePreKeys) : Prop :=
  ∀ id keyPair, preKeys.find? id = some keyPair → holds keyPair

/-- Every pair fits. -/
def OneTimePreKeys.Fit (primitives : Primitives) (preKeys : OneTimePreKeys) : Prop :=
  ∀ id keyPair, preKeys.find? id = some keyPair → primitives.Fits keyPair

namespace OneTimePreKeys

variable {standard : KeyStandard} {holds : X25519KeyPair → Prop} {preKeys : OneTimePreKeys}
  {id reserved : UInt32} {keyPair : X25519KeyPair}

theorem All.empty (holds : X25519KeyPair → Prop) : All holds .empty := fun _ _ => nofun

theorem All.insert (all : All holds preKeys) (id : UInt32) (isNew : holds keyPair) :
    All holds (preKeys.insert id keyPair) :=
  OrderedMap.of_find?_insert isNew all

theorem All.erase (all : All holds preKeys) (id : UInt32) : All holds (preKeys.erase id) :=
  fun other keyPair found => all other keyPair (OrderedMap.find?_of_find?_erase found)

theorem all_generateFrom (upheld : standard.UpheldBy provider) {numbers count : Nat}
    {result : OneTimePreKeys} (all : All standard.pair preKeys)
    (generates : generateFrom provider reserved numbers count id preKeys before =
      .ok result after) : All standard.pair result := by
  induction numbers generalizing count id preKeys before with
  | zero =>
    cases count with
    | zero =>
      obtain ⟨rfl, _⟩ := Crypto.pure_eq_ok.1 generates
      exact all
    | succ count => simp [generateFrom] at generates
  | succ numbers inductionHypothesis =>
    cases count with
    | zero =>
      obtain ⟨rfl, _⟩ := Crypto.pure_eq_ok.1 generates
      exact all
    | succ count =>
      unfold generateFrom at generates
      split at generates
      · obtain ⟨keyPair, _, generated, rest⟩ := Crypto.bind_eq_ok.1 generates
        exact inductionHypothesis (all.insert id (upheld.generated generated)) rest
      · exact inductionHypothesis all generates

theorem all_addRandom (upheld : standard.UpheldBy provider) {count : Nat}
    {batch result : PreKeyBatch} (all : All standard.pair batch.preKeys)
    (adds : addRandom provider reserved count batch before = .ok result after) :
    All standard.pair result.preKeys := by
  induction count generalizing batch before with
  | zero =>
    obtain ⟨rfl, _⟩ := Crypto.pure_eq_ok.1 adds
    exact all
  | succ count inductionHypothesis =>
    unfold addRandom at adds
    split at adds
    · cases adds
      exact all
    · rename_i generates
      simp only [generateOne, Crypto.bind_eq_ok, Crypto.pure_eq_ok, Prod.mk.injEq] at generates
      obtain ⟨_, _, _, _, _, generated, ⟨rfl, rfl⟩, rfl⟩ := generates
      exact inductionHypothesis (all.insert _ (upheld.generated generated)) adds

end OneTimePreKeys

namespace Identity

variable {standard : KeyStandard} {identity later : Identity}

theorem all_deriveOneTimePreKeys (upheld : standard.UpheldBy provider)
    {masterKey membership : Bytes} {count offset : Nat} {preKeys result : OneTimePreKeys}
    (all : preKeys.All standard.pair)
    (derives : deriveOneTimePreKeys provider masterKey membership count offset preKeys before =
      .ok result after) : result.All standard.pair := by
  induction count generalizing offset preKeys before with
  | zero =>
    obtain ⟨rfl, _⟩ := Crypto.pure_eq_ok.1 derives
    exact all
  | succ count inductionHypothesis =>
    unfold deriveOneTimePreKeys at derives
    simp only at derives
    split at derives
    · simp [Crypto.bind_eq_ok] at derives
    · simp only [Crypto.bind_eq_ok] at derives
      obtain ⟨_, _, _, keyPair, _, made, rest⟩ := derives
      exact inductionHypothesis (all.insert _ (upheld.pair made)) rest

theorem all_readOneTimePreKeys (upheld : standard.UpheldBy provider)
    {records : List Record.OneTimePreKeyRecord} {preKeys result : OneTimePreKeys}
    (all : preKeys.All standard.pair)
    (reads : readOneTimePreKeys provider records preKeys before = .ok result after) :
    result.All standard.pair := by
  induction records generalizing preKeys before with
  | nil =>
    obtain ⟨rfl, _⟩ := Crypto.pure_eq_ok.1 reads
    exact all
  | cons record rest inductionHypothesis =>
    unfold readOneTimePreKeys at reads
    split at reads
    · simp at reads
    · obtain ⟨keyPair, _, isPair, reads⟩ := Crypto.bind_eq_ok.1 reads
      exact inductionHypothesis (all.insert _ (upheld.stored isPair)) reads

/-! ### Identities that were made -/

/-- The ways to come by an identity. -/
inductive Made (provider : Provider σ) : Identity → Prop
  | generate {identity : Identity} {count : Nat} {before after : σ}
      (generates : Identity.generate provider count before = .ok identity after) :
      Made provider identity
  | derive {identity : Identity} {masterKey membership : Bytes} {count : Nat} {before after : σ}
      (derives : Identity.derive provider masterKey membership count before =
        .ok identity after) : Made provider identity
  | read {identity : Identity} {record : Record.IdentityRecord} {before after : σ}
      (reads : ofRecord provider record before = .ok identity after) : Made provider identity
  | step {identity later : Identity} (made : Made provider identity)
      (step : identity.Step provider later) : Made provider later

theorem Made.steps (made : Made provider identity) (steps : Steps provider identity later) :
    Made provider later := by
  induction steps with
  | refl => exact made
  | tail _ step inductionHypothesis => exact inductionHypothesis.step step

/-- The identity is live, and its keys meet a standard. -/
structure Meets (standard : KeyStandard) (identity : Identity) : Prop where
  live : identity.disposed = false
  signing : standard.signing identity.signing
  agreement : standard.pair identity.agreement
  signedPreKey : standard.pair identity.signedPreKey.keyPair
  oneTimePreKeys : identity.oneTimePreKeys.All standard.pair
  signed : standard.signed identity.signing.publicKey identity.signedPreKey

theorem meets_of_generate (upheld : standard.UpheldBy provider) {count : Nat}
    (generates : generate provider count before = .ok identity after) :
    identity.Meets standard := by
  simp only [generate, SignedPreKey.generate, Crypto.bind_eq_ok, Crypto.pure_eq_ok] at generates
  obtain ⟨signing, _, isSigning, agreement, _, isAgreement, signedPreKey, _,
    ⟨keyPair, _, isPair, signed⟩, preKeys, _, arePreKeys, rfl, _⟩ := generates
  obtain ⟨_, _, _, isSeeded⟩ := Crypto.bind_eq_ok.1 isSigning
  have seeded := upheld.signing isSeeded
  exact {
    live := rfl
    signing := seeded
    agreement := upheld.generated isAgreement
    signedPreKey := SignedPreKey.keyPair_of_sign signed ▸ upheld.generated isPair
    oneTimePreKeys := OneTimePreKeys.all_generateFrom upheld (.empty standard.pair) arePreKeys
    signed := upheld.signed seeded signed }

theorem meets_of_derive (upheld : standard.UpheldBy provider) {masterKey membership : Bytes}
    {count : Nat} (derives : derive provider masterKey membership count before =
      .ok identity after) : identity.Meets standard := by
  unfold derive at derives
  split at derives
  · simp only [Crypto.bind_eq_ok, Crypto.throw_ne_ok, false_and, exists_false] at derives
  simp only at derives
  split at derives
  · simp only [Crypto.bind_eq_ok, Crypto.throw_ne_ok, false_and, exists_false] at derives
  · simp only [Crypto.bind_eq_ok, Crypto.pure_eq_ok] at derives
    obtain ⟨_, _, _, signing, _, isSigning, _, _, _, agreement, _, isAgreement, _, _, _, keyPair, _,
      isPair, signedPreKey, _, signed, preKeys, _, arePreKeys, rfl, _⟩ := derives
    have seeded := upheld.signing isSigning
    exact {
      live := rfl
      signing := seeded
      agreement := upheld.pair isAgreement
      signedPreKey := SignedPreKey.keyPair_of_sign signed ▸ upheld.pair isPair
      oneTimePreKeys := all_deriveOneTimePreKeys upheld (.empty standard.pair) arePreKeys
      signed := upheld.signed seeded signed }

theorem meets_of_ofRecord (upheld : standard.UpheldBy provider) {record : Record.IdentityRecord}
    (reads : ofRecord provider record before = .ok identity after) :
    identity.Meets standard := by
  obtain ⟨_, _, _, _, isSigning, isAgreement, isPair, _, _, isVerified, arePreKeys, _, isLive⟩ :=
    ofRecord_eq_ok reads
  exact {
    live := isLive
    signing := upheld.signing (Ed25519KeyPair.ofStored_eq_ok.1 isSigning).2.2
    agreement := upheld.stored isAgreement
    signedPreKey := upheld.stored isPair
    oneTimePreKeys := all_readOneTimePreKeys upheld (.empty standard.pair) arePreKeys
    signed := upheld.verified isVerified }

theorem Step.meets (upheld : standard.UpheldBy provider) (step : identity.Step provider later)
    (meets : identity.Meets standard) : later.Meets standard := by
  cases step with
  | prepare ephemeral => exact { meets with }
  | consume hello =>
    unfold consumeNamed
    split
    · exact { meets with oneTimePreKeys := meets.oneTimePreKeys.erase _ }
    · exact meets
  | replenish replenishes =>
    rcases replenish_cases replenishes with ⟨_, rfl⟩ | ⟨_, batch, adds, same, _⟩
    · exact meets
    · rw [same]
      exact { meets with
        oneTimePreKeys := OneTimePreKeys.all_addRandom upheld meets.oneTimePreKeys adds }
  | rotate rotates =>
    obtain ⟨_, signedPreKey, _, generates, rfl⟩ := rotate_eq_ok rotates
    obtain ⟨keyPair, _, isPair, signed⟩ := Crypto.bind_eq_ok.1 generates
    exact { meets with
      signedPreKey := SignedPreKey.keyPair_of_sign signed ▸ upheld.generated isPair
      signed := upheld.signed meets.signing signed }

/-- An identity that was made meets every standard that its provider upholds. -/
theorem Made.meets (upheld : standard.UpheldBy provider) (made : Made provider identity) :
    identity.Meets standard := by
  induction made with
  | generate generates => exact meets_of_generate upheld generates
  | derive derives => exact meets_of_derive upheld derives
  | read reads => exact meets_of_ofRecord upheld reads
  | step _ step inductionHypothesis => exact step.meets upheld inductionHypothesis

/-! ### Keys that belong together -/

/-- The keys of the identity belong together. -/
structure Genuine (provider : Provider σ) (primitives : Primitives) (identity : Identity) :
    Prop where
  signing : identity.signing.Seeded provider
  agreement : primitives.Fits identity.agreement
  signedPreKey : primitives.Fits identity.signedPreKey.keyPair
  oneTimePreKeys : identity.oneTimePreKeys.Fit primitives
  /-- If the provider accepts the signatures of its own pairs. -/
  vouchedFor : provider.Vouching →
    identity.signedPreKey.VouchedFor provider identity.signing.publicKey

theorem Meets.genuine (meets : identity.Meets (.fitting working primitives)) :
    identity.Genuine working primitives :=
  ⟨meets.signing, meets.agreement, meets.signedPreKey, meets.oneTimePreKeys, meets.signed⟩

theorem Made.genuine_of_imitates (imitates : provider.Imitates working primitives)
    (made : Made provider identity) : identity.Genuine working primitives :=
  (made.meets imitates.upholds_fitting).genuine

theorem Made.genuine (agreeing : provider.Agreeing primitives) (made : Made provider identity) :
    identity.Genuine provider primitives :=
  made.genuine_of_imitates agreeing.imitates

/-! ### Copies -/

/-- One-time pre-keys whose public halves are made again are read in the order of their numbers. -/
theorem readOneTimePreKeys_succeeds {entries : List (UInt32 × X25519KeyPair)}
    (preKeys : OneTimePreKeys)
    (increasing : (preKeys.entries ++ entries).Pairwise
      (fun earlier later => earlier.1 < later.1))
    (arePairs : ∀ entry ∈ entries, entry.2.Matches provider) :
    Crypto.Succeeds (readOneTimePreKeys provider
      (entries.map (fun entry => { id := entry.1
                                   publicKey := entry.2.publicKey.toBytes
                                   secretKey := entry.2.secret.toBytes })) preKeys) := by
  induction entries generalizing preKeys with
  | nil => exact Crypto.succeeds_pure preKeys
  | cons first rest inductionHypothesis =>
    have isNew : preKeys.contains first.1 = false :=
      OrderedMap.contains_eq_false_of_above fun entry member =>
        (List.pairwise_append.1 increasing).2.2 entry member first List.mem_cons_self
    rw [← OrderedMap.entries_insert_of_increasing increasing] at increasing
    have isPair := (arePairs first List.mem_cons_self).ofStored
    simp only [List.map_cons, readOneTimePreKeys, isNew, Bool.false_eq_true, if_false]
    exact isPair.bind_succeeds (inductionHypothesis _ increasing fun entry member =>
      arePairs entry (List.mem_cons_of_mem _ member))

/-- What an identity exports is read back, whatever the provider remembers. -/
theorem Meets.returns_ofRecord (repeatable : identity.Meets (.repeatable provider))
    (vouching : provider.Vouching) :
    Crypto.Returns (ofRecord provider identity.toRecord) { identity with ephemeral := none } := by
  have preKeys : Crypto.Succeeds
      (readOneTimePreKeys provider identity.toRecord.oneTimePreKeys .empty) :=
    readOneTimePreKeys_succeeds .empty identity.oneTimePreKeys.increasing
      (fun entry member => repeatable.oneTimePreKeys _ _ (OrderedMap.find?_eq_some_iff.2 member))
  have reads : Crypto.Succeeds (ofRecord provider identity.toRecord) := by
    refine (Ed25519KeyPair.Seeded.ofStored repeatable.signing vouching).bind_succeeds ?_
    refine (X25519KeyPair.Matches.ofStored repeatable.agreement).bind_succeeds ?_
    refine (Crypto.returns_ofExcept (Ed25519Signature.ofField_eq_ok.2 rfl)).bind_succeeds ?_
    refine (X25519KeyPair.Matches.ofStored repeatable.signedPreKey).bind_succeeds ?_
    refine (SignedPreKey.VouchedFor.ofStored repeatable.signed).bind_succeeds ?_
    exact preKeys.bind fun _ _ => Crypto.succeeds_pure _
  intro before
  obtain ⟨restored, after, read⟩ := reads before
  rw [ofRecord_toRecord_eq_ok read, ← repeatable.live] at read
  exact ⟨after, read⟩

theorem Genuine.repeatable (genuine : identity.Genuine provider primitives)
    (agreeing : provider.Agreeing primitives) (vouching : provider.Vouching)
    (live : identity.disposed = false) : identity.Meets (.repeatable provider) where
  live := live
  signing := genuine.signing
  agreement := agreeing.matches_of_fits genuine.agreement
  signedPreKey := agreeing.matches_of_fits genuine.signedPreKey
  oneTimePreKeys id keyPair found :=
    agreeing.matches_of_fits (genuine.oneTimePreKeys id keyPair found)
  signed := genuine.vouchedFor vouching

/-- A live identity whose keys belong together is read back. -/
theorem Genuine.returns_ofRecord (genuine : identity.Genuine provider primitives)
    (agreeing : provider.Agreeing primitives) (vouching : provider.Vouching)
    (live : identity.disposed = false) :
    Crypto.Returns (ofRecord provider identity.toRecord) { identity with ephemeral := none } :=
  (genuine.repeatable agreeing vouching live).returns_ofRecord vouching

/-- A live identity whose keys belong together can be copied. -/
theorem Genuine.clone (genuine : identity.Genuine provider primitives)
    (agreeing : provider.Agreeing primitives) (vouching : provider.Vouching)
    (live : identity.disposed = false) :
    Crypto.Returns (identity.clone provider) { identity with ephemeral := none } :=
  (Crypto.returns_ofExcept (exportRecord_eq_ok.2 ⟨live, rfl⟩)).bind
    (genuine.returns_ofRecord agreeing vouching live)

end Identity

end RatchetMessaging
