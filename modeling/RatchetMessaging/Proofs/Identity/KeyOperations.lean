import RatchetMessaging.Handshake.Agreement
import RatchetMessaging.Identity.Upkeep
import RatchetMessaging.Provider.Faulty
import RatchetMessaging.Proofs.Identity.Replenishment
import RatchetMessaging.Proofs.Provider.Transparent

/-!
Contract: the operations on the keys of a party, carried out in place.

Owns:
- each operation as a sequence of calls to the provider and of changes to the keys, where a failure
  keeps what was changed before it; and that this is the operation on the value, whose result is
  installed at the end;
- that an operation that fails leaves the keys as they were, but for the one-time pre-keys that a
  replenishment has made by then.

Does not own: who asks for an operation.
-/

namespace RatchetMessaging

/-! ### Keys that are changed in place -/

/-- A computation on keys in place, over what the provider remembers and the keys as they are. -/
abbrev InPlace (σ : Type) := Crypto (σ × Identity)

namespace InPlace

variable {σ α β : Type}

/-- The keys as they are now. -/
def current : InPlace σ Identity := fun state => .ok state.2 state

/-- A call to the provider. It cannot reach the keys. -/
def call (computation : Crypto σ α) : InPlace σ α := fun state =>
  match computation state.1 with
  | .ok value after => .ok value (after, state.2)
  | .error failure after => .error failure (after, state.2)

/-- Change the keys. -/
def change (update : Identity → Identity) : InPlace σ Unit :=
  fun state => .ok () (state.1, update state.2)

/-- A computation that gives the keys afterwards along with its value: they are installed when it
succeeds. -/
def install (computation : Crypto σ (α × Identity)) : InPlace σ α := fun state =>
  match computation state.1 with
  | .ok (value, later) after => .ok value (after, later)
  | .error failure after => .error failure (after, state.2)

variable {before : σ} {identity : Identity}

/-- A call ahead of both. -/
theorem call_bind_eq_install {first : Crypto σ β} {inPlace : β → InPlace σ α}
    {onValue : β → Crypto σ (α × Identity)}
    (same : ∀ value between,
      inPlace value (between, identity) = install (onValue value) (between, identity)) :
    (call first >>= inPlace) (before, identity) =
      install (first >>= onValue) (before, identity) := by
  change EStateM.bind (call first) inPlace (before, identity) = _
  unfold EStateM.bind call install
  cases result : first before with
  | ok value between =>
    rw [Crypto.bind_of_ok result]
    exact same value between
  | error failure between =>
    rw [Crypto.bind_of_error result]

end InPlace

/-! ### Operations -/

/-- What can be asked of the keys of a party. -/
inductive KeyOperation where
  | prepareEphemeral
  | initiate (remote : Bundle) (info : Bytes)
  | respond (hello : Hello) (info : Bytes)
  | replenish (target : Nat)
  /-- The number of the new signed pre-key is drawn `patience` times at most. -/
  | rotate (patience : Nat)

/-- What comes back. -/
inductive KeyAnswer where
  | ephemeral (key : X25519PublicKey)
  | initiated (initiation : Initiation)
  | responded (secret : FixedBytes 32)
  | replenished (added : List UInt32)
  | rotated (id : Option UInt32)
deriving DecidableEq

namespace KeyOperation

open InPlace

variable {σ : Type}

/-- Make one-time pre-keys, each of which is stored as soon as it is made. -/
def addPreKeys (provider : Provider σ) (reserved : UInt32) :
    (count : Nat) → InPlace σ (List UInt32)
  | 0 => return []
  | count + 1 => do
    let identity ← current
    let (id, keyPair) ←
      call (OneTimePreKeys.generateOne provider identity.oneTimePreKeys reserved)
    change (fun identity =>
      { identity with oneTimePreKeys := identity.oneTimePreKeys.insert id keyPair })
    let added ← addPreKeys provider reserved count
    return id :: added

/-- The operation, step by step. -/
def perform (provider : Provider σ) : KeyOperation → InPlace σ KeyAnswer
  | .prepareEphemeral => do
    let identity ← current
    call (Crypto.ofExcept identity.ensureLive)
    let keyPair ← call (X25519KeyPair.generate provider)
    change (fun identity => { identity with ephemeral := some keyPair })
    return .ephemeral keyPair.publicKey
  | .initiate remote info => do
    let identity ← current
    call (Crypto.ofExcept identity.ensureLive)
    call (Crypto.ofExcept (Handshake.checkInfo info))
    let verified ← call (remote.verify provider)
    if !verified then
      throw (.peerPublicKey "signed pre-key signature does not verify")
    match identity.ephemeral with
    | none => throw (.prepareLocal "no ephemeral key prepared")
    | some ephemeral =>
      let oneTime := remote.firstOneTimePreKey
      let first ← call (identity.agreement.shared provider remote.signedPreKey)
      let second ← call (ephemeral.shared provider remote.agreementKey)
      let third ← call (ephemeral.shared provider remote.signedPreKey)
      let fourth ← call (Handshake.sharedIfPresent provider
        (oneTime.map (fun preKey => (ephemeral, preKey.publicKey))))
      let secret ←
        call (Handshake.deriveSecret provider ([first, second, third] ++ fourth) info)
      change (fun identity => { identity with ephemeral := none })
      return .initiated ⟨secret, ephemeral.publicKey, remote.signedPreKeyId,
        oneTime.map OneTimePreKeyPublic.id⟩
  | .respond hello info => do
    let identity ← current
    let secret ← call (identity.respondSecret provider hello info)
    change (fun identity => identity.consumeNamed hello)
    return .responded secret
  | .replenish target => do
    let identity ← current
    call (Crypto.ofExcept identity.ensureLive)
    let missing := target - identity.oneTimePreKeyCount
    let added ← addPreKeys provider identity.signedPreKey.id missing
    return .replenished added
  | .rotate patience => do
    let identity ← current
    call (Crypto.ofExcept identity.ensureLive)
    match ← call (Identity.drawSignedPreKeyId provider identity.signedPreKey.id patience) with
    | none => return .rotated none
    | some id =>
      let signedPreKey ← call (SignedPreKey.generate provider id identity.signing)
      change (fun identity => { identity with signedPreKey := signedPreKey })
      return .rotated (some id)

/-- The operation on the value, and the keys that its caller is left with. -/
def attempt (provider : Provider σ) (operation : KeyOperation) : InPlace σ KeyAnswer :=
  fun state =>
    match operation with
    | .prepareEphemeral =>
      install (do
        let (key, later) ← state.2.prepareEphemeral provider
        return (.ephemeral key, later)) state
    | .initiate remote info =>
      install (do
        let (initiation, later) ← state.2.initiate provider remote info
        return (.initiated initiation, later)) state
    | .respond hello info =>
      install (do
        let (secret, later) ← state.2.respond provider hello info
        return (.responded secret, later)) state
    | .replenish target =>
      match state.2.replenish provider target state.1 with
      | .ok ⟨later, .ok added⟩ after => .ok (.replenished added) (after, later)
      | .ok ⟨later, .error failure⟩ after => .error failure (after, later)
      | .error failure after => .error failure (after, state.2)
    | .rotate patience =>
      install (do
        match ← state.2.rotate provider patience with
        | none => return (.rotated none, state.2)
        | some (id, later) => return (.rotated (some id), later)) state

/-! ### In place and on the value -/

section Agreement

variable {provider : Provider σ} {before : σ} {identity : Identity}

private theorem perform_prepareEphemeral :
    perform provider .prepareEphemeral (before, identity) =
      attempt provider .prepareEphemeral (before, identity) := by
  simp only [attempt, Identity.prepareEphemeral, bind_assoc, pure_bind]
  exact call_bind_eq_install (fun _ _ => call_bind_eq_install (fun _ _ => rfl))

private theorem perform_respond (hello : Hello) (info : Bytes) :
    perform provider (.respond hello info) (before, identity) =
      attempt provider (.respond hello info) (before, identity) := by
  simp only [attempt, Identity.respond, bind_assoc, pure_bind]
  exact call_bind_eq_install (fun _ _ => rfl)

private theorem perform_rotate (patience : Nat) :
    perform provider (.rotate patience) (before, identity) =
      attempt provider (.rotate patience) (before, identity) := by
  simp only [attempt, Identity.rotate, bind_assoc]
  refine call_bind_eq_install (fun _ _ => call_bind_eq_install (fun drawn _ => ?_))
  cases drawn with
  | none => rfl
  | some id =>
    simp only [bind_assoc, pure_bind]
    exact call_bind_eq_install (fun _ _ => rfl)

private theorem perform_initiate (remote : Bundle) (info : Bytes) :
    perform provider (.initiate remote info) (before, identity) =
      attempt provider (.initiate remote info) (before, identity) := by
  obtain ⟨signing, agreement, signedPreKey, preKeys, pending, disposed⟩ := identity
  simp only [attempt, Identity.initiate, bind_assoc]
  refine call_bind_eq_install (fun _ _ => call_bind_eq_install (fun _ _ =>
    call_bind_eq_install (fun verified _ => ?_)))
  cases verified with
  | false => rfl
  | true =>
    cases pending with
    | none => rfl
    | some ephemeral =>
      simp only [Bool.not_true, Bool.false_eq_true, if_false, bind_assoc, pure_bind]
      exact call_bind_eq_install (fun _ _ => call_bind_eq_install (fun _ _ =>
        call_bind_eq_install (fun _ _ => call_bind_eq_install (fun _ _ =>
          call_bind_eq_install (fun _ _ => rfl)))))

/-- Storing each key as it is made ends with the same keys as making the batch first, also when a
key cannot be made. -/
private theorem addPreKeys_eq (provider : Provider σ) (reserved : UInt32) (count : Nat)
    (identity : Identity) (before : σ) (earlier : List UInt32) :
    ∃ batch after,
      OneTimePreKeys.addRandom provider reserved count
        ⟨identity.oneTimePreKeys, earlier, none⟩ before = .ok batch after ∧
      match batch.failure with
      | some failure => addPreKeys provider reserved count (before, identity) =
          .error failure (after, { identity with oneTimePreKeys := batch.preKeys })
      | none => ∃ added, batch.added = earlier ++ added ∧
          addPreKeys provider reserved count (before, identity) =
            .ok added (after, { identity with oneTimePreKeys := batch.preKeys }) := by
  induction count generalizing identity before earlier with
  | zero => exact ⟨_, before, rfl, [], (List.append_nil _).symm, rfl⟩
  | succ count inductionHypothesis =>
    cases made : OneTimePreKeys.generateOne provider identity.oneTimePreKeys reserved before with
    | error failure after =>
      refine ⟨⟨identity.oneTimePreKeys, earlier, some failure⟩, after,
        by simp only [OneTimePreKeys.addRandom, made], ?_⟩
      exact Crypto.bind_of_error
        (show call (OneTimePreKeys.generateOne provider identity.oneTimePreKeys reserved)
          (before, identity) = .error failure (after, identity) by simp only [call, made]) _
    | ok key between =>
      obtain ⟨id, keyPair⟩ := key
      obtain ⟨batch, after, adds, ends⟩ := inductionHypothesis
        { identity with oneTimePreKeys := identity.oneTimePreKeys.insert id keyPair } between
        (earlier ++ [id])
      refine ⟨batch, after, by simp only [OneTimePreKeys.addRandom, made, adds], ?_⟩
      have begins : addPreKeys provider reserved (count + 1) (before, identity) =
          (do
            let added ← addPreKeys provider reserved count
            return id :: added) (between, { identity with
              oneTimePreKeys := identity.oneTimePreKeys.insert id keyPair }) :=
        Crypto.bind_of_ok
          (show call (OneTimePreKeys.generateOne provider identity.oneTimePreKeys reserved)
            (before, identity) = .ok (id, keyPair) (between, identity) by simp only [call, made]) _
      rw [begins]
      cases failure : batch.failure with
      | some reason =>
        simp only [failure] at ends ⊢
        exact Crypto.bind_of_error ends _
      | none =>
        simp only [failure] at ends ⊢
        obtain ⟨added, all, adds⟩ := ends
        exact ⟨id :: added, by rw [all, List.append_assoc]; rfl, Crypto.bind_of_ok adds _⟩

private theorem replenish_of_refused {target : Nat} {failure : Error}
    (refused : identity.ensureLive = .error failure) :
    identity.replenish provider target before = .ok ⟨identity, .error failure⟩ before := by
  simp only [Identity.replenish, refused]
  rfl

private theorem replenish_of_batch {target : Nat} {batch : PreKeyBatch} {after : σ} {done : Unit}
    (live : identity.ensureLive = .ok done)
    (adds : OneTimePreKeys.addRandom provider identity.signedPreKey.id
      (target - identity.oneTimePreKeyCount) ⟨identity.oneTimePreKeys, [], none⟩ before =
        .ok batch after) :
    identity.replenish provider target before =
      .ok ⟨{ identity with oneTimePreKeys := batch.preKeys }, match batch.failure with
        | some failure => .error failure
        | none => .ok batch.added⟩ after := by
  simp only [Identity.replenish, live]
  exact Crypto.bind_of_ok adds _

private theorem perform_replenish (target : Nat) :
    perform provider (.replenish target) (before, identity) =
      attempt provider (.replenish target) (before, identity) := by
  cases live : identity.ensureLive with
  | error failure =>
    simp only [attempt, replenish_of_refused live]
    exact Crypto.bind_of_error
      (show call (Crypto.ofExcept identity.ensureLive) (before, identity) =
        .error failure (before, identity) by rw [live]; rfl) _
  | ok _ =>
    obtain ⟨batch, after, adds, ends⟩ := addPreKeys_eq provider identity.signedPreKey.id
      (target - identity.oneTimePreKeyCount) identity before []
    have begins : perform provider (.replenish target) (before, identity) =
        (do
          let added ← addPreKeys provider identity.signedPreKey.id
            (target - identity.oneTimePreKeyCount)
          return KeyAnswer.replenished added) (before, identity) :=
      Crypto.bind_of_ok (show call (Crypto.ofExcept identity.ensureLive) (before, identity) =
        .ok () (before, identity) by rw [live]; rfl) _
    rw [begins]
    simp only [attempt, replenish_of_batch live adds]
    cases failure : batch.failure with
    | some reason =>
      simp only [failure] at ends ⊢
      exact Crypto.bind_of_error ends _
    | none =>
      simp only [failure] at ends ⊢
      obtain ⟨added, rfl, adds⟩ := ends
      exact Crypto.bind_of_ok adds _

/-- Every operation in place does what it does on the value, whatever the provider does. -/
theorem perform_eq_attempt (provider : Provider σ) (operation : KeyOperation) :
    operation.perform provider = operation.attempt provider := by
  funext ⟨before, identity⟩
  cases operation with
  | prepareEphemeral => exact perform_prepareEphemeral
  | initiate remote info => exact perform_initiate remote info
  | respond hello info => exact perform_respond hello info
  | replenish target => exact perform_replenish target
  | rotate patience => exact perform_rotate patience

end Agreement

end KeyOperation

/-! ### Failures -/

/-- A batch that ends early has made some of its keys. -/
theorem OneTimePreKeys.gains_of_failed {σ : Type} {provider : Provider σ} {before after : σ}
    {reserved : UInt32} {count : Nat} {batch result : PreKeyBatch} {failure : Error}
    (adds : addRandom provider reserved count batch before = .ok result after)
    (unharmed : batch.failure = none) (failed : result.failure = some failure) :
    ∃ made < count, Gains provider reserved made batch.preKeys result.preKeys ∧
      (made = 0 → result.preKeys = batch.preKeys) := by
  induction count generalizing batch before with
  | zero =>
    obtain ⟨rfl, _⟩ := Crypto.pure_eq_ok.1 adds
    rw [unharmed] at failed
    cases failed
  | succ count inductionHypothesis =>
    unfold addRandom at adds
    split at adds
    · cases adds
      exact ⟨0, Nat.succ_pos count, .refl provider reserved _, fun _ => rfl⟩
    · rename_i generates
      obtain ⟨made, below, gains, _⟩ := inductionHypothesis adds unharmed
      refine ⟨1 + made, by omega, (generateOne_eq_ok generates).gains.trans gains, ?_⟩
      intro none
      omega

namespace KeyOperation

open InPlace

variable {σ : Type} {provider : Provider σ} {operation : KeyOperation} {before after : σ}
  {identity later : Identity} {failure : Error}

theorem identity_of_install_error {α : Type} {computation : Crypto σ (α × Identity)}
    (failed : install computation (before, identity) = .error failure (after, later)) :
    later = identity := by
  unfold install at failed
  split at failed
  · cases failed
  · cases failed
    rfl

/-- What a replenishment that fails leaves: the keys as they were, or with some of the missing
one-time pre-keys, each fresh. -/
theorem identity_of_replenish_error {target : Nat}
    (failed : attempt provider (.replenish target) (before, identity) =
      .error failure (after, later)) :
    later = identity ∨ ∃ made preKeys, 0 < made ∧ made < target - identity.oneTimePreKeyCount ∧
      OneTimePreKeys.Gains provider identity.signedPreKey.id made identity.oneTimePreKeys preKeys ∧
      later = { identity with oneTimePreKeys := preKeys } := by
  cases live : identity.ensureLive with
  | error refusal =>
    simp only [attempt, replenish_of_refused live] at failed
    cases failed
    exact .inl rfl
  | ok _ =>
    obtain ⟨batch, between, adds, _⟩ := addPreKeys_eq provider identity.signedPreKey.id
      (target - identity.oneTimePreKeyCount) identity before []
    simp only [attempt, replenish_of_batch live adds] at failed
    cases isFailure : batch.failure with
    | none =>
      simp only [isFailure] at failed
      cases failed
    | some reason =>
      simp only [isFailure] at failed
      cases failed
      obtain ⟨made, fewer, gains, none⟩ := OneTimePreKeys.gains_of_failed adds rfl isFailure
      rcases Nat.eq_zero_or_pos made with isNone | someMade
      · left
        rw [none isNone]
      · exact .inr ⟨made, batch.preKeys, someMade, fewer, gains, rfl⟩

/-- An operation that fails, at whatever call, leaves the keys of a party as they were; a
replenishment that fails leaves them so or with some of the missing one-time pre-keys, each of them
fresh. -/
theorem failed_key_operation_leaves_keys
    (failed : operation.perform provider (before, identity) = .error failure (after, later)) :
    operation.attempt provider (before, identity) = .error failure (after, later) ∧
      (later = identity ∨
        ∃ target made preKeys, operation = .replenish target ∧
          0 < made ∧ made < target - identity.oneTimePreKeyCount ∧
          OneTimePreKeys.Gains provider identity.signedPreKey.id made identity.oneTimePreKeys
            preKeys ∧
          later = { identity with oneTimePreKeys := preKeys }) := by
  rw [perform_eq_attempt] at failed
  refine ⟨failed, ?_⟩
  cases operation with
  | prepareEphemeral => exact .inl (identity_of_install_error failed)
  | initiate remote info => exact .inl (identity_of_install_error failed)
  | respond hello info => exact .inl (identity_of_install_error failed)
  | rotate patience => exact .inl (identity_of_install_error failed)
  | replenish target =>
    rcases identity_of_replenish_error failed with
      same | ⟨made, preKeys, someMade, fewer, gains, isLater⟩
    · exact .inl same
    · exact .inr ⟨target, made, preKeys, rfl, someMade, fewer, gains, isLater⟩

/-- The provider gives out a number for the new signed pre-key, and no secret. -/
theorem failed_key_operation_leaves_keys_sample :
    ∃ (identity later : Identity) (generated : Nat) (before after : Faulty Nat),
      Identity.generate .transparent 1 0 = .ok identity generated ∧
      before = { inner := 2, faults := [⟨.random, .error, 1⟩] } ∧
      perform (Faulty.wrap .transparent) (.rotate 1) (before, identity) =
        .error (.keyGeneration Faulty.injected) (after, later) ∧
      later = identity := by
  obtain ⟨identity, later, generated, after, generates, failed⟩ :
      ∃ (identity later : Identity) (generated : Nat) (after : Faulty Nat),
        Identity.generate .transparent 1 0 = .ok identity generated ∧
        perform (Faulty.wrap .transparent) (.rotate 1)
          ({ inner := 2, faults := [⟨.random, .error, 1⟩] }, identity) =
            .error (.keyGeneration Faulty.injected) (after, later) :=
    ⟨_, _, _, _, rfl, rfl⟩
  refine ⟨identity, later, generated, _, after, generates, rfl, failed, ?_⟩
  rcases (failed_key_operation_leaves_keys failed).2 with same | ⟨_, _, _, isReplenish, _⟩
  · exact same
  · cases isReplenish

/-- A replenishment that is to make three keys, and can make one. -/
theorem failed_replenishment_changes_keys :
    ∃ (identity later : Identity) (generated : Nat) (before after : Faulty Nat),
      Identity.generate .transparent 1 0 = .ok identity generated ∧
      before = { inner := 2, faults := [⟨.random, .error, 2⟩] } ∧
      perform (Faulty.wrap .transparent) (.replenish 4) (before, identity) =
        .error (.keyGeneration Faulty.injected) (after, later) ∧
      identity.oneTimePreKeys.keys = [2] ∧ later.oneTimePreKeys.keys = [2, 0x02020202] :=
  ⟨_, _, _, _, _, rfl, rfl, rfl, rfl, rfl⟩

end KeyOperation

end RatchetMessaging
