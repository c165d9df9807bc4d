import RatchetMessaging.Proofs.Messenger.FailedHandshake
import RatchetMessaging.Proofs.Messenger.Handshake
import RatchetMessaging.Proofs.Provider.Imitation

/-!
Contract: an acceptance that has failed is tried again.

Owns:
- `Identity.respondShared`, what a responder does before it derives a secret, in which alone a
  hello can be found wanting, and `Identity.CanAnswer`, that it is not;
- an acceptance that has failed with a retryable failure succeeds when it is tried again with a
  provider and a volume that work.

Does not own: what an acceptance does that succeeds at once.
-/

namespace RatchetMessaging

variable {σ τ : Type} {provider : Provider σ} {working : Provider τ} {primitives : Primitives}
  {connectionId : UInt32} {hello : Hello}

/-! ### What a hello asks for -/

namespace Identity

variable {identity later : Identity} {info : Bytes} {before after : σ} {config : Config}

/-- The responder's side as far as the values that both sides share. -/
def respondShared (provider : Provider σ) (hello : Hello) (info : Bytes) (identity : Identity) :
    Crypto σ (List (FixedBytes 32)) := do
  Crypto.ofExcept identity.ensureLive
  Crypto.ofExcept (Handshake.checkInfo info)
  if hello.signedPreKeyId ≠ identity.signedPreKey.id then
    throw (.handshake s!"unknown signed pre-key {hello.signedPreKeyId}")
  let oneTime ← Crypto.ofExcept (identity.namedOneTimePreKey hello)
  let signedPreKey := identity.signedPreKey.keyPair
  let first ← signedPreKey.shared provider hello.agreementKey
  let second ← identity.agreement.shared provider hello.ephemeralKey
  let third ← signedPreKey.shared provider hello.ephemeralKey
  let fourth ← Handshake.sharedIfPresent provider
    (oneTime.map (fun keyPair => (keyPair, hello.ephemeralKey)))
  return [first, second, third] ++ fourth

theorem respondSecret_eq (provider : Provider σ) (hello : Hello) (info : Bytes)
    (identity : Identity) :
    identity.respondSecret provider hello info = (do
      let shared ← identity.respondShared provider hello info
      Handshake.deriveSecret provider shared info) := by
  simp only [respondSecret, respondShared, bind_assoc]
  refine congrArg _ (funext fun _ => congrArg _ (funext fun _ => ?_))
  split <;> simp only [bind_assoc, pure_bind]

/-- The hello can be answered: the keys that it names are there, and every agreement with its keys
succeeds. -/
def CanAnswer (working : Provider τ) (hello : Hello) (info : Bytes) (identity : Identity) : Prop :=
  Crypto.Succeeds (identity.respondShared working hello info)

/-- What the provider has agreed on once can be agreed on with the working one. -/
theorem canAnswer_of_shared
    (agrees : ∀ secret peer before value after,
      provider.x25519Shared secret peer before = .ok value after →
        Crypto.Succeeds (working.x25519Shared secret peer))
    {shared : List (FixedBytes 32)}
    (reached : identity.respondShared provider hello info before = .ok shared after) :
    identity.CanAnswer working hello info := by
  simp only [respondShared, Crypto.bind_eq_ok, Crypto.ofExcept_eq_ok] at reached
  obtain ⟨_, _, ⟨isLive, rfl⟩, _, _, ⟨hasInfo, rfl⟩, reached⟩ := reached
  by_cases current : hello.signedPreKeyId = identity.signedPreKey.id
  · rw [if_neg (not_not_intro current)] at reached
    simp only [Crypto.bind_eq_ok, Crypto.ofExcept_eq_ok] at reached
    obtain ⟨oneTime, _, ⟨named, rfl⟩, _, _, first, _, _, second, _, _, third, _, _, fourth, _⟩ :=
      reached
    have fourthSucceeds : Crypto.Succeeds (Handshake.sharedIfPresent working
        (oneTime.map (fun keyPair => (keyPair, hello.ephemeralKey)))) := by
      cases oneTime with
      | none => exact Crypto.succeeds_pure _
      | some keyPair =>
        obtain ⟨_, _, agreed, _⟩ := Crypto.bind_eq_ok.1 fourth
        exact (agrees _ _ _ _ _ agreed).bind fun _ _ => Crypto.succeeds_pure _
    unfold CanAnswer respondShared
    rw [if_neg (not_not_intro current)]
    refine (Crypto.returns_ofExcept isLive).bind_succeeds ?_
    refine (Crypto.returns_ofExcept hasInfo).bind_succeeds ?_
    refine (Crypto.returns_ofExcept named).bind_succeeds ?_
    exact (agrees _ _ _ _ _ first).bind fun _ _ => (agrees _ _ _ _ _ second).bind fun _ _ =>
      (agrees _ _ _ _ _ third).bind fun _ _ => fourthSucceeds.bind fun _ _ =>
      Crypto.succeeds_pure _
  · rw [if_pos current] at reached
    simp only [Crypto.bind_eq_ok, Crypto.throw_ne_ok, false_and, exists_false] at reached

/-- A responder that can answer has a secret. -/
theorem CanAnswer.respondSecret (canAnswer : identity.CanAnswer working hello info)
    (agreeing : working.Agreeing primitives) :
    Crypto.Succeeds (identity.respondSecret working hello info) := by
  rw [respondSecret_eq]
  exact canAnswer.bind fun _ _ => (agreeing.derives _ _ _).succeeds

/-- Without a named one-time pre-key the answer does not depend on those that are left. -/
theorem HasAnswered.canAnswer (answers : identity.HasAnswered provider config hello later)
    (unnamed : hello.oneTimePreKeyId = none) (canAnswer : identity.CanAnswer working hello info) :
    later.CanAnswer working hello info := by
  rw [answers.keys]
  simp only [CanAnswer, respondShared, namedOneTimePreKey, unnamed] at canAnswer ⊢
  exact canAnswer

/-- An identity that has answered a hello has keys that belong together, like before. -/
theorem HasAnswered.genuine (answers : identity.HasAnswered provider config hello later)
    (publishes : provider.Publishes primitives) (genuine : identity.Genuine working primitives) :
    later.Genuine working primitives := by
  have kept : (identity.consumeNamed hello).oneTimePreKeys.Fit primitives := by
    unfold consumeNamed
    split
    · exact OneTimePreKeys.All.erase genuine.oneTimePreKeys _
    · exact genuine.oneTimePreKeys
  have fit : later.oneTimePreKeys.Fit primitives := by
    obtain ⟨_, same⟩ | ⟨_, gains⟩ := answers.preKeys
    · rw [same]
      exact kept
    · intro id keyPair found
      obtain earlier | isFresh := gains.fresh id keyPair found
      · exact kept id keyPair earlier
      · obtain ⟨_, _, generated⟩ := isFresh.generated
        exact publishes.fits_of_generate generated
  rw [answers.keys]
  exact { genuine with oneTimePreKeys := fit }

end Identity

/-! ### The second attempt -/

namespace Node

variable {before after : Node σ} {signal : CancelSignal σ} {failure : Error}

/-- An acceptance fails before it can tell whether the hello can be answered: the caller has
withdrawn at once, or an agreement with the keys of the hello has failed for a reason that may
pass. -/
def Overlooks (provider : Provider σ) (hello : Hello) (signal : CancelSignal σ)
    (node : Node σ) : Prop :=
  signal.isFired node = true ∨
    ∃ failure crypto, node.own.messenger.identity.respondShared provider hello
        node.own.messenger.config.protocolInfo node.crypto = .error failure crypto ∧
      failure.isRetryable = true

/-- Whatever makes a hello unanswerable is not retryable. -/
theorem acceptSession_shares
    (failed : acceptSession provider connectionId hello signal before = .error failure after)
    (retryable : failure.isRetryable = true) (looks : ¬ before.Overlooks provider hello signal) :
    ∃ shared crypto, before.own.messenger.identity.respondShared provider hello
      before.own.messenger.config.protocolInfo before.crypto = .ok shared crypto := by
  obtain ⟨unfired, lasting⟩ := not_or.1 looks
  cases reached : before.own.messenger.identity.respondShared provider hello
      before.own.messenger.config.protocolInfo before.crypto with
  | ok shared crypto => exact ⟨shared, crypto, rfl⟩
  | error reason crypto =>
    have underivable : before.own.messenger.identity.respondSecret provider hello
        before.own.messenger.config.protocolInfo before.crypto = .error reason crypto := by
      rw [Identity.respondSecret_eq]
      exact Crypto.bind_of_error reached _
    have unopened : openAsResponder provider connectionId hello before =
        .error reason { before with crypto := crypto } := by
      unfold openAsResponder
      rw [Crypto.bind_of_ok (messenger_eq_ok.2 ⟨rfl, rfl⟩),
        Crypto.bind_of_ok (messenger_eq_ok.2 ⟨rfl, rfl⟩)]
      exact Crypto.bind_of_error (calling_eq_error.2 ⟨crypto, underivable, rfl⟩) _
    have checked : signal.check before = .ok () before :=
      CancelSignal.check_eq_ok_iff.2 ⟨rfl, unfired⟩
    have fails : acceptSession provider connectionId hello signal before =
        .error reason { before with crypto := crypto } :=
      (Crypto.bind_of_ok checked _).trans (Crypto.bind_of_error unopened _)
    cases failed.symm.trans fails
    exact absurd ⟨failure, crypto, reached, retryable⟩ lasting

end Node

open Node

/-- **A retryable failure of an acceptance can be retried.** The party has run any commands before,
and its provider, its volume and its caller may have failed it at any moment; what the provider has
computed is right, and it is `working` when it does not fail. The acceptance fails for a
retryable reason. Then it succeeds when it is tried again with the same hello by the same party,
with a provider and a volume that work and a caller that does not withdraw, with two exceptions. If
it has failed before it could tell, the hello has to be one that can be answered at all. And if the
hello names a one-time pre-key, the identity must not have been stored without it. -/
theorem failed_acceptance_can_be_retried
    (imitates : provider.Imitates working primitives)
    (agrees : ∀ secret peer before value after,
      provider.x25519Shared secret peer before = .ok value after →
        Crypto.Succeeds (working.x25519Shared secret peer))
    (agreeing : working.Agreeing primitives) (vouching : working.Vouching)
    {start : Node σ} (made : start.own.messenger.identity.Made provider)
    (commands : List (Command σ)) {before after : Node σ}
    (reached : before.toSite = (run provider commands start).toSite)
    {signal : CancelSignal σ} {failure : Error}
    (failed : acceptSession provider connectionId hello signal before = .error failure after)
    (retryable : failure.isRetryable = true)
    (answerable : before.Overlooks provider hello signal →
      before.own.messenger.identity.CanAnswer working hello
        before.own.messenger.config.protocolInfo)
    (unspent : hello.oneTimePreKeyId = none ∨
      after.own.messenger.identity = before.own.messenger.identity)
    {retry : Node τ} (sameParty : retry.own.messenger = after.own.messenger)
    (stores : ∀ writes slot, retry.volume.writeFault writes slot = none)
    (finds : retry.FindsUnusedIds working connectionId hello) :
    ∃ done state, acceptSession working connectionId hello .never retry = .ok () done ∧
      done.own.messenger.Holds connectionId state := by
  have genuine : before.own.messenger.identity.Genuine working primitives := by
    rw [reached]
    exact (run_made commands made).genuine_of_imitates imitates
  have canAnswer : before.own.messenger.identity.CanAnswer working hello
      before.own.messenger.config.protocolInfo := by
    by_cases overlooks : before.Overlooks provider hello signal
    · exact answerable overlooks
    · obtain ⟨_, _, shares⟩ := acceptSession_shares failed retryable overlooks
      exact Identity.canAnswer_of_shared agrees shares
  obtain ⟨_, identity, party, sides⟩ := acceptSession_of_error failed
  have retries : retry.own.messenger.identity.Genuine working primitives ∧
      retry.own.messenger.identity.CanAnswer working hello
        retry.own.messenger.config.protocolInfo := by
    rw [sameParty, party]
    obtain ⟨rfl, _⟩ | ⟨answers, _⟩ := sides
    · exact ⟨genuine, canAnswer⟩
    · refine ⟨answers.genuine imitates.publishes genuine, ?_⟩
      obtain unnamed | unchanged := unspent
      · exact answers.canAnswer unnamed canAnswer
      · rw [party] at unchanged
        exact unchanged ▸ canAnswer
  obtain ⟨stillGenuine, stillAnswers⟩ := retries
  obtain ⟨secret, _, derived⟩ := stillAnswers.respondSecret agreeing retry.crypto
  obtain ⟨live, _⟩ := Identity.respondSecret_eq_ok derived
  obtain ⟨connection, _, opened, established⟩ :=
    openAsResponder_of_secret connectionId agreeing derived
  obtain ⟨done, accepted, holds, _⟩ := acceptSession_of_opened opened established
    (stillGenuine.clone agreeing vouching live).succeeds live stores finds
  exact ⟨done, _, accepted, holds⟩

/-- A process at its start whose provider fails the first derivation. -/
def Node.sampleFaulty : Node (Faulty Nat) where
  volume := {}
  own.messenger.config := { minOneTimePreKeys := 0 }
  own.messenger.identity := .sample
  own.timer := .thirtyYears
  crypto := ⟨1, [⟨.hkdf, .error, 0⟩], 0⟩
  clock := 0

/-- The same process after an acceptance. -/
def Node.sampleFailed : Node (Faulty Nat) :=
  (Command.accept 2 .sample .never).aftermath (Faulty.wrap .transparent) sampleFaulty

/-- The same party with a provider that works. -/
def Node.sampleMended : Node Nat :=
  { sampleStart {} with own.messenger := sampleFailed.own.messenger }

theorem Identity.sample_canAnswer :
    Identity.sample.CanAnswer .transparent .sample ({} : Config).protocolInfo := by
  have reached : (Identity.sample.respondShared .transparent .sample
      ({} : Config).protocolInfo).value? 0 ≠ none := by
    decide +kernel
  obtain ⟨shared, isValue⟩ := Option.ne_none_iff_exists'.1 reached
  obtain ⟨_, reached⟩ := Crypto.eq_ok_of_value? isValue
  exact canAnswer_of_shared (fun _ _ _ _ _ _ => Crypto.succeeds_pure _) reached

/-- The first attempt fails at a derivation, and the second one succeeds. -/
theorem failed_acceptance_can_be_retried_sample :
    acceptSession (Faulty.wrap .transparent) 2 .sample .never .sampleFaulty =
        .error (.deriveKey Faulty.injected) .sampleFailed ∧
      ∃ (done : Node Nat) (state : RatchetState),
        acceptSession .transparent 2 .sample .never .sampleMended = .ok () done ∧
        done.own.messenger.Holds 2 state := by
  have made : Node.sampleFaulty.own.messenger.identity.Made (Faulty.wrap .transparent) :=
    .read (show Identity.ofRecord (Faulty.wrap .transparent) Identity.sample.toRecord ⟨0, [], 0⟩ =
      .ok _ ⟨0, [], 0⟩ from rfl)
  have fails := Command.result_of_failure? (show (Command.accept 2 .sample .never).failure?
    (Faulty.wrap .transparent) Node.sampleFaulty = some (.deriveKey Faulty.injected) by
      decide +kernel)
  have failed : acceptSession (Faulty.wrap .transparent) 2 .sample .never .sampleFaulty =
      .error (.deriveKey Faulty.injected) .sampleFailed := Crypto.error_of_bind_pure fails
  have unchanged : Node.sampleFailed.own.messenger = Node.sampleFaulty.own.messenger := by
    decide +kernel
  have finds : Node.sampleMended.FindsUnusedIds .transparent 2 .sample := by
    rintro _ _ ⟨_, _, _, _, _, _, tooFew⟩
    have none : Node.sampleMended.own.messenger.config.minOneTimePreKeys = 0 :=
      congrArg (fun party => party.config.minOneTimePreKeys) unchanged
    rw [none] at tooFew
    exact absurd tooFew (Nat.not_lt_zero _)
  refine ⟨failed, ?_⟩
  exact failed_acceptance_can_be_retried (Faulty.wrap_imitates Provider.transparent_agreeing)
    (fun _ _ _ _ _ _ => Crypto.succeeds_pure _) Provider.transparent_agreeing
    Provider.transparent_vouching made [] rfl failed rfl (fun _ => Identity.sample_canAnswer)
    (.inr (congrArg Messenger.identity unchanged)) rfl (fun _ _ => rfl) finds

/-- A process whose volume refuses the next five writes of connections. -/
def Node.sampleInterrupted : Node Nat :=
  run .transparent [.saveIdentity .never]
    { sampleStart { minOneTimePreKeys := 0 } with
      volume := Volume.failNext 5 (some .connection) false {} }

/-- The same process after an acceptance, with a volume that accepts every write. -/
def Node.sampleRepaired : Node Nat :=
  let after := (Command.accept 2 .sample .never).aftermath .transparent sampleInterrupted
  { after with volume := { after.volume with writeFault := fun _ _ => none } }

/-- An acceptance fails for a retryable reason after the identity was stored, and fails again
although nothing else does: the one-time pre-key that the hello names is gone. -/
theorem retryable_failure_stays :
    ∃ (failure reason : Error) (after later : Node Nat),
      acceptSession .transparent 2 .sample .never
        { Node.sampleInterrupted with gaveWay := false } = .error failure after ∧
      failure.isRetryable = true ∧
      Node.sampleRepaired = { after with volume := { after.volume with
        writeFault := fun _ _ => none } } ∧
      acceptSession .transparent 2 .sample .never
        { Node.sampleRepaired with gaveWay := false } = .error reason later := by
  have fails := Command.result_of_failure? (show (Command.accept 2 .sample .never).failure?
    .transparent .sampleInterrupted =
      some (gaveUp (.connection 2) 5 "Storage failure: volume is read-only") by decide +kernel)
  have failsAgain := Command.result_of_failure? (show (Command.accept 2 .sample .never).failure?
    .transparent .sampleRepaired = some (.handshake "unknown one-time pre-key 7") by decide +kernel)
  exact ⟨_, _, _, _, Crypto.error_of_bind_pure fails, rfl, rfl,
    Crypto.error_of_bind_pure failsAgain⟩

end RatchetMessaging
