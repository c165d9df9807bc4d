import RatchetMessaging.Proofs.Connection.Establish
import RatchetMessaging.Proofs.Identity.Snapshot
import RatchetMessaging.Proofs.Messenger.Operation
import RatchetMessaging.Proofs.Messenger.Command

/-!
Contract: what the first steps of a handshake do to a process.

Owns:
- what the agreement of either role leaves behind, with success or with a failure: a connection at
  its beginning, and nothing but the pending ephemeral key changed;
- `Node.ephemeralAfterAgreement`, what that key has become.

Does not own: the identity after a handshake, and saves.
-/

namespace RatchetMessaging

variable {σ : Type} {provider : Provider σ} {connectionId : UInt32}

/-! ### The ephemeral key -/

/-- The site with another pending ephemeral key. -/
def Site.preparing (site : Site) (ephemeral : Option X25519KeyPair) : Site :=
  { site with own.messenger.identity.ephemeral := ephemeral }

/-! ### Connections at their beginning -/

/-- A connection whose session has just been established with a state. -/
structure Connection.Opens (connection : Connection) (connectionId : UInt32)
    (state : RatchetState) : Prop where
  number : connection.connectionId = connectionId
  phase : connection.phase = .established state
  retiredKeys : state.retiredKeys = []
  beginning : ∀ chain, state.sendingChain = some chain → chain.index = 0

/-- The ratchet key that a session sends under from its beginning, if it does. -/
def RatchetState.announced (state : RatchetState) : List Event :=
  if state.sendingChain.isSome then [.generated state.keyPair.publicKey] else []

theorem Connection.opens_of_establish {limits : RatchetLimits} {seed : SessionSeed}
    {connection : Connection} {before after : σ}
    (established : (Connection.new connectionId limits).establish provider seed before =
      .ok connection after) :
    ∃ state, connection.Opens connectionId state ∧
      state.announced = if seed.isInitiator then [.generated state.keyPair.publicKey] else [] := by
  obtain ⟨state, seeded, rfl⟩ := establish_eq_ok established
  refine ⟨state, ?_⟩
  obtain ⟨_, _, _, _, ⟨role, _, keyPair, _, rfl⟩ | ⟨role, _, keyPair, _, rfl⟩⟩ :=
    RatchetState.ofSeed_eq_ok seeded <;> rw [role]
  · exact ⟨⟨rfl, rfl, rfl, fun chain isChain => by cases isChain; rfl⟩, rfl⟩
  · exact ⟨⟨rfl, rfl, rfl, fun chain isChain => by cases isChain⟩, rfl⟩

namespace Node

variable {before after : Node σ} {connection : Connection} {bundle : Bundle} {hello : Hello}
  {failure : Error}

/-- The pending ephemeral key after an agreement as initiator, as far as it has come: the one from
before if no key could be made, the new one if the agreement has failed, and none if it has
succeeded. -/
def ephemeralAfterAgreement (provider : Provider σ) (bundle : Bundle) (node : Node σ) :
    Option X25519KeyPair :=
  let party := node.own.messenger
  match party.identity.prepareEphemeral provider node.crypto with
  | .error _ _ => party.identity.ephemeral
  | .ok (_, prepared) crypto =>
    match prepared.initiate provider bundle party.config.protocolInfo crypto with
    | .error _ _ => prepared.ephemeral
    | .ok _ _ => none

theorem openAsInitiator_eq_ok
    (opened : openAsInitiator provider connectionId bundle before =
      .ok (connection, hello) after) :
    ∃ state,
      after.toSite = before.toSite.preparing (before.ephemeralAfterAgreement provider bundle) ∧
      connection.Opens connectionId state ∧
      hello.ratchetKey.toList.map Event.generated = state.announced := by
  simp only [openAsInitiator, Crypto.bind_eq_ok, messenger_eq_ok, calling_eq_ok, setIdentity_eq_ok,
    checking_eq_ok, Crypto.pure_eq_ok, Prod.exists, Prod.mk.injEq] at opened
  obtain ⟨_, _, ⟨rfl, rfl⟩, _, _, ⟨rfl, rfl⟩, _, _, _, ⟨_, prepares, rfl⟩, _, _, rfl, _, _, _,
    ⟨_, initiates, rfl⟩, _, _, rfl, _, _, ⟨_, established, rfl⟩, key, _, ⟨isKey, rfl⟩,
    ⟨rfl, rfl⟩, rfl⟩ := opened
  have left : before.ephemeralAfterAgreement provider bundle = none := by
    simp only [ephemeralAfterAgreement, prepares, initiates]
  obtain ⟨_, rfl⟩ := Identity.prepareEphemeral_eq_ok prepares
  obtain rfl := Identity.initiate_eq_ok initiates
  obtain ⟨state, opens, announced⟩ := Connection.opens_of_establish established
  rw [left]
  refine ⟨state, rfl, opens, ?_⟩
  simp only [Connection.localRatchetKey, Connection.state, opens.phase] at isKey
  cases isKey
  exact announced.symm

theorem openAsInitiator_eq_error
    (failed : openAsInitiator provider connectionId bundle before = .error failure after) :
    after.toSite = before.toSite.preparing (before.ephemeralAfterAgreement provider bundle) := by
  simp only [openAsInitiator, Crypto.bind_eq_error, messenger_eq_ok, calling_eq_ok,
    setIdentity_eq_ok, checking_eq_ok, checking_eq_error, calling_eq_error, messenger_ne_error,
    setIdentity_ne_error, Crypto.pure_ne_error, false_or, and_false, exists_false, or_false,
    Prod.exists] at failed
  obtain ⟨_, _, ⟨rfl, rfl⟩, _, _, ⟨rfl, rfl⟩, ⟨_, unprepared, rfl⟩ | failed⟩ := failed
  · simp only [ephemeralAfterAgreement, unprepared]
    rfl
  obtain ⟨_, _, _, ⟨_, prepares, rfl⟩, _, _, rfl, failed⟩ := failed
  rcases failed with ⟨_, disagrees, rfl⟩ | failed
  · simp only [ephemeralAfterAgreement, prepares, disagrees]
    obtain ⟨_, rfl⟩ := Identity.prepareEphemeral_eq_ok prepares
    rfl
  obtain ⟨_, _, _, ⟨_, initiates, rfl⟩, _, _, rfl, failed⟩ := failed
  have left : before.ephemeralAfterAgreement provider bundle = none := by
    simp only [ephemeralAfterAgreement, prepares, initiates]
  obtain ⟨_, rfl⟩ := Identity.prepareEphemeral_eq_ok prepares
  obtain rfl := Identity.initiate_eq_ok initiates
  rw [left]
  rcases failed with ⟨_, _, rfl⟩ | ⟨_, _, ⟨_, _, rfl⟩, _, rfl⟩ <;> rfl

theorem openAsResponder_eq_ok
    (opened : openAsResponder provider connectionId hello before = .ok connection after) :
    ∃ state crypto, after = { before with crypto := crypto } ∧
      connection.Opens connectionId state ∧ state.announced = [] := by
  simp only [openAsResponder, Crypto.bind_eq_ok, messenger_eq_ok, calling_eq_ok, checking_eq_ok]
    at opened
  obtain ⟨_, _, ⟨rfl, rfl⟩, _, _, ⟨rfl, rfl⟩, _, _, ⟨_, _, rfl⟩, _, _, ⟨_, rfl⟩, _, established,
    rfl⟩ := opened
  obtain ⟨state, opens, announced⟩ := Connection.opens_of_establish established
  exact ⟨state, _, rfl, opens, announced⟩

theorem openAsResponder_eq_error
    (failed : openAsResponder provider connectionId hello before = .error failure after) :
    ∃ crypto, after = { before with crypto := crypto } := by
  simp only [openAsResponder, Crypto.bind_eq_error, messenger_eq_ok, calling_eq_ok,
    checking_eq_ok, checking_eq_error, calling_eq_error, messenger_ne_error, false_or] at failed
  obtain ⟨_, _, ⟨rfl, rfl⟩, _, _, ⟨rfl, rfl⟩, ⟨_, _, rfl⟩ | ⟨_, _, ⟨_, _, rfl⟩, failed⟩⟩ := failed
  · exact ⟨_, rfl⟩
  · rcases failed with ⟨_, rfl⟩ | ⟨_, _, ⟨_, rfl⟩, _, _, rfl⟩
    · exact ⟨_, rfl⟩
    · exact ⟨_, rfl⟩

end Node

end RatchetMessaging
