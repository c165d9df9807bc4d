import Mathlib.Logic.Function.Basic
import RatchetMessaging.Proofs.Conversation.Availability

/-!
Contract: two connections of one session, and what has passed between them.

Owns:
- the two sides, and each side's endpoint: its connection, the ratchet keys it has had, what it
  has sent, and the headers of what it has accepted;
- `Half`, the relation between what one side has sent and what the other side knows of it;
- `Coherent`, both halves together with the agreement of the two root keys.

Does not own: the order in which messages are sent and delivered.
-/

namespace RatchetMessaging

/-! ### Conversations -/

/-- The two sides of a session. -/
inductive Side where
  | initiator
  | responder
deriving DecidableEq

namespace Side

/-- The peer of a side. -/
def other : Side → Side
  | initiator => responder
  | responder => initiator

@[simp] theorem other_other (side : Side) : side.other.other = side := by
  cases side <;> rfl

@[simp] theorem other_ne (side : Side) : side.other ≠ side := by
  cases side <;> decide

theorem eq_or_eq_other (first second : Side) : second = first ∨ second = first.other := by
  cases first <;> cases second <;> simp [other]

/-- What holds of both sides is decided at each. -/
instance {holds : Side → Prop} [DecidablePred holds] : Decidable (∀ side, holds side) :=
  decidable_of_iff (holds initiator ∧ holds responder)
    ⟨fun both side => by cases side <;> simp [both], fun all => ⟨all _, all _⟩⟩

end Side

/-- A sent message, as its sender remembers it. -/
structure Sent where
  message : RatchetMessage
  plaintext : Bytes
  associatedData : Bytes
deriving DecidableEq

/-- One end of a conversation. -/
structure Endpoint where
  connection : Connection
  /-- The ratchet keys it has had, the oldest first. -/
  ratchetKeys : List X25519PublicKey
  sent : List Sent
  /-- The headers of the accepted messages. -/
  accepted : List MessageHeader
  /-- Whether the cache had room for every key passed over so far. -/
  roomy : Bool
deriving DecidableEq

namespace Endpoint

/-- Whether the cache has room for the keys that a message makes it pass over. -/
def hasRoom (endpoint : Endpoint) (header : MessageHeader) : Bool :=
  match endpoint.connection.phase with
  | .established state =>
    state.skipped.size + state.passedOver header ≤ state.skipped.capacity
  | _ => true

/-- A message can be delivered within the limits of the connection. -/
def Accommodates (endpoint : Endpoint) (header : MessageHeader) : Prop :=
  ∃ state, endpoint.connection.phase = .established state ∧
    Deliverable endpoint.connection.limits state endpoint.roomy header

/-- The endpoint after a message was sent. -/
def afterSending (endpoint : Endpoint) (sent : Sent) (staged : Staged) : Endpoint :=
  { endpoint with
    connection := endpoint.connection.commit staged
    ratchetKeys :=
      if staged.ratcheted then endpoint.ratchetKeys ++ [sent.message.header.ratchetKey]
      else endpoint.ratchetKeys
    sent := endpoint.sent ++ [sent] }

/-- The endpoint after a message was accepted. -/
def afterReceiving (endpoint : Endpoint) (header : MessageHeader) (staged : Staged) : Endpoint :=
  { endpoint with
    connection := endpoint.connection.commit staged
    accepted := endpoint.accepted ++ [header]
    roomy := endpoint.roomy && endpoint.hasRoom header }

end Endpoint

/-- The endpoints of both sides. -/
abbrev Conversation := Side → Endpoint

namespace Conversation

variable {conversation : Conversation} {side : Side} {staged : Staged}

/-- A side keeps the keys that it has had. -/
theorem nodup_before_sending {sent : Sent}
    (distinct : ∀ probe, (Function.update conversation side
      ((conversation side).afterSending sent staged) probe).ratchetKeys.Nodup) (probe : Side) :
    (conversation probe).ratchetKeys.Nodup := by
  have distinctProbe := distinct probe
  rcases Side.eq_or_eq_other side probe with rfl | rfl
  · rw [Function.update_self, Endpoint.afterSending] at distinctProbe
    cases ratcheted : staged.ratcheted with
    | false => simpa [ratcheted] using distinctProbe
    | true =>
      rw [ratcheted] at distinctProbe
      exact distinctProbe.sublist (List.sublist_append_left _ _)
  · simpa using distinctProbe

theorem nodup_before_receiving {header : MessageHeader}
    (distinct : ∀ probe, (Function.update conversation side
      ((conversation side).afterReceiving header staged) probe).ratchetKeys.Nodup)
    (probe : Side) : (conversation probe).ratchetKeys.Nodup := by
  have distinctProbe := distinct probe
  rcases Side.eq_or_eq_other side probe with rfl | rfl
  · rw [Function.update_self] at distinctProbe
    exact distinctProbe
  · simpa using distinctProbe

end Conversation

/-! ### One direction -/

/-- The sending side of a state is at the end of a turn. -/
structure Writes (primitives : Primitives) (current : Turn) (state : RatchetState) : Prop where
  keyPair : state.keyPair = current.pair
  chain : state.sendingChain =
    current.chainKey.map (fun first => primitives.chainAt .sending first current.length)
  previousLength : state.previousSendingChainLength = current.previousLength

section Half

variable {σ : Type} (provider : Provider σ) (primitives : Primitives)
  (usable : FixedBytes 32 → Prop) (session : Bytes)

/-- A sent message has a place in the ledger, and opens with the key of that place. -/
def Logged (ledger : List Turn) (sent : Sent) : Prop :=
  ∃ (place : Nat) (turn : Turn) (first : FixedBytes 32) (index : UInt32),
    ledger[place]? = some turn ∧ turn.chainKey = some first ∧
    index < turn.length ∧ sent.message.header = turn.headerAt index ∧
    Crypto.Returns
      (MessageCipher.decrypt provider (primitives.messageKeyAt first index)
        sent.message.ciphertext
        (MessageCipher.associatedData session sent.associatedData sent.message.header))
      sent.plaintext

/-- What a writer has sent, and what the reader knows of it. -/
structure Half (writer reader : Endpoint) (writing reading : RatchetState)
    (ledger : List Turn) : Prop where
  proper : ProperLedger primitives usable ledger
  ratchetKeys : writer.ratchetKeys = ledger.map Turn.publicKey
  writes : ∃ closed current, ledger = closed ++ [current] ∧ Writes primitives current writing
  logged : ∀ sent ∈ writer.sent, Logged provider primitives session ledger sent
  reads : Reads primitives ledger reading reader.accepted reader.roomy

/-! ### Both directions -/

/-- Following the turns leads from one root key to another. The turns of one side are answered by
the secret of the other. -/
def Links (secret : FixedBytes 32) : FixedBytes 32 → List Turn → FixedBytes 32 → Prop
  | rootKey, [], final => rootKey = final
  | rootKey, turn :: turns, final =>
    turn.chainKey =
        some (primitives.stepRoot rootKey (primitives.agree secret turn.pair.secret)).2 ∧
      Links secret (primitives.stepRoot rootKey (primitives.agree secret turn.pair.secret)).1 turns
        final

/-- The leader has followed every turn of its peer, and the turns that the peer has not followed
lead from the peer's root key to the leader's. -/
structure Leads (ledger : Side → List Turn) (state : Side → RatchetState) (leader : Side) :
    Prop where
  caughtUp : (ledger leader.other).length = (state leader).receivingGeneration.toNat + 1
  links : Links primitives (state leader.other).keyPair.secret (state leader.other).rootKey
    ((ledger leader).drop ((state leader.other).receivingGeneration.toNat + 1))
    (state leader).rootKey

/-- Both sides know each other's turns, and their root keys agree up to the turns in flight. -/
structure Coherent (conversation : Conversation) (ledger : Side → List Turn)
    (state : Side → RatchetState) : Prop where
  phase : ∀ side, (conversation side).connection.phase = .established (state side)
  sameSession : ∀ side, (state side).associatedData = session
  half : ∀ side, Half provider primitives usable session (conversation side)
    (conversation side.other) (state side) (state side.other) (ledger side)
  leads : ∃ leader, Leads primitives ledger state leader

end Half

end RatchetMessaging
