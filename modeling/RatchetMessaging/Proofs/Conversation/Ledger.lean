import RatchetMessaging.Proofs.Connection.Acceptance
import RatchetMessaging.Proofs.Provider.Dependable
import RatchetMessaging.Proofs.Ratchet.ReplayWindow

/-!
Contract: what a side has sent, as a list of its turns, and what that makes of the other side.

Owns:
- `Turn` and the laws of a ledger of turns;
- `Follows`, `Caches` and `Recalls`: the receiving chain, the cache and the replay memory of a
  state, as functions of the ledger of the other side and of the accepted headers;
- `Reads`, all of them together.

Does not own: the steps that keep these relations.
-/

namespace RatchetMessaging

/-! ### Turns -/

/-- One turn of a side: the pair under which it sends, and the chain that it sends on. -/
structure Turn where
  pair : X25519KeyPair
  /-- The first key of the chain. A pre-key has no chain. -/
  chainKey : Option (FixedBytes 32)
  previousLength : UInt32
  /-- How many messages were sent on the chain. -/
  length : UInt32

namespace Turn

/-- The ratchet key of a turn. -/
def publicKey (turn : Turn) : X25519PublicKey := turn.pair.publicKey

/-- The header of the message at a position. -/
def headerAt (turn : Turn) (index : UInt32) : MessageHeader :=
  ⟨turn.publicKey, turn.previousLength, index⟩

end Turn

/-- The turns of a side, the oldest first. -/
structure ProperLedger (primitives : Primitives) (usable : FixedBytes 32 → Prop)
    (ledger : List Turn) : Prop where
  owns : ∀ turn ∈ ledger, primitives.Owns usable turn.pair
  distinct : (ledger.map Turn.publicKey).Nodup
  silent : ∀ turn ∈ ledger, turn.chainKey = none → turn.length = 0
  previousLength : ∀ place earlier later, ledger[place]? = some earlier →
    ledger[place + 1]? = some later → later.previousLength = earlier.length

namespace ProperLedger

variable {primitives : Primitives} {usable : FixedBytes 32 → Prop} {ledger : List Turn}

/-- A ratchet key belongs to one turn. -/
theorem place_unique (proper : ProperLedger primitives usable ledger) {first second : Nat}
    {turn other : Turn} (isTurn : ledger[first]? = some turn)
    (isOther : ledger[second]? = some other) (sameKey : turn.publicKey = other.publicKey) :
    first = second := by
  have bound : first < (ledger.map Turn.publicKey).length := by
    rw [List.length_map]
    exact (List.getElem?_eq_some_iff.1 isTurn).1
  refine (List.getElem?_inj bound proper.distinct).1 ?_
  rw [List.getElem?_map, List.getElem?_map, isTurn, isOther]
  exact congrArg some sameKey

end ProperLedger

/-! ### The other side -/

/-- The receiving chain and the placed keys are those of the other side's turns. -/
structure Follows (primitives : Primitives) (ledger : List Turn) (state : RatchetState)
    (present : Turn) : Prop where
  isPresent : ledger[state.receivingGeneration.toNat]? = some present
  chain : (present.chainKey = none ∧ state.receivingChain = none) ∨
    ∃ first position, present.chainKey = some first ∧ position ≤ present.length ∧
      state.receivingChain = some (primitives.chainAt .receiving first position)
  remoteKey : state.remoteKey = some present.publicKey ∨
    state.remoteKey = none ∧ state.receivingGeneration = 0 ∧ state.receivingChain.isSome = true
  superseded : ∀ superseded ∈ state.supersededKeys,
    superseded.generation < state.receivingGeneration ∧
      ∃ turn, ledger[superseded.generation.toNat]? = some turn ∧
        turn.publicKey = superseded.key
  retired : ∀ key ∈ state.retiredKeys, ∃ place turn, place < state.receivingGeneration.toNat ∧
    ledger[place]? = some turn ∧ turn.publicKey = key

/-- Every cached key is the right one. While no key had to leave a full cache, the key of every
sent position that was passed and not accepted is there. -/
structure Caches (primitives : Primitives) (ledger : List Turn) (state : RatchetState)
    (accepted : List MessageHeader) (roomy : Bool) : Prop where
  value : ∀ slot key, state.skipped.get? slot = some key →
    ∃ turn first, ledger[slot.generation.toNat]? = some turn ∧ turn.chainKey = some first ∧
      key = primitives.messageKeyAt first slot.index
  complete : roomy = true → ∀ slot turn, ledger[slot.generation.toNat]? = some turn →
    slot.index < turn.length → state.Behind slot →
    (slot.generation = state.receivingGeneration ∨
      ∃ superseded ∈ state.supersededKeys, superseded.generation = slot.generation) →
    turn.headerAt slot.index ∉ accepted → state.skipped.contains slot = true

/-- The position was passed, and its header accepted. -/
def PassedAndAccepted (ledger : List Turn) (state : RatchetState)
    (accepted : List MessageHeader) (slot : Slot) : Prop :=
  state.Behind slot ∧
    ∃ turn, ledger[slot.generation.toNat]? = some turn ∧ turn.headerAt slot.index ∈ accepted

/-- What a state knows of the other side's ledger. -/
structure Reads (primitives : Primitives) (ledger : List Turn) (state : RatchetState)
    (accepted : List MessageHeader) (roomy : Bool) : Prop where
  sound : state.Sound
  follows : ∃ present, Follows primitives ledger state present
  caches : Caches primitives ledger state accepted roomy
  recalls : state.replay.Remembers (PassedAndAccepted ledger state accepted)
    state.receivingGeneration

namespace RatchetState

/-- The position of the receiving chain, or the start of one. -/
def position (state : RatchetState) : Nat :=
  (state.receivingChain.map (fun chain => chain.index.toNat)).getD 0

/-- How many positions a message makes its receiver pass over. -/
def passedOver (state : RatchetState) (header : MessageHeader) : Nat :=
  match state.place header.ratchetKey with
  | .current _ | .adopt _ => header.chainIndex.toNat - state.position
  | .ratchet =>
    (if state.receivingChain.isSome then header.previousChainLength.toNat - state.position
      else 0) + header.chainIndex.toNat
  | .previous _ | .retired | .unexpected => 0

end RatchetState

end RatchetMessaging
