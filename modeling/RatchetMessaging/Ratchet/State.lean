import RatchetMessaging.Ratchet.Chain
import RatchetMessaging.Ratchet.Message
import RatchetMessaging.Ratchet.ReplayWindow
import RatchetMessaging.Ratchet.SkippedKeys

/-!
Contract: everything one side of a double ratchet remembers.

Owns: the state, and the placement of an incoming ratchet key: which chain, if any, its
message belongs to.

Does not own: the steps from one state to the next.
-/

namespace RatchetMessaging

/-- A ratchet key of the peer whose chain was superseded, with the generation of that
chain. -/
structure SupersededKey where
  key : X25519PublicKey
  generation : UInt32
deriving DecidableEq

/-- The state of one side of a double ratchet. -/
structure RatchetState where
  isInitiator : Bool
  rootKey : FixedBytes 32
  sendingChain : Option Chain
  receivingChain : Option Chain
  /-- The own ratchet key pair. -/
  keyPair : X25519KeyPair
  /-- The peer's ratchet key, once it is known. -/
  remoteKey : Option X25519PublicKey
  /-- The number of the current receiving chain. -/
  receivingGeneration : UInt32
  /-- Keys of superseded chains that still serve late messages, the oldest first. -/
  supersededKeys : List SupersededKey
  /-- Keys of chains that serve no message any more, the oldest first. -/
  retiredKeys : List X25519PublicKey
  previousSendingChainLength : UInt32
  /-- Whether the next outgoing message starts a new chain. -/
  sendingRatchetPending : Bool
  skipped : SkippedKeys (FixedBytes 32)
  replay : ReplayWindow
  /-- Authenticated with every message of the session. -/
  associatedData : Bytes
  fingerprint : String
  ratchetSteps : UInt64
deriving DecidableEq

/-- Where an incoming ratchet key places its message. -/
inductive Placement where
  /-- On the current receiving chain. -/
  | current (generation : UInt32)
  /-- On a superseded chain, which only cached keys can serve. -/
  | previous (generation : UInt32)
  /-- On the current chain, whose ratchet key is learnt from this message. -/
  | adopt (generation : UInt32)
  /-- On a new chain. -/
  | ratchet
  /-- On a chain that was given up. -/
  | retired
  /-- On the peer's present key, for which there is no chain. -/
  | unexpected
deriving DecidableEq, Repr

namespace Placement

/-- The generation of a placement on a chain that exists already. -/
def knownGeneration : Placement → Option UInt32
  | current generation | previous generation | adopt generation => some generation
  | ratchet | retired | unexpected => none

end Placement

namespace RatchetState

/-- Place the message of an incoming ratchet key. -/
def place (state : RatchetState) (key : X25519PublicKey) : Placement :=
  if state.remoteKey = some key then
    if state.receivingChain.isSome then .current state.receivingGeneration else .unexpected
  else
    match state.supersededKeys.find? (fun superseded => superseded.key = key) with
    | some superseded => .previous superseded.generation
    | none =>
      if key ∈ state.retiredKeys then .retired
      else if state.remoteKey.isNone && state.receivingChain.isSome then
        .adopt state.receivingGeneration
      else .ratchet

end RatchetState

end RatchetMessaging
