import RatchetMessaging.Provider
import RatchetMessaging.SecretBuffer

/-!
Contract: the symmetric chain that gives every message its own key.

Owns: a chain's key and position, and the step that turns them into the key of one message
and the chain of the next. The two derivations of a step use distinct labels, so a message
key reveals nothing about later chain keys.

Does not own: where a chain starts.
-/

namespace RatchetMessaging

/-- The direction of a chain. -/
inductive ChainKind where
  | sending
  | receiving
deriving DecidableEq, Repr

/-- The name of a direction. -/
def ChainKind.name : ChainKind → String
  | .sending => "Sending"
  | .receiving => "Receiving"

/-- The key of the message at one position. -/
structure MessageKey where
  index : UInt32
  key : FixedBytes 32
deriving DecidableEq

/-- A chain before its message at position `index`. -/
structure Chain where
  kind : ChainKind
  key : FixedBytes 32
  index : UInt32
deriving DecidableEq

namespace Chain

variable {σ : Type}

/-- What the chain key signs to give a message key. -/
def messageLabel : Bytes := Bytes.ofText "vigil-message"

/-- What the chain key signs to give the next chain key. -/
def chainLabel : Bytes := Bytes.ofText "vigil-chain"

/-- A chain from a guarded key; the key has to have its size. -/
def ofBuffer (kind : ChainKind) (key : SecretBuffer) (index : UInt32) : Except Error Chain :=
  match FixedBytes.ofBytes? 32 key.content.toBytes with
  | some value => .ok ⟨kind, value, index⟩
  | none => .error (.invalidInput "chain key must be 32 bytes")

/-- The key of the next message, and the chain after it. The last position is never
used. -/
def advance (provider : Provider σ) (chain : Chain) : Crypto σ (MessageKey × Chain) := do
  if chain.index = 0xFFFFFFFF then
    throw (.deriveKey "chain index exhausted")
  let messageKey ← provider.hmac chain.key.toBytes messageLabel
  let nextKey ← provider.hmac chain.key.toBytes chainLabel
  return (⟨chain.index, messageKey⟩, { chain with key := nextKey, index := chain.index + 1 })

/-- Whether the chain has reached the position at which a new one is due. -/
def needsRatchet (chain : Chain) (threshold : UInt32) : Bool := threshold ≤ chain.index

/-- The listing shows direction and position, never the key. -/
def listing (chain : Chain) : String :=
  Text.listing "ChainStep"
    [("kind", chain.kind.name), ("key", (SecretBuffer.ofFixed chain.key).listing),
      ("index", toString chain.index)] false

end Chain

end RatchetMessaging
