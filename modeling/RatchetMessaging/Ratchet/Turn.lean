import RatchetMessaging.Ratchet.Reception

/-!
Contract: the turns of the Diffie-Hellman ratchet.

Owns: the turn of the sender, which draws a new key pair and starts a sending chain, the
turn of the receiver, which follows a new key of the peer and starts a receiving chain, and
the step of the root key that both share.

Does not own: the decision when a turn is due.
-/

namespace RatchetMessaging.RatchetState

variable {σ : Type}

/-- Retired keys kept. -/
def maxRetiredKeys : Nat := 128

/-- The context of a step of the root key. -/
def rootStepInfo : Bytes := Bytes.ofText "vigil-ratchet"

/-- The next root key and the key of a new chain. -/
def stepRoot (provider : Provider σ) (rootKey shared : FixedBytes 32) :
    Crypto σ (FixedBytes 32 × FixedBytes 32) := do
  let derived ← provider.hkdf (some rootKey.toBytes) shared.toBytes rootStepInfo (32 + 32)
  return (derived.left, derived.right)

/-- The turn of the sender. -/
def sendingTurn (provider : Provider σ) (state : RatchetState) : Crypto σ RatchetState := do
  match state.remoteKey with
  | none => throw (.prepareLocal "remote ratchet key not yet known")
  | some remoteKey =>
    let keyPair ← X25519KeyPair.generate provider
    let shared ← keyPair.shared provider remoteKey
    let (rootKey, chainKey) ← stepRoot provider state.rootKey shared
    return { state with
      rootKey := rootKey
      previousSendingChainLength := (state.sendingChain.map Chain.index).getD 0
      sendingChain := some ⟨.sending, chainKey, 0⟩
      keyPair := keyPair
      sendingRatchetPending := false
      ratchetSteps := state.ratchetSteps + 1 }

/-- Retire a key; of too many the oldest goes. -/
def pushRetired (retiredKeys : List X25519PublicKey) (key : X25519PublicKey) :
    List X25519PublicKey :=
  let extended := retiredKeys ++ [key]
  if maxRetiredKeys < extended.length then extended.drop 1 else extended

/-- Retire the oldest superseded key, together with the cached keys of its chain. -/
def retire (state : RatchetState) (superseded : SupersededKey) : RatchetState :=
  { state with
    skipped := (state.skipped.removeGeneration superseded.generation).2
    retiredKeys := pushRetired state.retiredKeys superseded.key }

/-- Supersede the peer's present key, and retire what goes beyond the limit. -/
def supersede (limits : RatchetLimits) (state : RatchetState) : RatchetState :=
  match state.remoteKey with
  | none => state
  | some remoteKey =>
    let supersededKeys := state.supersededKeys ++ [⟨remoteKey, state.receivingGeneration⟩]
    let surplus := supersededKeys.length - limits.maxTrackedGenerations
    (supersededKeys.take surplus).foldl retire
      { state with supersededKeys := supersededKeys.drop surplus }

/-- The turn of the receiver: finish the present chain up to the length the header gives,
then follow the header's key. -/
def receivingTurn (provider : Provider σ) (limits : RatchetLimits) (header : MessageHeader)
    (state : RatchetState) : Crypto σ RatchetState := do
  let state ← skipReceivingUntil provider limits header.previousChainLength state
  if state.receivingGeneration = 0xFFFFFFFF then
    throw (.deriveKey "receiving generations exhausted")
  let shared ← state.keyPair.shared provider header.ratchetKey
  let (rootKey, chainKey) ← stepRoot provider state.rootKey shared
  return { state.supersede limits with
    rootKey := rootKey
    receivingChain := some ⟨.receiving, chainKey, 0⟩
    receivingGeneration := state.receivingGeneration + 1
    remoteKey := some header.ratchetKey
    sendingRatchetPending := true
    ratchetSteps := state.ratchetSteps + 1 }

end RatchetMessaging.RatchetState
