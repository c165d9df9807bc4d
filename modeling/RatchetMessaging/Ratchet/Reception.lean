import RatchetMessaging.Config
import RatchetMessaging.Ratchet.State

/-!
Contract: the key of an incoming message on a chain that exists.

Owns: reception in place, which moves the chain and caches the keys passed over, and
staged reception, which only describes those changes so that they can be applied once the
message has authenticated.

Does not own: the start of a new chain.
-/

namespace RatchetMessaging

variable {σ : Type}

namespace Chain

/-- Pass over `count` positions and keep their keys. -/
def advanceBy (provider : Provider σ) : (count : Nat) → Chain → Crypto σ (List MessageKey × Chain)
  | 0, chain => pure ([], chain)
  | count + 1, chain => do
    let (messageKey, chain) ← chain.advance provider
    let (messageKeys, chain) ← advanceBy provider count chain
    return (messageKey :: messageKeys, chain)

/-- Pass over `count` positions and cache each key as soon as it is derived. -/
def cacheNext (provider : Provider σ) (generation : UInt32) :
    (count : Nat) → Chain → SkippedKeys (FixedBytes 32) →
      Crypto σ (Chain × SkippedKeys (FixedBytes 32))
  | 0, chain, skipped => pure (chain, skipped)
  | count + 1, chain, skipped => do
    let (messageKey, chain) ← chain.advance provider
    cacheNext provider generation count chain
      (skipped.insert ⟨generation, messageKey.index⟩ messageKey.key)

end Chain

/-- What reception on a known chain changes. Applying it cannot fail. -/
structure Reception where
  generation : UInt32
  index : UInt32
  /-- The receiving chain afterwards, when it has moved. -/
  chain : Option Chain := none
  /-- Keys passed over on the way to `index`. -/
  passedOver : List MessageKey := []
  /-- Whether the key came out of the cache and leaves it. -/
  fromCache : Bool := false
  /-- The peer's ratchet key, when it was learnt from this message. -/
  adopted : Option X25519PublicKey := none
deriving DecidableEq

namespace RatchetState

/-- Refuse a gap beyond the limit. -/
def checkGap (limits : RatchetLimits) (gap : UInt32) : Except Error Unit :=
  if limits.maxSkip < gap then .error (.tooManySkipped gap) else .ok ()

/-- Cache the keys of the current receiving chain up to `limit`, which stays out. -/
def skipReceivingUntil (provider : Provider σ) (limits : RatchetLimits) (limit : UInt32)
    (state : RatchetState) : Crypto σ RatchetState :=
  match state.receivingChain with
  | none => pure state
  | some chain =>
    if limit ≤ chain.index then pure state
    else do
      let gap := limit - chain.index
      Crypto.ofExcept (checkGap limits gap)
      let (chain, skipped) ←
        chain.cacheNext provider state.receivingGeneration gap.toNat state.skipped
      return { state with receivingChain := some chain, skipped := skipped }

/-- Receive in place: the key of position `index` on the current chain, and the state
afterwards. Positions behind the chain come from the cache. -/
def receive (provider : Provider σ) (limits : RatchetLimits) (index : UInt32)
    (state : RatchetState) : Crypto σ (FixedBytes 32 × RatchetState) := do
  match state.receivingChain with
  | none => throw (.prepareLocal "no receiving chain")
  | some chain =>
    if index < chain.index then
      match state.skipped.take ⟨state.receivingGeneration, index⟩ with
      | none => throw .replayDetected
      | some (key, skipped) => return (key, { state with skipped := skipped })
    else
      let state ← skipReceivingUntil provider limits index state
      match state.receivingChain with
      | none => throw (.prepareLocal "no receiving chain")
      | some chain =>
        let (messageKey, chain) ← chain.advance provider
        return (messageKey.key, { state with receivingChain := some chain })

/-- Receive without touching the state: the key of position `index` on the current chain,
and what has to change once the message authenticates. -/
def stageReceive (provider : Provider σ) (limits : RatchetLimits) (index : UInt32)
    (state : RatchetState) : Crypto σ (FixedBytes 32 × Reception) := do
  let generation := state.receivingGeneration
  match state.receivingChain with
  | none => throw (.prepareLocal "no receiving chain")
  | some chain =>
    if index < chain.index then
      match state.skipped.get? ⟨generation, index⟩ with
      | none => throw .replayDetected
      | some key =>
        return (key, { generation := generation, index := index, fromCache := true })
    else
      let gap := index - chain.index
      Crypto.ofExcept (checkGap limits gap)
      let (passedOver, chain) ← chain.advanceBy provider gap.toNat
      let (messageKey, chain) ← chain.advance provider
      return (messageKey.key,
        { generation := generation
          index := index
          chain := some chain
          passedOver := passedOver })

end RatchetState

namespace Reception

/-- Apply what reception has changed. -/
def apply (reception : Reception) (state : RatchetState) : RatchetState :=
  let skipped := reception.passedOver.foldl
    (fun skipped messageKey =>
      skipped.insert ⟨reception.generation, messageKey.index⟩ messageKey.key)
    state.skipped
  { state with
    remoteKey := reception.adopted.or state.remoteKey
    receivingChain := reception.chain.or state.receivingChain
    skipped :=
      if reception.fromCache then skipped.erase ⟨reception.generation, reception.index⟩
      else skipped }

end Reception

end RatchetMessaging
