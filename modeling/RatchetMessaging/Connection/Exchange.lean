import RatchetMessaging.Connection.Basic
import RatchetMessaging.Ratchet.MessageCipher

/-!
Contract: messages out and in.

Owns: encryption and decryption as two phases. The first produces the result and a
description of the change and leaves the connection alone; the second, which cannot fail,
commits the change. A failure therefore never leaves a connection half moved, and a turn of
the ratchet can be stored before it takes effect.

Does not own: storage.
-/

namespace RatchetMessaging

variable {σ : Type}

/-- How an operation changes the state of a session. -/
inductive Change where
  /-- A turn of the ratchet replaces the state. -/
  | replace (state : RatchetState)
  /-- The sending chain has moved. -/
  | send (chain : Chain)
  /-- A message was received on a chain known before. -/
  | receive (reception : Reception)
deriving DecidableEq

/-- A change that is not committed yet, and the position it accepts. -/
structure Staged where
  change : Change
  accepted : Option Slot
deriving DecidableEq

namespace Staged

/-- Whether the operation took a turn of the ratchet. -/
def ratcheted (staged : Staged) : Bool :=
  match staged.change with
  | .replace _ => true
  | _ => false

/-- The state after the change, with the accepted position recorded. -/
def resulting (staged : Staged) (state : RatchetState) : RatchetState :=
  let changed := match staged.change with
    | .replace replacement => replacement
    | .send chain => { state with sendingChain := some chain }
    | .receive reception => reception.apply state
  match staged.accepted with
  | none => changed
  | some slot => { changed with replay := (changed.replay.accept slot.generation slot.index).2 }

/-- The record after a turn of the ratchet, to be stored before the turn is committed. -/
def turnRecord (staged : Staged) (connectionId : UInt32) : Option Record.ConnectionRecord :=
  match staged.change with
  | .replace state =>
    let exported := state.toRecord connectionId
    some (match staged.accepted with
      | none => exported
      | some slot =>
        { exported with
          replay := some (state.replay.accept slot.generation slot.index).2.toRecord })
  | _ => none

end Staged

namespace Connection

/-- Whether the next outgoing message starts a new chain. -/
def needsTurn (limits : RatchetLimits) (state : RatchetState) : Bool :=
  state.sendingRatchetPending ||
    match state.sendingChain with
    | none => true
    | some chain => chain.needsRatchet limits.chainRatchetThreshold

/-- The key of the next outgoing message, the header, and the change. -/
def nextSendingKey (provider : Provider σ) (limits : RatchetLimits) (state : RatchetState) :
    Crypto σ (MessageKey × MessageHeader × Change) := do
  if needsTurn limits state then
    let turned ← state.sendingTurn provider
    match turned.sendingChain with
    | none => throw (.prepareLocal "no sending chain")
    | some chain =>
      let (messageKey, chain) ← chain.advance provider
      return (messageKey,
        ⟨turned.keyPair.publicKey, turned.previousSendingChainLength, messageKey.index⟩,
        .replace { turned with sendingChain := some chain })
  else
    match state.sendingChain with
    | none => throw (.prepareLocal "no sending chain")
    | some chain =>
      let (messageKey, chain) ← chain.advance provider
      return (messageKey,
        ⟨state.keyPair.publicKey, state.previousSendingChainLength, messageKey.index⟩,
        .send chain)

/-- Encrypt a message without moving the connection. -/
def stageEncrypt (provider : Provider σ) (connection : Connection)
    (plaintext associatedData : Bytes) : Crypto σ (RatchetMessage × Staged) := do
  let state ← Crypto.ofExcept connection.state
  let (messageKey, header, change) ← nextSendingKey provider connection.limits state
  let ciphertext ← MessageCipher.encrypt provider messageKey.key plaintext
    (MessageCipher.associatedData state.associatedData associatedData header)
  return (⟨header, ciphertext⟩, ⟨change, none⟩)

/-- The key of an incoming message, the generation of its chain, and the change. -/
def receivingKey (provider : Provider σ) (limits : RatchetLimits) (state : RatchetState)
    (header : MessageHeader) : Crypto σ (FixedBytes 32 × UInt32 × Change) := do
  match state.place header.ratchetKey with
  | .current generation =>
    let (key, reception) ← state.stageReceive provider limits header.chainIndex
    return (key, generation, .receive reception)
  | .adopt generation =>
    let (key, reception) ← state.stageReceive provider limits header.chainIndex
    return (key, generation, .receive { reception with adopted := some header.ratchetKey })
  | .previous generation =>
    match state.skipped.get? ⟨generation, header.chainIndex⟩ with
    | none => throw .replayDetected
    | some key =>
      return (key, generation,
        .receive { generation := generation, index := header.chainIndex, fromCache := true })
  | .ratchet =>
    let turned ← state.receivingTurn provider limits header
    let (key, received) ← turned.receive provider limits header.chainIndex
    return (key, received.receivingGeneration, .replace received)
  | .retired => throw .replayDetected
  | .unexpected =>
    throw (.peerPublicKey "message uses a ratchet key with no receiving chain")

/-- Whether a message on a known chain was accepted before. -/
def isReplayed (state : RatchetState) (header : MessageHeader) : Bool :=
  match (state.place header.ratchetKey).knownGeneration with
  | some generation => state.replay.isReplay generation header.chainIndex
  | none => false

/-- Decrypt a message without moving the connection. -/
def stageDecrypt (provider : Provider σ) (connection : Connection) (message : RatchetMessage)
    (associatedData : Bytes) : Crypto σ (Bytes × Staged) := do
  let state ← Crypto.ofExcept connection.state
  if isReplayed state message.header then
    throw .replayDetected
  let (key, generation, change) ←
    receivingKey provider connection.limits state message.header
  let plaintext ← MessageCipher.decrypt provider key message.ciphertext
    (MessageCipher.associatedData state.associatedData associatedData message.header)
  return (plaintext, ⟨change, some ⟨generation, message.header.chainIndex⟩⟩)

/-- Commit a change. Only an established connection moves. -/
def commit (connection : Connection) (staged : Staged) : Connection :=
  match connection.phase with
  | .established state => { connection with phase := .established (staged.resulting state) }
  | _ => connection

/-- Encrypt the next outgoing message. -/
def encryptNext (provider : Provider σ) (connection : Connection)
    (plaintext associatedData : Bytes) : Crypto σ (RatchetMessage × Connection) := do
  let (message, staged) ← connection.stageEncrypt provider plaintext associatedData
  return (message, connection.commit staged)

/-- Decrypt an incoming message. -/
def decryptNext (provider : Provider σ) (connection : Connection) (message : RatchetMessage)
    (associatedData : Bytes) : Crypto σ (Bytes × Connection) := do
  let (plaintext, staged) ← connection.stageDecrypt provider message associatedData
  return (plaintext, connection.commit staged)

end Connection

end RatchetMessaging
