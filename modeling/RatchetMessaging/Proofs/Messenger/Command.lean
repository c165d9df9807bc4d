import RatchetMessaging.Messenger.Exchange
import RatchetMessaging.Messenger.Upkeep

/-!
Contract: the life of a process, one command after the other.

Owns:
- `Command`, whatever can be asked of a running party, the passage of time included, and its
  answer;
- `run`, the node after a list of commands, each of which begins when the one before has come to an
  end, with success or with a failure;
- `Event`, what happens on the way that a record or a message shows: an identity that is stored, a
  ratchet key, the position of a message, and a sending position that is given up unsaved.

Does not own: what the commands do.
-/

namespace RatchetMessaging

variable {σ : Type}

/-- What can be asked of a running party. -/
inductive Command (σ : Type) where
  | saveIdentity (signal : CancelSignal σ)
  | initiate (connectionId : UInt32) (bundle : Bundle) (signal : CancelSignal σ)
  | accept (connectionId : UInt32) (hello : Hello) (signal : CancelSignal σ)
  | encrypt (connectionId : UInt32) (plaintext associatedData : Bytes) (signal : CancelSignal σ)
  | decrypt (connectionId : UInt32) (message : RatchetMessage) (associatedData : Bytes)
      (signal : CancelSignal σ)
  | forceRatchet (connectionId : UInt32)
  | restore (connectionId : UInt32)
  | close (connectionId : UInt32)
  | rotate (patience : Nat) (signal : CancelSignal σ)
  | flush
  | wait (duration : Nat)

/-- What a command comes to when it succeeds. -/
inductive Answer where
  | done
  | opened (hello : Hello)
  | sent (message : RatchetMessage)
  | read (plaintext : Bytes)
  | rotated (signedPreKeyId : Option UInt32)

/-- What a command leaves behind that the outside can see. -/
inductive Event where
  /-- An identity was stored. A handshake has used up the first number, and a replenishment has
  drawn the others. -/
  | identityStored (consumed : Option UInt32) (drawn : List UInt32)
  /-- A session has made a ratchet key to send under. -/
  | generated (key : X25519PublicKey)
  /-- A message was sent at a position on the chain of a ratchet key. -/
  | sent (key : X25519PublicKey) (index : UInt32)
  /-- A live connection was replaced or closed, and its sending position was not stored. -/
  | abandoned (connectionId : UInt32)
deriving DecidableEq

namespace Event

/-- The ratchet key that was made. -/
def generatedKey? : Event → Option X25519PublicKey
  | generated key => some key
  | _ => none

/-- The position of the message that was sent. -/
def position? : Event → Option (X25519PublicKey × UInt32)
  | sent key index => some (key, index)
  | _ => none

end Event

/-! ### Sending positions -/

/-- The own ratchet key and the sending chain of a record. -/
def Record.ConnectionRecord.sendingPosition (record : ConnectionRecord) :
    Bytes × Option ChainRecord :=
  (record.dhPublic, record.sendingChain)

/-- The record of a connection that is stored. -/
def Volume.connectionRecord? (volume : Volume) (connectionId : UInt32) :
    Option Record.ConnectionRecord :=
  (volume.find? (.connection connectionId)).bind Record.SessionRecord.ratchetState

namespace Site

/-- The record that a live connection would be stored with. -/
def liveRecord? (site : Site) (connectionId : UInt32) : Option Record.ConnectionRecord :=
  (site.own.messenger.connections.find? connectionId).bind
    (fun live => live.connection.exportRecord.toOption)

/-- What is given up when a live connection is replaced by the stored one, or closed: its sending
position, unless it is the stored one. -/
def abandoning (site : Site) (connectionId : UInt32) : List Event :=
  match site.liveRecord? connectionId with
  | none => []
  | some record =>
    if (site.volume.connectionRecord? connectionId).map Record.ConnectionRecord.sendingPosition =
      some record.sendingPosition then []
    else [.abandoned connectionId]

end Site

namespace Node

/-- The turns that a live session has taken. -/
def ratchetSteps? (node : Node σ) (connectionId : UInt32) : Option UInt64 :=
  (node.toSite.liveRecord? connectionId).map Record.ConnectionRecord.ratchetSteps

/-! ### The first half of an acceptance -/

/-- The identity after a handshake, and the numbers that a replenishment has drawn for it. -/
def identityAfterDrawing (provider : Provider σ) (hello : Hello) :
    Operation σ (Identity × List UInt32) := do
  let config := (← messenger).config
  let copy ← calling ((← messenger).identity.clone provider)
  let identity := copy.consumeNamed hello
  if identity.oneTimePreKeyCount < config.minOneTimePreKeys then
    let replenishment ← calling (identity.replenish provider config.oneTimePreKeyCount)
    let drawn ← checking replenishment.outcome
    return (replenishment.identity, drawn)
  else
    return (identity, [])

theorem identityAfter_eq (provider : Provider σ) (hello : Hello) :
    identityAfter provider hello = (do
      let (identity, _) ← identityAfterDrawing provider hello
      return identity) := by
  unfold identityAfter identityAfterDrawing
  simp only [bind_assoc]
  refine congrArg _ (funext fun _ => congrArg _ (funext fun _ =>
    congrArg _ (funext fun copy => ?_)))
  split <;> simp only [bind_assoc, pure_bind]

/-- The part of an acceptance that ends with the identity stored and in effect. -/
def takeOver (provider : Provider σ) (connectionId : UInt32) (hello : Hello)
    (signal : CancelSignal σ) : Operation σ (Connection × List UInt32) := do
  signal.check
  let connection ← openAsResponder provider connectionId hello
  signal.check
  let (identity, drawn) ← identityAfterDrawing provider hello
  replaceIdentity identity signal
  return (connection, drawn)

theorem acceptSession_eq (provider : Provider σ) (connectionId : UInt32) (hello : Hello)
    (signal : CancelSignal σ) :
    acceptSession provider connectionId hello signal = (do
      let (connection, _) ← takeOver provider connectionId hello signal
      storeAndInstall connectionId connection signal) := by
  simp only [acceptSession, takeOver, identityAfter_eq, bind_assoc, pure_bind]

end Node

/-! ### Commands -/

namespace Command

/-- What a party does when it is asked. -/
def perform (provider : Provider σ) : Command σ → Operation σ Answer
  | saveIdentity signal => do Node.saveIdentity signal; return .done
  | initiate connectionId bundle signal => do
    return .opened (← Node.initiateSession provider connectionId bundle signal)
  | accept connectionId hello signal => do
    Node.acceptSession provider connectionId hello signal; return .done
  | encrypt connectionId plaintext associatedData signal => do
    return .sent (← Node.encrypt provider connectionId plaintext associatedData signal)
  | decrypt connectionId message associatedData signal => do
    return .read (← Node.decrypt provider connectionId message associatedData signal)
  | forceRatchet connectionId => do Node.forceRatchet connectionId; return .done
  | restore connectionId => do Node.restoreSession provider connectionId; return .done
  | close connectionId => do Node.closeSession connectionId; return .done
  | rotate patience signal => do
    return .rotated (← Node.rotateSignedPreKey provider patience signal)
  | flush => do Node.flush; return .done
  | wait duration => do Node.wait .never duration; return .done

/-- A command begins before anything else happens at its moment. -/
def result (provider : Provider σ) (command : Command σ) (node : Node σ) :
    EStateM.Result Error (Node σ) Answer :=
  command.perform provider { node with gaveWay := false }

/-- The node that a command leaves, with success or with a failure. -/
def aftermath (provider : Provider σ) (command : Command σ) (node : Node σ) : Node σ :=
  match command.result provider node with
  | .ok _ after => after
  | .error _ after => after

/-- What the answer to a command shows. -/
def eventsOf (before after : Node σ) : Command σ → Answer → List Event
  | saveIdentity _, _ => [.identityStored none []]
  | rotate _ _, .rotated (some _) => [.identityStored none []]
  | initiate _ _ _, .opened hello => hello.ratchetKey.toList.map .generated
  | encrypt connectionId _ _ _, .sent message =>
    (if after.ratchetSteps? connectionId = before.ratchetSteps? connectionId then []
      else [.generated message.header.ratchetKey]) ++
      [.sent message.header.ratchetKey message.header.chainIndex]
  | restore connectionId, _ | close connectionId, _ => before.toSite.abandoning connectionId
  | _, _ => []

/-- What a command leaves behind. An acceptance that fails may have stored the identity before. -/
def events (provider : Provider σ) (command : Command σ) (node : Node σ) : List Event :=
  match command with
  | accept connectionId hello signal =>
    match Node.takeOver provider connectionId hello signal { node with gaveWay := false } with
    | .ok (_, drawn) _ => [.identityStored hello.oneTimePreKeyId drawn]
    | .error _ _ => []
  | command =>
    match command.result provider node with
    | .ok answer after => command.eventsOf node after answer
    | .error _ _ => []

end Command

/-! ### Runs -/

/-- The node after some commands. -/
def run (provider : Provider σ) : List (Command σ) → Node σ → Node σ
  | [], node => node
  | command :: rest, node => run provider rest (command.aftermath provider node)

/-- What some commands leave behind. -/
def trace (provider : Provider σ) : List (Command σ) → Node σ → List Event
  | [], _ => []
  | command :: rest, node =>
    command.events provider node ++ trace provider rest (command.aftermath provider node)

end RatchetMessaging
