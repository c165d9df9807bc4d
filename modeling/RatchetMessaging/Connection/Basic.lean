import RatchetMessaging.Ratchet.Snapshot

/-!
Contract: one end of a session.

Owns: the phases of a connection, and what can be asked of an established one.

Does not own: how a session is established, and how messages move it on.
-/

namespace RatchetMessaging

/-- The phases of a connection. -/
inductive Phase where
  | unestablished
  | established (state : RatchetState)
  | closed
deriving DecidableEq

/-- One end of a session. -/
structure Connection where
  connectionId : UInt32
  limits : RatchetLimits
  phase : Phase
deriving DecidableEq

namespace Connection

variable {σ : Type}

/-- A connection before its session is established. -/
def new (connectionId : UInt32) (limits : RatchetLimits) : Connection :=
  ⟨connectionId, limits, .unestablished⟩

/-- Whether the session is established. -/
def isEstablished (connection : Connection) : Bool :=
  match connection.phase with
  | .established _ => true
  | _ => false

/-- Whether the connection is closed. -/
def isClosed (connection : Connection) : Bool :=
  match connection.phase with
  | .closed => true
  | _ => false

/-- The state of an established session. -/
def state (connection : Connection) : Except Error RatchetState :=
  match connection.phase with
  | .established state => .ok state
  | .unestablished => .error (.prepareLocal "connection not established")
  | .closed => .error (.objectDisposed "RatchetConnection")

/-- Close the connection and forget its state. -/
def close (connection : Connection) : Connection := { connection with phase := .closed }

/-- Let the next outgoing message start a new chain. If both sides do so at the same time,
their root keys part. -/
def forceRatchet (connection : Connection) : Except Error Connection := do
  let state ← connection.state
  if state.remoteKey.isNone then
    throw (.prepareLocal "remote ratchet key not yet known")
  return { connection with phase := .established { state with sendingRatchetPending := true } }

/-- The record of an established session. -/
def exportRecord (connection : Connection) : Except Error Record.ConnectionRecord := do
  return (← connection.state).toRecord connection.connectionId

/-- The established connection of a record, under the reader's limits. -/
def ofRecord (provider : Provider σ) (limits : RatchetLimits)
    (record : Record.ConnectionRecord) : Crypto σ Connection := do
  let state ← RatchetState.ofRecord provider limits record
  return ⟨record.connectionId, limits, .established state⟩

/-- The own ratchet key. -/
def localRatchetKey (connection : Connection) : Except Error X25519PublicKey := do
  return (← connection.state).keyPair.publicKey

/-- The peer's ratchet key, once it is known. -/
def remoteRatchetKey (connection : Connection) : Except Error (Option X25519PublicKey) := do
  return (← connection.state).remoteKey

/-- The number of the current receiving chain. -/
def receivingGeneration (connection : Connection) : Except Error UInt32 := do
  return (← connection.state).receivingGeneration

/-- The position of the next outgoing message, if there is a sending chain. -/
def sendingIndex (connection : Connection) : Except Error (Option UInt32) := do
  return (← connection.state).sendingChain.map Chain.index

/-- The position expected next, if there is a receiving chain. -/
def receivingIndex (connection : Connection) : Except Error (Option UInt32) := do
  return (← connection.state).receivingChain.map Chain.index

/-- How many keys of skipped messages are cached. -/
def skippedKeyCount (connection : Connection) : Except Error Nat := do
  return (← connection.state).skipped.size

/-- How many turns the Diffie-Hellman ratchet has taken, in both directions. -/
def ratchetSteps (connection : Connection) : Except Error UInt64 := do
  return (← connection.state).ratchetSteps

/-- The fingerprint of the session, the same at both ends. -/
def fingerprint (connection : Connection) : Except Error String := do
  return (← connection.state).fingerprint

/-- The name of a phase. -/
def phaseName : Phase → String
  | .unestablished => "uninitialized"
  | .established _ => "established"
  | .closed => "closed"

/-- The listing shows number and phase. -/
def listing (connection : Connection) : String :=
  Text.listing "RatchetConnection"
    [("connection_id", toString connection.connectionId),
      ("phase", Text.quote (phaseName connection.phase))] true

end Connection

end RatchetMessaging
