import RatchetMessaging.Config
import RatchetMessaging.Connection.Exchange
import RatchetMessaging.Identity.Snapshot
import RatchetMessaging.Handshake.Agreement
import RatchetMessaging.Storage.Volume

/-!
Contract: a party that is running: its identity and its live connections.

Owns: the messenger, its start with a given identity, and its restart from the identity
record of a volume.

Does not own: anything that takes time or writes to the volume.
-/

namespace RatchetMessaging

variable {σ : Type}

/-- A live connection. The serial number tells it from every other connection that was live
under the same connection number. -/
structure LiveConnection where
  serial : Nat
  connection : Connection
deriving DecidableEq

/-- A party that is running. -/
structure Messenger where
  config : Config
  identity : Identity
  connections : NumberMap LiveConnection := .empty
  /-- The serial number of the next live connection. -/
  nextSerial : Nat := 0
deriving DecidableEq

namespace Messenger

/-- A failure of the self-test makes the provider unusable. -/
def selfTest (provider : Provider σ) : Crypto σ Unit := fun state =>
  match provider.selfTest state with
  | .ok value after => .ok value after
  | .error failure after => .error (.provider s!"self-test failed: {failure.message}") after

/-- Start a party with a given identity. -/
def start (provider : Provider σ) (config : Config) (identity : Identity) :
    Crypto σ Messenger := do
  Crypto.ofExcept config.validate
  selfTest provider
  return { config := config, identity := identity }

/-- Start a party again from the identity record of a volume. Its connections are restored
one by one. -/
def restart (provider : Provider σ) (config : Config) (volume : Volume) :
    Crypto σ Messenger := do
  let record ← Crypto.ofExcept (volume.load .identity)
  match record.identityKeys with
  | none => throw (.decode "identity record has no identity keys")
  | some keys =>
    let identity ← Identity.ofRecord provider keys
    start provider config identity

/-- The live connection under a number. -/
def session (messenger : Messenger) (connectionId : UInt32) : Except Error LiveConnection :=
  match messenger.connections.find? connectionId with
  | some live => .ok live
  | none => .error (.sessionNotFound connectionId)

/-- Whether a connection is live under a number. -/
def hasSession (messenger : Messenger) (connectionId : UInt32) : Bool :=
  messenger.connections.contains connectionId

/-- The fingerprint of a live session. -/
def sessionFingerprint (messenger : Messenger) (connectionId : UInt32) :
    Except Error String := do
  (← messenger.session connectionId).connection.fingerprint

/-- Make a connection live. One that was live under the same number before is superseded:
it is closed, and can be told from the new one by its serial number. -/
def install (messenger : Messenger) (connectionId : UInt32) (connection : Connection) :
    Messenger :=
  { messenger with
    connections :=
      messenger.connections.insert connectionId ⟨messenger.nextSerial, connection⟩
    nextSerial := messenger.nextSerial + 1 }

/-- Replace the state of a live connection. -/
def update (messenger : Messenger) (connectionId : UInt32) (live : LiveConnection) :
    Messenger :=
  { messenger with connections := messenger.connections.insert connectionId live }

/-- Close the connection under a number. -/
def remove (messenger : Messenger) (connectionId : UInt32) : Messenger :=
  { messenger with connections := messenger.connections.erase connectionId }

/-- Close all connections and wipe the identity. -/
def shutdown (messenger : Messenger) : Messenger :=
  { messenger with connections := .empty, identity := messenger.identity.dispose }

end Messenger

end RatchetMessaging
