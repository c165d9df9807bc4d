import RatchetMessaging.Messenger.Sessions

/-!
Contract: the upkeep of a running party.

Owns: the first save of an identity, the rotation of the signed pre-key, and the end of a
process.

Does not own: sessions.
-/

namespace RatchetMessaging.Node

variable {σ : Type}

/-- Store the identity. A new identity needs this once; later changes store it by
themselves. -/
def saveIdentity (signal : CancelSignal σ) : Operation σ Unit := do
  let record ← checking (← messenger).identity.exportRecord
  saveCritical .identity (.ofIdentity record) signal

/-- Replace the signed pre-key, unless no number is found in `patience` draws. The new one
takes effect once it is stored. -/
def rotateSignedPreKey (provider : Provider σ) (patience : Nat) (signal : CancelSignal σ) :
    Operation σ (Option UInt32) := do
  let copy ← calling ((← messenger).identity.clone provider)
  match ← calling (copy.rotate provider patience) with
  | none => return none
  | some (id, identity) =>
    replaceIdentity identity signal
    return some id

/-- Finish the background saves, close all connections, and wipe the identity. -/
def shutdown : Operation σ Unit := do
  flush
  modifyMessenger Messenger.shutdown

end RatchetMessaging.Node
