import RatchetMessaging.Messenger.Saving

/-!
Contract: the messages of a session.

Owns: encryption and decryption on a live connection. A turn of the ratchet is stored before
it is committed; any other change is committed at once and saved in the background.

Does not own: the ratchet.
-/

namespace RatchetMessaging.Node

variable {σ : Type}

/-- Commit a change to a live connection. -/
def commitTo (connectionId : UInt32) (live : LiveConnection) (staged : Staged) :
    Operation σ Unit :=
  modifyMessenger (fun messenger =>
    messenger.update connectionId { live with connection := live.connection.commit staged })

/-- Store a change as it demands, and commit it. -/
def settle (connectionId : UInt32) (live : LiveConnection) (staged : Staged)
    (signal : CancelSignal σ) : Operation σ Unit := do
  match staged.turnRecord connectionId with
  | some record =>
    signal.check
    saveCritical (.connection connectionId) (.ofConnection record) signal
    commitTo connectionId live staged
  | none =>
    commitTo connectionId live staged
    scheduleSave connectionId live.serial

/-- Encrypt a message of a session. -/
def encrypt (provider : Provider σ) (connectionId : UInt32) (plaintext associatedData : Bytes)
    (signal : CancelSignal σ) : Operation σ RatchetMessage := do
  let live ← checking ((← messenger).session connectionId)
  let (message, staged) ←
    calling (live.connection.stageEncrypt provider plaintext associatedData)
  settle connectionId live staged signal
  return message

/-- Decrypt a message of a session. -/
def decrypt (provider : Provider σ) (connectionId : UInt32) (message : RatchetMessage)
    (associatedData : Bytes) (signal : CancelSignal σ) : Operation σ Bytes := do
  let live ← checking ((← messenger).session connectionId)
  let (plaintext, staged) ←
    calling (live.connection.stageDecrypt provider message associatedData)
  settle connectionId live staged signal
  return plaintext

end RatchetMessaging.Node
