import RatchetMessaging.Messenger.Saving
import RatchetMessaging.Identity.Upkeep
import RatchetMessaging.Connection.Establish

/-!
Contract: sessions come and go.

Owns: the establishment of sessions in both roles, their restoration from the volume, and
their end. A new session is stored before it becomes visible; a responder's identity is
stored, without the one-time pre-key that the handshake used, before either takes effect.

Does not own: the messages of a session.
-/

namespace RatchetMessaging.Node

variable {σ : Type}

/-- Agree on a secret as initiator, and start the connection. -/
def openAsInitiator (provider : Provider σ) (connectionId : UInt32) (bundle : Bundle) :
    Operation σ (Connection × Hello) := do
  let config := (← messenger).config
  let (_, identity) ← calling ((← messenger).identity.prepareEphemeral provider)
  setIdentity identity
  let (initiation, identity) ← calling (identity.initiate provider bundle config.protocolInfo)
  setIdentity identity
  let localKey := identity.agreement.publicKey
  let connection ← calling
    ((Connection.new connectionId config.ratchetLimits).establish provider {
      sharedSecret := .ofFixed initiation.sharedSecret
      isInitiator := true
      remoteRatchetKey := some bundle.signedPreKey
      localRatchetKey := none
      associatedData := Handshake.associatedData localKey bundle.agreementKey
      fingerprint :=
        Handshake.fingerprint localKey bundle.agreementKey initiation.ephemeralKey })
  let ratchetKey ← checking connection.localRatchetKey
  return (connection, {
    signingKey := identity.signing.publicKey
    agreementKey := localKey
    ephemeralKey := initiation.ephemeralKey
    signedPreKeyId := initiation.signedPreKeyId
    oneTimePreKeyId := initiation.oneTimePreKeyId
    ratchetKey := some ratchetKey })

/-- Agree on the secret as responder, and start the connection. The identity stays. -/
def openAsResponder (provider : Provider σ) (connectionId : UInt32) (hello : Hello) :
    Operation σ Connection := do
  let config := (← messenger).config
  let identity := (← messenger).identity
  let secret ← calling (identity.respondSecret provider hello config.protocolInfo)
  let localKey := identity.agreement.publicKey
  let ratchetPair ← checking (identity.signedPreKeyPair hello.signedPreKeyId)
  calling ((Connection.new connectionId config.ratchetLimits).establish provider {
    sharedSecret := .ofFixed secret
    isInitiator := false
    remoteRatchetKey := hello.ratchetKey
    localRatchetKey := some ratchetPair
    associatedData := Handshake.associatedData hello.agreementKey localKey
    fingerprint := Handshake.fingerprint hello.agreementKey localKey hello.ephemeralKey })

/-- The identity after a handshake: without the one-time pre-key that the hello names, and
replenished if too few are left. -/
def identityAfter (provider : Provider σ) (hello : Hello) : Operation σ Identity := do
  let config := (← messenger).config
  let copy ← calling ((← messenger).identity.clone provider)
  let identity := copy.consumeNamed hello
  if identity.oneTimePreKeyCount < config.minOneTimePreKeys then
    let replenishment ← calling (identity.replenish provider config.oneTimePreKeyCount)
    let _ ← checking replenishment.outcome
    return replenishment.identity
  else
    return identity

/-- Store an identity, then let it take effect. -/
def replaceIdentity (identity : Identity) (signal : CancelSignal σ) : Operation σ Unit := do
  let record ← checking identity.exportRecord
  saveCritical .identity (.ofIdentity record) signal
  setIdentity identity

/-- Store a connection, then make it live. -/
def storeAndInstall (connectionId : UInt32) (connection : Connection)
    (signal : CancelSignal σ) : Operation σ Unit := do
  let record ← checking connection.exportRecord
  saveCritical (.connection connectionId) (.ofConnection record) signal
  modifyMessenger (fun messenger => messenger.install connectionId connection)

/-- Start a session with the owner of a bundle. The hello is for the peer. -/
def initiateSession (provider : Provider σ) (connectionId : UInt32) (bundle : Bundle)
    (signal : CancelSignal σ) : Operation σ Hello := do
  signal.check
  let (connection, hello) ← openAsInitiator provider connectionId bundle
  signal.check
  storeAndInstall connectionId connection signal
  return hello

/-- Accept the session that a hello starts. -/
def acceptSession (provider : Provider σ) (connectionId : UInt32) (hello : Hello)
    (signal : CancelSignal σ) : Operation σ Unit := do
  signal.check
  let connection ← openAsResponder provider connectionId hello
  signal.check
  let identity ← identityAfter provider hello
  replaceIdentity identity signal
  storeAndInstall connectionId connection signal

/-- Refuse a record that is not of a connection, or of another one. -/
def connectionIn (record : Record.SessionRecord) (connectionId : UInt32) :
    Except Error Record.ConnectionRecord := do
  match record.ratchetState with
  | none => throw (.decode "record has no ratchet state")
  | some state =>
    if state.connectionId ≠ connectionId then
      throw (.decode s!"record belongs to connection {state.connectionId}")
    return state

/-- Make a stored connection live. -/
def restoreSession (provider : Provider σ) (connectionId : UInt32) : Operation σ Unit := do
  let record ← checking ((← get).volume.load (.connection connectionId))
  let state ← checking (connectionIn record connectionId)
  let limits := (← messenger).config.ratchetLimits
  let connection ← calling (Connection.ofRecord provider limits state)
  modifyMessenger (fun messenger => messenger.install connectionId connection)

/-- Close a live connection. Its unfinished background save is dropped. -/
def closeSession (connectionId : UInt32) : Operation σ Unit := do
  let _ ← checking ((← messenger).session connectionId)
  modifyMessenger (fun messenger => messenger.remove connectionId)
  discardSave connectionId

/-- Let the next outgoing message of a session start a new chain. -/
def forceRatchet (connectionId : UInt32) : Operation σ Unit := do
  let live ← checking ((← messenger).session connectionId)
  let connection ← checking live.connection.forceRatchet
  modifyMessenger (fun messenger =>
    messenger.update connectionId { live with connection := connection })

end RatchetMessaging.Node
