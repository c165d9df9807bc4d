import RatchetMessaging.Connection.Basic

/-!
Contract: the start of a session from a shared secret.

Owns: the root key and the first chain, which the initiator sends on and the responder
receives on, and the refusal to start twice.

Does not own: how the two ends came to share a secret.
-/

namespace RatchetMessaging

variable {σ : Type}

/-- What a session starts from. -/
structure SessionSeed where
  sharedSecret : SecretBuffer
  isInitiator : Bool
  /-- For the initiator, the responder's signed pre-key; for the responder, the ratchet key
  that the initiator announced, or none to learn it from the first message. -/
  remoteRatchetKey : Option X25519PublicKey
  /-- For the responder, its signed pre-key pair. -/
  localRatchetKey : Option X25519KeyPair
  /-- Authenticated with every message. -/
  associatedData : Bytes
  fingerprint : String

namespace RatchetState

/-- The context of the first root key. -/
def rootInfo : Bytes := Bytes.ofText "vigil-root"

/-- The context of the first chain key. -/
def firstChainInfo : Bytes := Bytes.ofText "init-send"

/-- The state from which both roles start; only chains and keys differ. -/
def initial (limits : RatchetLimits) (seed : SessionSeed) (rootKey : FixedBytes 32)
    (keyPair : X25519KeyPair) (sendingChain receivingChain : Option Chain) : RatchetState where
  isInitiator := seed.isInitiator
  rootKey := rootKey
  sendingChain := sendingChain
  receivingChain := receivingChain
  keyPair := keyPair
  remoteKey := seed.remoteRatchetKey
  receivingGeneration := 0
  supersededKeys := []
  retiredKeys := []
  previousSendingChainLength := 0
  sendingRatchetPending := !seed.isInitiator
  skipped := .new limits.maxSkippedMessageKeys
  replay := .new limits.replayWindow limits.maxTrackedGenerations
  associatedData := seed.associatedData
  fingerprint := seed.fingerprint
  ratchetSteps := 0

/-- The first state of a session. -/
def ofSeed (provider : Provider σ) (limits : RatchetLimits) (seed : SessionSeed) :
    Crypto σ RatchetState := do
  let secret ← Crypto.ofExcept (seed.sharedSecret.read 32)
  let rootKey ← provider.hkdf none secret rootInfo 32
  let chainKey ← provider.hkdf none rootKey.toBytes firstChainInfo 32
  if seed.isInitiator then
    if seed.remoteRatchetKey.isNone then
      throw (.invalidInput "initiator needs the responder's signed pre-key")
    let keyPair ← X25519KeyPair.generate provider
    return initial limits seed rootKey keyPair (some ⟨.sending, chainKey, 0⟩) none
  else
    match seed.localRatchetKey with
    | none => throw (.prepareLocal "responder needs its signed pre-key pair")
    | some keyPair =>
      return initial limits seed rootKey keyPair none (some ⟨.receiving, chainKey, 0⟩)

end RatchetState

namespace Connection

/-- Establish the session. A connection is established at most once. -/
def establish (provider : Provider σ) (seed : SessionSeed) (connection : Connection) :
    Crypto σ Connection := do
  match connection.phase with
  | .established _ => throw (.handshake "connection already established")
  | .closed => throw (.objectDisposed "RatchetConnection")
  | .unestablished =>
    let state ← RatchetState.ofSeed provider connection.limits seed
    return { connection with phase := .established state }

end Connection

end RatchetMessaging
