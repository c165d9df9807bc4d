/-!
Contract: everything that can go wrong, as one type.

Owns: the causes of failure, the name and the sentence shown for each, whether a caller
may try again, and the coarse signal given to the transport.

Does not own: the moments at which an operation reports one of these causes.
-/

namespace RatchetMessaging

/-- A cause of failure. A detail names the step that failed and never carries key
material. -/
inductive Error where
  /-- An argument was malformed or had the wrong length. -/
  | invalidInput (detail : String)
  /-- Guarded memory could not be allocated. -/
  | allocation (detail : String)
  /-- A key pair could not be made. -/
  | keyGeneration (detail : String)
  /-- A key derivation failed. -/
  | deriveKey (detail : String)
  /-- The peer's public key was refused. -/
  | peerPublicKey (detail : String)
  /-- Local key material that the operation needs is missing. -/
  | prepareLocal (detail : String)
  /-- The handshake cannot be completed with the data at hand. -/
  | handshake (detail : String)
  /-- An object was used after it had been disposed. -/
  | objectDisposed (object : String)
  /-- The message was processed before, or lies outside the replay window. -/
  | replayDetected
  /-- The ciphertext does not authenticate. -/
  | decrypt
  /-- The message lies further ahead than the skip limit allows. -/
  | tooManySkipped (gap : UInt32)
  /-- The store failed. -/
  | storage (detail : String)
  /-- The store holds no such record. -/
  | notFound
  /-- Stored or received data cannot be decoded. -/
  | decode (detail : String)
  /-- The caller withdrew before the operation took effect. -/
  | cancelled
  /-- The provider of cryptography is unusable. -/
  | provider (detail : String)
  /-- No live session has this connection number. -/
  | sessionNotFound (connectionId : UInt32)
deriving DecidableEq, Repr, Inhabited

/-- What the transport is told when an operation fails. -/
inductive ChannelSignal where
  /-- The channel is unavailable and the caller may come back later. -/
  | unavailableRetry
  /-- One message was dropped and the channel is fine. -/
  | messageRejected
  /-- The local engine is misused or broken. -/
  | fault
deriving DecidableEq, Repr

/-- The name of a signal. -/
def ChannelSignal.name : ChannelSignal → String
  | .unavailableRetry => "UnavailableRetry"
  | .messageRejected => "MessageRejected"
  | .fault => "Fault"

namespace Error

/-- The name of the kind of a failure. -/
def kind : Error → String
  | .invalidInput _ => "InvalidInput"
  | .allocation _ => "Allocation"
  | .keyGeneration _ => "KeyGeneration"
  | .deriveKey _ => "DeriveKey"
  | .peerPublicKey _ => "PeerPubKey"
  | .prepareLocal _ => "PrepareLocal"
  | .handshake _ => "Handshake"
  | .objectDisposed _ => "ObjectDisposed"
  | .replayDetected => "ReplayDetected"
  | .decrypt => "Decrypt"
  | .tooManySkipped _ => "TooManySkipped"
  | .storage _ => "Storage"
  | .notFound => "NotFound"
  | .decode _ => "Decode"
  | .cancelled => "Cancelled"
  | .provider _ => "Provider"
  | .sessionNotFound _ => "SessionNotFound"

/-- The failure of a named kind; each kind takes from `text` and `number` what it needs. -/
def ofKind? (kind text : String) (number : UInt32) : Option Error :=
  [.invalidInput text, .allocation text, .keyGeneration text, .deriveKey text,
    .peerPublicKey text, .prepareLocal text, .handshake text, .objectDisposed text,
    .replayDetected, .decrypt, .tooManySkipped number, .storage text, .notFound, .decode text,
    .cancelled, .provider text, .sessionNotFound number].find?
      (fun failure => failure.kind = kind)

/-- The sentence shown for a failure. -/
def message : Error → String
  | .invalidInput detail => s!"Invalid input: {detail}"
  | .allocation detail => s!"Secure memory allocation failed: {detail}"
  | .keyGeneration detail => s!"Key generation failed: {detail}"
  | .deriveKey detail => s!"Key derivation failed: {detail}"
  | .peerPublicKey detail => s!"Peer public key rejected: {detail}"
  | .prepareLocal detail => s!"Local key material not prepared: {detail}"
  | .handshake detail => s!"Handshake failed: {detail}"
  | .objectDisposed object => s!"Object disposed: {object}"
  | .replayDetected => "Replay detected"
  | .decrypt => "Decryption failed"
  | .tooManySkipped gap => s!"Message gap of {gap} exceeds the skip limit"
  | .storage detail => s!"Storage failure: {detail}"
  | .notFound => "Persisted state not found"
  | .decode detail => s!"Decode failed: {detail}"
  | .cancelled => "Operation cancelled"
  | .provider detail => s!"Crypto provider unavailable: {detail}"
  | .sessionNotFound connectionId => s!"No session for connection {connectionId}"

/-- Whether the failed operation may be tried again a bounded number of times. -/
def isRetryable : Error → Bool
  | .keyGeneration _ | .deriveKey _ | .storage _ | .cancelled => true
  | _ => false

/-- The coarse signal for the transport. -/
def channelSignal : Error → ChannelSignal
  | .replayDetected | .decrypt | .tooManySkipped _ => .messageRejected
  | .objectDisposed _ | .provider _ | .invalidInput _ => .fault
  | _ => .unavailableRetry

/-- A received value has the wrong length. -/
def wrongLength (what : String) (expected actual : Nat) : Error :=
  .invalidInput s!"{what} must be {expected} bytes, got {actual}"

/-- A stored field has the wrong length. -/
def wrongFieldLength (what : String) (expected actual : Nat) : Error :=
  .decode s!"{what} must be {expected} bytes, got {actual}"

end Error

end RatchetMessaging
