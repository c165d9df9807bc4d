import RatchetMessaging.Bytes
import RatchetMessaging.Error

/-!
Contract: the boundary to the primitive cryptography.

Owns:
- `Crypto`, computations that call primitives: they run over the state of a provider,
  and a failure keeps the state that the calls before it have left behind;
- `Provider`, the ten primitives over values of fixed size;
- the self-test that runs every primitive once.

Does not own: any primitive. Everything above this module is stated for every provider,
also for one that fails at any of its calls.
-/

namespace RatchetMessaging

/-- A computation over the state `σ` of a provider. -/
abbrev Crypto (σ : Type) := EStateM Error σ

/-- The primitives. `σ` is whatever the provider remembers between calls. -/
structure Provider (σ : Type) where
  /-- Bytes from a secure random source. -/
  randomBytes (size : Nat) : Crypto σ (FixedBytes size)
  /-- The X25519 public key of a scalar. -/
  x25519Public (secret : FixedBytes 32) : Crypto σ (FixedBytes 32)
  /-- The X25519 shared value; a peer key that contributes nothing is refused. -/
  x25519Shared (secret peer : FixedBytes 32) : Crypto σ (FixedBytes 32)
  /-- The Ed25519 key pair encoding of a seed, and its public key. -/
  ed25519KeyPair (seed : FixedBytes 32) : Crypto σ (FixedBytes 64 × FixedBytes 32)
  /-- An Ed25519 signature under a key pair encoding. -/
  ed25519Sign (keyPair : FixedBytes 64) (message : Bytes) : Crypto σ (FixedBytes 64)
  /-- Strict Ed25519 verification. -/
  ed25519Verify (key : FixedBytes 32) (message : Bytes) (signature : FixedBytes 64) :
    Crypto σ Bool
  /-- HKDF-SHA256 to an output of the wanted size. -/
  hkdf (salt : Option Bytes) (material info : Bytes) (size : Nat) : Crypto σ (FixedBytes size)
  /-- HMAC-SHA256. -/
  hmac (key message : Bytes) : Crypto σ (FixedBytes 32)
  /-- Authenticated encryption; the ciphertext carries the tag. -/
  aeadEncrypt (key : FixedBytes 32) (nonce : FixedBytes 12) (plaintext associatedData : Bytes) :
    Crypto σ Bytes
  /-- Authenticated decryption. -/
  aeadDecrypt (key : FixedBytes 32) (nonce : FixedBytes 12) (ciphertext associatedData : Bytes) :
    Crypto σ Bytes

/-- A check that needs no provider, as a step of a computation that has one. -/
def Crypto.ofExcept {σ α : Type} : Except Error α → Crypto σ α
  | .ok value => pure value
  | .error failure => throw failure

namespace Provider

variable {σ : Type}

/-- A random number of thirty-two bits, read most significant byte first. -/
def randomWord (provider : Provider σ) : Crypto σ UInt32 := do
  let bytes ← provider.randomBytes 4
  return UInt32.ofNat (Bytes.toNatBE bytes.toBytes)

/-- Run every primitive once. The first primitive that fails, or whose result
contradicts another's, ends the test. -/
def selfTest (provider : Provider σ) : Crypto σ Unit := do
  let sample := Bytes.ofText "self-test"
  let alice := FixedBytes.replicate 32 0x11
  let bob := FixedBytes.replicate 32 0x22
  let alicePublic ← provider.x25519Public alice
  let bobPublic ← provider.x25519Public bob
  let fromAlice ← provider.x25519Shared alice bobPublic
  let fromBob ← provider.x25519Shared bob alicePublic
  if fromAlice ≠ fromBob then
    throw (.provider "x25519 agreement mismatch")
  let (keyPair, key) ← provider.ed25519KeyPair alice
  let signature ← provider.ed25519Sign keyPair sample
  let verified ← provider.ed25519Verify key sample signature
  if !verified then
    throw (.provider "ed25519 verification failed")
  let derived ← provider.hkdf none bob.toBytes sample 32
  let nonce := FixedBytes.replicate 12 0
  let ciphertext ← provider.aeadEncrypt derived nonce sample []
  let plaintext ← provider.aeadDecrypt derived nonce ciphertext []
  if plaintext ≠ sample then
    throw (.provider "aead round trip failed")
  let random ← provider.randomBytes 32
  if random.toBytes.isZero then
    throw (.provider "random source returned zeros")

end Provider

end RatchetMessaging
