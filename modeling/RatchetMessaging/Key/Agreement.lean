import RatchetMessaging.Provider
import RatchetMessaging.Text.Hex
import RatchetMessaging.Text.Listing

/-!
Contract: X25519 keys.

Owns: public keys, key pairs, the ways to make a pair, the check that a stored pair fits
together, and agreement with a peer's public key.

Does not own: the curve arithmetic, which the provider supplies.
-/

namespace RatchetMessaging

/-- An X25519 public key. -/
structure X25519PublicKey where
  bytes : FixedBytes 32
deriving DecidableEq

namespace X25519PublicKey

/-- Read a received public key. -/
def ofBytes (bytes : Bytes) : Except Error X25519PublicKey :=
  match FixedBytes.ofBytes? 32 bytes with
  | some value => .ok ⟨value⟩
  | none => .error (.wrongLength "X25519 public key" 32 bytes.length)

/-- Read a stored public key that the record calls `what`. -/
def ofField (what : String) (bytes : Bytes) : Except Error X25519PublicKey :=
  match FixedBytes.ofBytes? 32 bytes with
  | some value => .ok ⟨value⟩
  | none => .error (.wrongFieldLength what 32 bytes.length)

/-- The bytes of a public key. -/
def toBytes (key : X25519PublicKey) : Bytes := key.bytes.toBytes

/-- The listing shows the first four bytes. -/
def listing (key : X25519PublicKey) : String :=
  Text.wrapped "X25519PublicKey" (Text.hex (key.toBytes.take 4) ++ "..")

end X25519PublicKey

/-- An X25519 key pair. -/
structure X25519KeyPair where
  publicKey : X25519PublicKey
  secret : FixedBytes 32
deriving DecidableEq

namespace X25519KeyPair

variable {σ : Type}

/-- The pair of a given secret. -/
def ofSecret (provider : Provider σ) (secret : FixedBytes 32) : Crypto σ X25519KeyPair := do
  let key ← provider.x25519Public secret
  return ⟨⟨key⟩, secret⟩

/-- A fresh pair. -/
def generate (provider : Provider σ) : Crypto σ X25519KeyPair := do
  let secret ← provider.randomBytes 32
  ofSecret provider secret

/-- A stored pair. The public half is computed again and has to agree. -/
def ofStored (provider : Provider σ) (secret publicKey : Bytes) : Crypto σ X25519KeyPair :=
  match FixedBytes.ofBytes? 32 secret with
  | none => throw (.decode s!"X25519 secret has {secret.length} bytes")
  | some secretValue =>
    match FixedBytes.ofBytes? 32 publicKey with
    | none => throw (.decode s!"X25519 public has {publicKey.length} bytes")
    | some publicValue => do
      let pair ← ofSecret provider secretValue
      if pair.publicKey.bytes ≠ publicValue then
        throw (.decode "X25519 public key does not match its secret")
      return pair

/-- The value shared with the owner of a public key. -/
def shared (provider : Provider σ) (pair : X25519KeyPair) (peer : X25519PublicKey) :
    Crypto σ (FixedBytes 32) :=
  provider.x25519Shared pair.secret peer.bytes

/-- The listing shows the public half. -/
def listing (pair : X25519KeyPair) : String :=
  Text.listing "X25519KeyPair" [("public", pair.publicKey.listing)] true

end X25519KeyPair

end RatchetMessaging
