import RatchetMessaging.Provider
import RatchetMessaging.Text.Hex
import RatchetMessaging.Text.Listing

/-!
Contract: Ed25519 keys and signatures.

Owns: verification keys, signatures, signing pairs, the ways to make a pair, and the
check that a stored pair fits together.

Does not own: the signature scheme, which the provider supplies.
-/

namespace RatchetMessaging

/-- An Ed25519 verification key. -/
structure Ed25519PublicKey where
  bytes : FixedBytes 32
deriving DecidableEq

namespace Ed25519PublicKey

/-- Read a received verification key. -/
def ofBytes (bytes : Bytes) : Except Error Ed25519PublicKey :=
  match FixedBytes.ofBytes? 32 bytes with
  | some value => .ok ⟨value⟩
  | none => .error (.wrongLength "Ed25519 public key" 32 bytes.length)

/-- The bytes of a verification key. -/
def toBytes (key : Ed25519PublicKey) : Bytes := key.bytes.toBytes

/-- The listing shows the first four bytes. -/
def listing (key : Ed25519PublicKey) : String :=
  Text.wrapped "Ed25519PublicKey" (Text.hex (key.toBytes.take 4) ++ "..")

end Ed25519PublicKey

/-- A detached Ed25519 signature. -/
structure Ed25519Signature where
  bytes : FixedBytes 64
deriving DecidableEq

namespace Ed25519Signature

/-- Read a received signature. -/
def ofBytes (bytes : Bytes) : Except Error Ed25519Signature :=
  match FixedBytes.ofBytes? 64 bytes with
  | some value => .ok ⟨value⟩
  | none => .error (.wrongLength "Ed25519 signature" 64 bytes.length)

/-- Read a stored signature that the record calls `what`. -/
def ofField (what : String) (bytes : Bytes) : Except Error Ed25519Signature :=
  match FixedBytes.ofBytes? 64 bytes with
  | some value => .ok ⟨value⟩
  | none => .error (.wrongFieldLength what 64 bytes.length)

/-- The bytes of a signature. -/
def toBytes (signature : Ed25519Signature) : Bytes := signature.bytes.toBytes

/-- The listing shows nothing of the content. -/
def listing : String := "Ed25519Signature(..)"

end Ed25519Signature

/-- Check a signature of a message under a verification key. -/
def verifySignature {σ : Type} (provider : Provider σ) (key : Ed25519PublicKey)
    (message : Bytes) (signature : Ed25519Signature) : Crypto σ Bool :=
  provider.ed25519Verify key.bytes message signature.bytes

/-- An Ed25519 signing pair: the verification key, and the encoding of seed and
verification key that the primitive takes. -/
structure Ed25519KeyPair where
  publicKey : Ed25519PublicKey
  encoding : FixedBytes 64
deriving DecidableEq

namespace Ed25519KeyPair

variable {σ : Type}

/-- The pair of a given seed. -/
def ofSeed (provider : Provider σ) (seed : FixedBytes 32) : Crypto σ Ed25519KeyPair := do
  let (encoding, key) ← provider.ed25519KeyPair seed
  return ⟨⟨key⟩, encoding⟩

/-- A fresh pair. -/
def generate (provider : Provider σ) : Crypto σ Ed25519KeyPair := do
  let seed ← provider.randomBytes 32
  ofSeed provider seed

/-- A stored pair. The pair is made again from its seed and has to agree. -/
def ofStored (provider : Provider σ) (encoding publicKey : Bytes) :
    Crypto σ Ed25519KeyPair :=
  match FixedBytes.ofBytes? 64 encoding with
  | none => throw (.decode s!"Ed25519 secret has {encoding.length} bytes")
  | some encodingValue =>
    match FixedBytes.ofBytes? 32 publicKey with
    | none => throw (.decode s!"Ed25519 public has {publicKey.length} bytes")
    | some publicValue => do
      let pair ← ofSeed provider (@FixedBytes.left 32 32 encodingValue)
      if pair.encoding ≠ encodingValue ∨ pair.publicKey.bytes ≠ publicValue then
        throw (.decode "Ed25519 public key does not match its secret")
      return pair

/-- Sign a message. -/
def sign (provider : Provider σ) (pair : Ed25519KeyPair) (message : Bytes) :
    Crypto σ Ed25519Signature := do
  let signature ← provider.ed25519Sign pair.encoding message
  return ⟨signature⟩

/-- The listing shows the verification key. -/
def listing (pair : Ed25519KeyPair) : String :=
  Text.listing "Ed25519KeyPair" [("public", pair.publicKey.listing)] true

end Ed25519KeyPair

end RatchetMessaging
