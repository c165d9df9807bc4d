import RatchetMessaging.Connection.Establish
import RatchetMessaging.Proofs.Provider.Dependable

/-!
Contract: the promises of a dependable provider can be kept together.

Owns:
- `Provider.transparent`, which keeps every promise and no secret: a public key is its secret, a
  ciphertext starts with its key, and the secrets that it draws are counted;
- the seeds of a session that two sides can establish with it.

Does not own: any real primitive.
-/

namespace RatchetMessaging

/-! ### The provider -/

/-- Agreement adds the secrets, derivation lines up its inputs, and authentication adds the length
of the message to the key. -/
def Primitives.transparent : Primitives where
  publicKey secret := secret
  agree own peer := .fit 32 (own.toBytes.zipWith (· + ·) peer.toBytes)
  derive salt material info size := .fit size (material ++ salt.getD [] ++ info)
  mac key message := .fit 32 (key.map (· + UInt8.ofNat message.length))

/-- What a ciphertext starts with. -/
def sealedUnder (key : FixedBytes 32) (nonce : FixedBytes 12) (associatedData : Bytes) : Bytes :=
  key.toBytes ++ nonce.toBytes ++ associatedData

/-- The provider remembers how often it has drawn. -/
def Provider.transparent : Provider Nat where
  randomBytes size := modifyGet (fun drawn => (.replicate size (UInt8.ofNat drawn), drawn + 1))
  x25519Public secret := pure (Primitives.transparent.publicKey secret)
  x25519Shared secret peer := pure (Primitives.transparent.agree secret peer)
  ed25519KeyPair seed := pure (seed.append seed, seed)
  ed25519Sign _ message := pure (.fit 64 message)
  ed25519Verify _ message signature := pure (signature = .fit 64 message)
  hkdf salt material info size := pure (Primitives.transparent.derive salt material info size)
  hmac key message := pure (Primitives.transparent.mac key message)
  aeadEncrypt key nonce plaintext associatedData :=
    pure (sealedUnder key nonce associatedData ++ plaintext)
  aeadDecrypt key nonce ciphertext associatedData :=
    if sealedUnder key nonce associatedData <+: ciphertext then
      pure (ciphertext.drop (sealedUnder key nonce associatedData).length)
    else throw .decrypt

theorem Provider.transparent_dependable :
    Provider.transparent.Dependable .transparent (fun _ => True) where
  drawn _ := trivial
  publicKey _ := Crypto.returns_pure _
  agrees _ _ := Crypto.returns_pure _
  symmetric _ _ := by
    simp only [Primitives.transparent]
    rw [List.zipWith_comm_of_comm UInt8.add_comm]
  derives _ := Crypto.returns_pure _
  macs := Crypto.returns_pure _
  opens encrypted := by
    obtain ⟨rfl, _⟩ := Crypto.pure_eq_ok.1 encrypted
    simp only [Provider.transparent]
    rw [if_pos (List.prefix_append _ _), List.drop_left]
    exact Crypto.returns_pure _

/-! ### A session -/

/-- The secret that both sides share. -/
def SessionSeed.sampleSecret : SecretBuffer := ⟨32, .replicate 32 100, false⟩

/-- The signed pre-key pair of the responder. -/
def X25519KeyPair.sample : X25519KeyPair := ⟨⟨.replicate 32 50⟩, .replicate 32 50⟩

/-- What the initiator establishes its connection with. -/
def SessionSeed.sample : SessionSeed :=
  ⟨sampleSecret, true, some X25519KeyPair.sample.publicKey, none, [], "sample"⟩

/-- What the responder establishes its connection with. -/
def SessionSeed.samplePeer : SessionSeed :=
  ⟨sampleSecret, false, none, some .sample, [], "sample"⟩

/-- Limits with a given threshold for turns. -/
def RatchetLimits.sample (chainRatchetThreshold : UInt32) : RatchetLimits :=
  ⟨8, 8, 8, 4, chainRatchetThreshold⟩

end RatchetMessaging
