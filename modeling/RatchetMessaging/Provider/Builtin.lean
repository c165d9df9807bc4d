import RatchetMessaging.Provider
import RatchetMessaging.Provider.RandomStream
import RatchetMessaging.Hash.Derivation
import RatchetMessaging.Cipher.GcmSiv
import RatchetMessaging.Curve.Montgomery
import RatchetMessaging.Curve.Signature

/-!
Contract: the provider whose primitives are the algorithms of this library.

Owns: the binding of each primitive to its algorithm, and the failure each one reports.

Does not own: the algorithms, or the source of random bytes, which is a parameter.
-/

namespace RatchetMessaging.Provider

/-- What is wrong with a stored signing key pair. -/
def keyPairDefectText : Curve.Signature.KeyPairDefect → String
  | .noPoint => "Cannot decompress Edwards point"
  | .mismatch => "Mismatched Keypair detected"

/-- The algorithms of this library over a source of random bytes. -/
def builtin {σ : Type} (random : (size : Nat) → Crypto σ (FixedBytes size)) : Provider σ where
  randomBytes := random
  x25519Public secret := pure (Curve.Montgomery.multiply secret Curve.Montgomery.basePoint)
  x25519Shared secret peer := do
    let shared := Curve.Montgomery.multiply secret peer
    if shared.toBytes.isZero then
      throw (.peerPublicKey "non-contributory X25519 public key")
    return shared
  ed25519KeyPair seed := pure (Curve.Signature.keyPair seed, Curve.Signature.publicKey seed)
  ed25519Sign keyPair message :=
    match Curve.Signature.sign keyPair message with
    | .ok signature => pure signature
    | .error defect =>
      throw (.keyGeneration
        ("invalid Ed25519 keypair: signature error: " ++ keyPairDefectText defect))
  ed25519Verify key message signature := pure (Curve.Signature.verify key message signature)
  hkdf salt material info size :=
    match Hash.hkdf salt material info size with
    | some derived => pure derived
    | none => throw (.deriveKey "HKDF expansion failed")
  hmac key message := pure (Hash.hmac key message)
  aeadEncrypt key nonce plaintext associatedData :=
    pure (Cipher.GcmSiv.encrypt key nonce plaintext associatedData)
  aeadDecrypt key nonce ciphertext associatedData :=
    match Cipher.GcmSiv.decrypt key nonce ciphertext associatedData with
    | some plaintext => pure plaintext
    | none => throw .decrypt

/-- Random bytes from a reproducible stream. -/
def drawFromStream (size : Nat) : Crypto RandomStream (FixedBytes size) :=
  modifyGet (fun stream => stream.take size)

end RatchetMessaging.Provider
