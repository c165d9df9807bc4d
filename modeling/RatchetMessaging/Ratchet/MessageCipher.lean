import RatchetMessaging.Ratchet.Message
import RatchetMessaging.Provider

/-!
Contract: encryption of one message under its single-use key.

Owns: the expansion of a message key into cipher key and nonce, and the associated data,
which binds session, caller's context and header.

Does not own: the choice of the message key.
-/

namespace RatchetMessaging.MessageCipher

variable {σ : Type}

/-- The context of the expansion of a message key. -/
def expansionInfo : Bytes := Bytes.ofText "vigil-message-keys"

/-- Cipher key and nonce of a message key. -/
def material (provider : Provider σ) (messageKey : FixedBytes 32) :
    Crypto σ (FixedBytes 32 × FixedBytes 12) := do
  let derived ← provider.hkdf none messageKey.toBytes expansionInfo (32 + 12)
  return (derived.left, derived.right)

/-- What is authenticated with a message. -/
def associatedData (session caller : Bytes) (header : MessageHeader) : Bytes :=
  session ++ caller ++ header.toBytes.toBytes

/-- Encrypt a message. -/
def encrypt (provider : Provider σ) (messageKey : FixedBytes 32)
    (plaintext authenticated : Bytes) : Crypto σ Bytes := do
  let (key, nonce) ← material provider messageKey
  provider.aeadEncrypt key nonce plaintext authenticated

/-- Decrypt a message. -/
def decrypt (provider : Provider σ) (messageKey : FixedBytes 32)
    (ciphertext authenticated : Bytes) : Crypto σ Bytes := do
  let (key, nonce) ← material provider messageKey
  provider.aeadDecrypt key nonce ciphertext authenticated

end RatchetMessaging.MessageCipher
