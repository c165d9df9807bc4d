import RatchetMessaging.Identity.Basic
import RatchetMessaging.Record.Identity

/-!
Contract: an identity as a record.

Owns: the record of an identity, and the identity of a record, whose public halves are
computed again and whose signature is verified again. The pending ephemeral key is not
recorded.

Does not own: the bytes of a record.
-/

namespace RatchetMessaging.Identity

variable {σ : Type}

/-- The record of an identity. -/
def toRecord (identity : Identity) : Record.IdentityRecord where
  ed25519Public := identity.signing.publicKey.toBytes
  ed25519Secret := identity.signing.encoding.toBytes
  identityX25519Public := identity.agreement.publicKey.toBytes
  identityX25519Secret := identity.agreement.secret.toBytes
  signedPreKeyId := identity.signedPreKey.id
  signedPreKeyPublic := identity.signedPreKey.publicKey.toBytes
  signedPreKeySecret := identity.signedPreKey.keyPair.secret.toBytes
  signedPreKeySignature := identity.signedPreKey.signature.toBytes
  oneTimePreKeys := identity.oneTimePreKeys.entries.map (fun entry =>
    { id := entry.1
      publicKey := entry.2.publicKey.toBytes
      secretKey := entry.2.secret.toBytes })

/-- The record of a live identity. -/
def exportRecord (identity : Identity) : Except Error Record.IdentityRecord := do
  identity.ensureLive
  return identity.toRecord

/-- Read the one-time pre-keys of their records. -/
def readOneTimePreKeys (provider : Provider σ) :
    List Record.OneTimePreKeyRecord → OneTimePreKeys → Crypto σ OneTimePreKeys
  | [], preKeys => pure preKeys
  | record :: rest, preKeys =>
    if preKeys.contains record.id then
      throw (.decode s!"duplicate one-time pre-key id {record.id}")
    else do
      let keyPair ← X25519KeyPair.ofStored provider record.secretKey record.publicKey
      readOneTimePreKeys provider rest (preKeys.insert record.id keyPair)

/-- The identity of a record. -/
def ofRecord (provider : Provider σ) (record : Record.IdentityRecord) : Crypto σ Identity := do
  let signing ← Ed25519KeyPair.ofStored provider record.ed25519Secret record.ed25519Public
  let agreement ←
    X25519KeyPair.ofStored provider record.identityX25519Secret record.identityX25519Public
  let signature ← Crypto.ofExcept
    (Ed25519Signature.ofField "signed pre-key signature" record.signedPreKeySignature)
  let preKeyPair ←
    X25519KeyPair.ofStored provider record.signedPreKeySecret record.signedPreKeyPublic
  let signedPreKey ← SignedPreKey.ofStored provider record.signedPreKeyId preKeyPair signature
    signing.publicKey
  let oneTimePreKeys ← readOneTimePreKeys provider record.oneTimePreKeys .empty
  return {
    signing := signing
    agreement := agreement
    signedPreKey := signedPreKey
    oneTimePreKeys := oneTimePreKeys }

/-- An independent copy, made through the record. -/
def clone (provider : Provider σ) (identity : Identity) : Crypto σ Identity := do
  ofRecord provider (← Crypto.ofExcept identity.exportRecord)

end RatchetMessaging.Identity
