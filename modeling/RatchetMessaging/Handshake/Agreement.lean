import RatchetMessaging.Handshake.Hello
import RatchetMessaging.Hash.Sha256
import RatchetMessaging.SecretBuffer
import RatchetMessaging.Text.Base64

/-!
Contract: extended triple Diffie-Hellman.

Owns: both roles of the agreement on a secret, and the fingerprint of a session, which both
sides compute alike.

Does not own: what the secret is used for.
-/

namespace RatchetMessaging

variable {σ : Type}

/-- What the initiator has after the agreement. -/
structure Initiation where
  sharedSecret : FixedBytes 32
  ephemeralKey : X25519PublicKey
  signedPreKeyId : UInt32
  oneTimePreKeyId : Option UInt32
deriving DecidableEq

namespace Handshake

/-- What stands ahead of the shared values, so that the material is no other protocol's. -/
def materialHeader : Bytes := List.replicate 32 0xFF

/-- The secret of the shared values, in order. -/
def deriveSecret (provider : Provider σ) (shared : List (FixedBytes 32)) (info : Bytes) :
    Crypto σ (FixedBytes 32) :=
  provider.hkdf none (materialHeader ++ shared.flatMap FixedBytes.toBytes) info 32

/-- The value shared through a one-time pre-key, if there is one. -/
def sharedIfPresent (provider : Provider σ) :
    Option (X25519KeyPair × X25519PublicKey) → Crypto σ (List (FixedBytes 32))
  | none => pure []
  | some (keyPair, peer) => do return [← keyPair.shared provider peer]

/-- Refuse an empty context. -/
def checkInfo (info : Bytes) : Except Error Unit :=
  if info.isEmpty then .error (.invalidInput "X3DH info must not be empty") else .ok ()

/-- The fingerprint of a session: a digest of the initiator's and the responder's agreement
keys and of the ephemeral key. -/
def fingerprint (initiator responder ephemeral : X25519PublicKey) : String :=
  Text.base64
    (Hash.sha256 (initiator.toBytes ++ responder.toBytes ++ ephemeral.toBytes)).toBytes

/-- What every message of a session is bound to: the agreement keys of both sides. -/
def associatedData (initiator responder : X25519PublicKey) : Bytes :=
  initiator.toBytes ++ responder.toBytes

end Handshake

namespace Identity

/-- The initiator's side against a bundle. The ephemeral key is wiped once the secret has
been derived. -/
def initiate (provider : Provider σ) (remote : Bundle) (info : Bytes) (identity : Identity) :
    Crypto σ (Initiation × Identity) := do
  Crypto.ofExcept identity.ensureLive
  Crypto.ofExcept (Handshake.checkInfo info)
  let verified ← remote.verify provider
  if !verified then
    throw (.peerPublicKey "signed pre-key signature does not verify")
  match identity.ephemeral with
  | none => throw (.prepareLocal "no ephemeral key prepared")
  | some ephemeral =>
    let oneTime := remote.firstOneTimePreKey
    let first ← identity.agreement.shared provider remote.signedPreKey
    let second ← ephemeral.shared provider remote.agreementKey
    let third ← ephemeral.shared provider remote.signedPreKey
    let fourth ← Handshake.sharedIfPresent provider
      (oneTime.map (fun preKey => (ephemeral, preKey.publicKey)))
    let secret ← Handshake.deriveSecret provider ([first, second, third] ++ fourth) info
    return (⟨secret, ephemeral.publicKey, remote.signedPreKeyId,
        oneTime.map OneTimePreKeyPublic.id⟩,
      { identity with ephemeral := none })

/-- The one-time pre-key pair that a hello names, if it names one. -/
def namedOneTimePreKey (identity : Identity) (hello : Hello) :
    Except Error (Option X25519KeyPair) :=
  match hello.oneTimePreKeyId with
  | none => .ok none
  | some id =>
    match identity.oneTimePreKeys.find? id with
    | some keyPair => .ok (some keyPair)
    | none => .error (.handshake s!"unknown one-time pre-key {id}")

/-- The responder's secret. The one-time pre-key stays. -/
def respondSecret (provider : Provider σ) (hello : Hello) (info : Bytes) (identity : Identity) :
    Crypto σ (FixedBytes 32) := do
  Crypto.ofExcept identity.ensureLive
  Crypto.ofExcept (Handshake.checkInfo info)
  if hello.signedPreKeyId ≠ identity.signedPreKey.id then
    throw (.handshake s!"unknown signed pre-key {hello.signedPreKeyId}")
  let oneTime ← Crypto.ofExcept (identity.namedOneTimePreKey hello)
  let signedPreKey := identity.signedPreKey.keyPair
  let first ← signedPreKey.shared provider hello.agreementKey
  let second ← identity.agreement.shared provider hello.ephemeralKey
  let third ← signedPreKey.shared provider hello.ephemeralKey
  let fourth ← Handshake.sharedIfPresent provider
    (oneTime.map (fun keyPair => (keyPair, hello.ephemeralKey)))
  Handshake.deriveSecret provider ([first, second, third] ++ fourth) info

/-- Remove the one-time pre-key that a hello names. -/
def consumeNamed (identity : Identity) (hello : Hello) : Identity :=
  match hello.oneTimePreKeyId with
  | some id => identity.consumeOneTimePreKey id
  | none => identity

/-- The responder's side. The one-time pre-key is removed once the secret has been
derived. -/
def respond (provider : Provider σ) (hello : Hello) (info : Bytes) (identity : Identity) :
    Crypto σ (FixedBytes 32 × Identity) := do
  let secret ← identity.respondSecret provider hello info
  return (secret, identity.consumeNamed hello)

end Identity

end RatchetMessaging
