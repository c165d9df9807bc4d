import RatchetMessaging.Config.Settings
import RatchetMessaging.Deployment

/-!
Contract: what an observer is shown.

Owns: the trees of errors, keys, messages, identities, connections, parties and volumes, and of
the answers that the parts of the ratchet give.

Does not own: how a tree is written down.
-/

namespace RatchetMessaging

open Wire

namespace X25519PublicKey

/-- The bytes of a key. -/
def view (key : X25519PublicKey) : Tree := .bytes key.toBytes

end X25519PublicKey

namespace Error

/-- The sentence, the class and the listing of a failure. -/
def view (failure : Error) : Tree :=
  .record [("display", .text failure.message), ("retryable", .truth failure.isRetryable),
    ("signal", .text failure.channelSignal.name), ("debug", .text failure.listing)]

end Error

namespace SecretBuffer

/-- Everything but the content. -/
def view (buffer : SecretBuffer) : Tree :=
  .record [("len", .count buffer.length), ("empty", .truth (buffer.length == 0)),
    ("disposed", .truth buffer.disposed), ("debug", .text buffer.listing)]

end SecretBuffer

namespace Disposable

/-- The public half of a pair, and whether the pair was given up. -/
def viewAgreement (pair : Disposable X25519KeyPair) : Tree :=
  .record [("public", pair.value.publicKey.view), ("disposed", .truth pair.disposed),
    ("debug", .text pair.value.listing)]

end Disposable

namespace Ed25519KeyPair

/-- The public half. -/
def view (pair : Ed25519KeyPair) : Tree :=
  .record [("public", .bytes pair.publicKey.toBytes), ("debug", .text pair.listing)]

end Ed25519KeyPair

namespace SignedPreKey

/-- Number, public half and signature. -/
def view (preKey : SignedPreKey) : Tree :=
  .record [("id", .word preKey.id), ("public", preKey.publicKey.view),
    ("signature", .bytes preKey.signature.toBytes), ("debug", .text preKey.listing)]

end SignedPreKey

namespace OneTimePreKeys

/-- What can be asked of a collection about one number. -/
def viewAbout (preKeys : OneTimePreKeys) (id : UInt32) : Tree :=
  .ofList Tree.truth [preKeys.size == 0, preKeys.entries.isEmpty, preKeys.contains id,
    (preKeys.find? id).isSome, preKeys.publicKeys.isEmpty, !preKeys.values.isEmpty]

/-- One key, and what can be asked about it of a collection without keys. -/
def viewKey (id : UInt32) (keyPair : X25519KeyPair) : Tree :=
  .record [("id", .word id), ("public", keyPair.publicKey.view),
    ("debug", .text (oneTimePreKeyListing id keyPair)), ("empty_store", viewAbout .empty id)]

end OneTimePreKeys

namespace Chain

/-- Direction and position. -/
def view (chain : Chain) : Tree :=
  .record [("kind", .text chain.kind.name), ("index", .word chain.index)]

/-- Direction and position, and at which thresholds a new chain is due. -/
def viewAgainst (thresholds : List UInt32) (chain : Chain) : Tree :=
  .record [("kind", .text chain.kind.name), ("index", .word chain.index),
    ("due", .ofList (fun threshold => .truth (chain.needsRatchet threshold)) thresholds),
    ("debug", .text chain.listing)]

end Chain

namespace MessageKey

/-- Position and key. -/
def view (messageKey : MessageKey) : Tree :=
  .list [.word messageKey.index, .bytes messageKey.key.toBytes]

end MessageKey

namespace ReplayWindow

/-- The memory, with the answers it gave. -/
def view (results : List Bool) (replay : ReplayWindow) : Tree :=
  .record [("results", .ofList Tree.truth results),
    ("tracked", .count replay.trackedGenerations), ("debug", .text replay.listing)]

end ReplayWindow

namespace RatchetMessage

/-- The header's fields and the ciphertext. -/
def view (message : RatchetMessage) : Tree :=
  .record [("dh_public", message.header.ratchetKey.view),
    ("previous_chain_length", .word message.header.previousChainLength),
    ("chain_index", .word message.header.chainIndex), ("ciphertext", .bytes message.ciphertext)]

/-- The message with its bytes and those of its header. -/
def viewFramed (message : RatchetMessage) : Tree :=
  .record [("message", message.view), ("header", .bytes message.header.toBytes.toBytes),
    ("bytes", .bytes message.toBytes)]

end RatchetMessage

namespace Record.SessionRecord

/-- The bytes of a record, and which parts it has. -/
def view (record : SessionRecord) : Tree :=
  .record [("canonical", .bytes record.encode), ("identity", .truth record.identityKeys.isSome),
    ("ratchet", .truth record.ratchetState.isSome)]

end Record.SessionRecord

namespace Bundle

/-- The bundle, and whether its signature was found valid. -/
def view (verified : Bool) (bundle : Bundle) : Tree :=
  .record [("canonical", .bytes bundle.toBytes), ("verified", .truth verified),
    ("first", .ofOption (fun preKey => .list [.word preKey.id, preKey.publicKey.view])
      bundle.firstOneTimePreKey),
    ("debug", .text bundle.listing),
    ("ephemeral", .ofOption X25519PublicKey.view bundle.ephemeralKey)]

end Bundle

namespace Hello

/-- The hello and its optional parts. -/
def view (hello : Hello) : Tree :=
  .record [("canonical", .bytes hello.toBytes), ("debug", .text hello.listing),
    ("opk", .ofOption Tree.word hello.oneTimePreKeyId),
    ("ratchet", .ofOption X25519PublicKey.view hello.ratchetKey)]

end Hello

namespace Initiation

/-- What the initiator has agreed on. -/
def view (initiation : Initiation) : Tree :=
  .record [("secret", .bytes initiation.sharedSecret.toBytes),
    ("ephemeral", initiation.ephemeralKey.view), ("spk", .word initiation.signedPreKeyId),
    ("opk", .ofOption Tree.word initiation.oneTimePreKeyId)]

end Initiation

namespace Identity

/-- The public halves of the long-term keys. -/
def viewKeys (identity : Identity) : Tree :=
  .record [("ed25519", .bytes identity.signing.publicKey.toBytes),
    ("x25519", identity.agreement.publicKey.view)]

/-- The public halves of the long-term keys, and the listing. -/
def view (identity : Identity) : Tree :=
  .record [("ed25519", .bytes identity.signing.publicKey.toBytes),
    ("x25519", identity.agreement.publicKey.view), ("debug", .text identity.listing)]

/-- The state of the pre-keys. -/
def summary (identity : Identity) : Tree :=
  .record [("spk", .word identity.signedPreKey.id),
    ("opks", .count identity.oneTimePreKeyCount), ("disposed", .truth identity.disposed)]

end Identity

namespace RatchetState

/-- Positions and public keys, and the first bytes of a digest of the whole state. -/
def summary (connectionId : UInt32) (state : RatchetState) : Tree :=
  let encoded := Record.ConnectionRecord.codec.write (state.toRecord connectionId)
  .record [("generation", .word state.receivingGeneration),
    ("send", .ofOption (fun chain => .word chain.index) state.sendingChain),
    ("recv", .ofOption (fun chain => .word chain.index) state.receivingChain),
    ("skipped", .count state.skipped.size), ("steps", .longWord state.ratchetSteps),
    ("local", state.keyPair.publicKey.view),
    ("remote", .ofOption X25519PublicKey.view state.remoteKey),
    ("fingerprint", .text state.fingerprint),
    ("state", .bytes ((Hash.sha256 encoded).toBytes.take 8))]

end RatchetState

namespace Connection

/-- The state of an established connection, or why there is none. -/
def summary (connection : Connection) : Tree :=
  match connection.state with
  | .ok state => state.summary connection.connectionId
  | .error failure =>
    .record [("established", .truth connection.isEstablished),
      ("closed", .truth connection.isClosed), ("why", .text failure.message)]

/-- The kind of a failure, if a question fails. -/
def failureOf {α : Type} : Except Error α → Tree
  | .ok _ => .absent
  | .error failure => .text failure.kind

/-- Number and phase, and which questions fail. -/
def view (connection : Connection) : Tree :=
  .record [("connection_id", .word connection.connectionId),
    ("debug", .text connection.listing), ("established", .truth connection.isEstablished),
    ("closed", .truth connection.isClosed),
    ("errors", .list
      [failureOf connection.localRatchetKey, failureOf connection.remoteRatchetKey,
        failureOf connection.receivingGeneration, failureOf connection.sendingIndex,
        failureOf connection.receivingIndex, failureOf connection.skippedKeyCount,
        failureOf connection.ratchetSteps, failureOf connection.fingerprint])]

end Connection

namespace Party

/-- The published pre-keys and the unfinished saves, or why nothing is published. -/
def summary (party : Party) : Tree :=
  let identity := party.process.messenger.identity
  match identity.bundle with
  | .error failure => .text failure.message
  | .ok bundle =>
    .record [("spk", .word bundle.signedPreKeyId),
      ("opks", .ofList (fun preKey => .word preKey.id) bundle.oneTimePreKeys),
      ("count", .count identity.oneTimePreKeyCount),
      ("pending", .count party.process.pendingSaves)]

end Party

namespace Messenger

/-- A live connection, or why there is none. -/
def sessionSummary (messenger : Messenger) (connectionId : UInt32) : Tree :=
  match messenger.session connectionId with
  | .ok live => live.connection.summary
  | .error failure => .text failure.message

end Messenger

namespace Volume

/-- The writes tried, and what is stored. -/
def summary (volume : Volume) : Tree :=
  .record [("writes", .count volume.writes.total), ("len", .count volume.connections.size),
    ("identity", .truth volume.identity.isSome)]

end Volume

/-- The sizes and numbers that the protocol fixes, and the standard limits. -/
def protocolConstants : Tree :=
  .record [("limits", .record (Config.viewOf {} RatchetLimits.settings)),
    ("x25519_key_len", .count 32), ("ed25519_public_len", .count 32),
    ("ed25519_keypair_len", .count 64), ("ed25519_signature_len", .count 64),
    ("aead_key_len", .count 32), ("aead_nonce_len", .count 12),
    ("max_secure_buffer_len", .count SecretBuffer.maxLength),
    ("first_one_time_pre_key_id", .word firstOneTimePreKeyId),
    ("initial_signed_pre_key_id", .word Identity.firstSignedPreKeyId),
    ("state_version", .word Record.SessionRecord.currentVersion),
    ("header_len", .count MessageHeader.size)]

end RatchetMessaging
