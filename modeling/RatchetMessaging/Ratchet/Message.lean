import RatchetMessaging.Key.Agreement

/-!
Contract: messages on the wire.

Owns: the header, which travels in the clear and is authenticated, and the framing of
header and ciphertext behind the header's length.

Does not own: encryption.
-/

namespace RatchetMessaging

/-- The part of a message that travels in the clear. -/
structure MessageHeader where
  /-- The sender's ratchet key. -/
  ratchetKey : X25519PublicKey
  /-- How many messages the sender's previous chain had. -/
  previousChainLength : UInt32
  /-- The position on the sender's chain. -/
  chainIndex : UInt32
deriving DecidableEq

namespace MessageHeader

/-- The size of a written header. -/
def size : Nat := 40

/-- The bytes of a header. -/
def toBytes (header : MessageHeader) : FixedBytes 40 where
  toBytes :=
    header.ratchetKey.toBytes ++ wordToBytes header.previousChainLength ++
      wordToBytes header.chainIndex
  length_eq := by simp [X25519PublicKey.toBytes]

/-- The word at a place of a byte string. -/
def wordAt (bytes : Bytes) (place : Nat) : UInt32 :=
  wordOfBytes (bytes.getD place 0) (bytes.getD (place + 1) 0) (bytes.getD (place + 2) 0)
    (bytes.getD (place + 3) 0)

/-- The header of forty bytes. -/
def ofBytes (bytes : FixedBytes 40) : MessageHeader where
  ratchetKey := ⟨@FixedBytes.left 32 8 bytes⟩
  previousChainLength := wordAt bytes.toBytes 32
  chainIndex := wordAt bytes.toBytes 36

end MessageHeader

/-- A message: its header, and the ciphertext with its tag. -/
structure RatchetMessage where
  header : MessageHeader
  ciphertext : Bytes
deriving DecidableEq

namespace RatchetMessage

/-- The header's length, the header, and the ciphertext. -/
def toBytes (message : RatchetMessage) : Bytes :=
  wordToBytes (UInt32.ofNat MessageHeader.size) ++ message.header.toBytes.toBytes ++
    message.ciphertext

/-- Read a framed message. -/
def ofBytes : Bytes → Except Error RatchetMessage
  | first :: second :: third :: fourth :: rest =>
    if (wordOfBytes first second third fourth).toNat = MessageHeader.size then
      match FixedBytes.ofBytes? 40 (rest.take MessageHeader.size) with
      | some header => .ok ⟨.ofBytes header, rest.drop MessageHeader.size⟩
      | none => .error (.decode "Invalid message header")
    else .error (.decode "Invalid message header")
  | _ => .error (.decode "Invalid message format")

end RatchetMessage

end RatchetMessaging
