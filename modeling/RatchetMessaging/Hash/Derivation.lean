import RatchetMessaging.Hash.Sha256

/-!
Contract: keyed digests and key derivation over SHA-256.

Owns: HMAC, which frames the message by two paddings of the key, and HKDF, which
first extracts a key from input material and then expands it to the wanted length.

Does not own: the context strings of the protocol.
-/

namespace RatchetMessaging.Hash

/-- The key of a keyed digest, brought to one block: a longer key is digested first. -/
def blockKey (key : Bytes) : Bytes :=
  let short := if 64 < key.length then (sha256 key).toBytes else key
  short ++ List.replicate (64 - short.length) 0

/-- The HMAC of a message. -/
def hmac (key message : Bytes) : FixedBytes 32 :=
  let padded := blockKey key
  let inner := sha256 (padded.map (fun byte => byte ^^^ 0x36) ++ message)
  sha256 (padded.map (fun byte => byte ^^^ 0x5c) ++ inner.toBytes)

/-- The output blocks of the expansion, the newest last: each is the HMAC of the block
before it, the context and the block's number. -/
def expandBlocks (key info : Bytes) : (count : Nat) → (number : Nat) → Bytes → List Bytes
  | 0, _, _ => []
  | count + 1, number, previous =>
    let block := (hmac key (previous ++ info ++ [UInt8.ofNat number])).toBytes
    block :: expandBlocks key info count (number + 1) block

/-- The longest output of one expansion. -/
def maxDerivedLength : Nat := 255 * 32

/-- HKDF. An absent salt stands for a block of zeros; an output longer than
`maxDerivedLength` does not exist. -/
def hkdf (salt : Option Bytes) (material info : Bytes) (length : Nat) :
    Option (FixedBytes length) :=
  if maxDerivedLength < length then none
  else
    let key := (hmac (salt.getD (List.replicate 32 0)) material).toBytes
    some (.fit length (expandBlocks key info ((length + 31) / 32) 1 []).flatten)

end RatchetMessaging.Hash
