import RatchetMessaging.Cipher.Aes256
import RatchetMessaging.Cipher.Polyval

/-!
Contract: authenticated encryption with associated data, AES-256-GCM-SIV.

Owns: the two keys made from key and nonce, the tag, which is a function of everything
sealed and doubles as the starting counter, and the refusal of a ciphertext whose tag
does not fit.

Does not own: the choice of nonces.
-/

namespace RatchetMessaging.Cipher.GcmSiv

/-- The bytes of a tag. -/
def tagLength : Nat := 16

/-- The keys for one nonce. -/
structure MessageKeys where
  authentication : Bytes
  encryption : Array UInt32

/-- Half a block of key material for each counter. -/
def keyMaterial (schedule : Array UInt32) (nonce : FixedBytes 12) (counters : List Nat) : Bytes :=
  counters.flatMap (fun counter =>
    (Aes256.encryptBlock schedule (Bytes.ofNatLE 4 counter ++ nonce.toBytes)).toBytes.take 8)

/-- The keys for one nonce, made under the long-term key. -/
def messageKeys (key : FixedBytes 32) (nonce : FixedBytes 12) : MessageKeys :=
  let schedule := Aes256.keySchedule key
  { authentication := keyMaterial schedule nonce [0, 1]
    encryption := Aes256.keySchedule (.fit 32 (keyMaterial schedule nonce [2, 3, 4, 5])) }

/-- Zeros up to the end of a block. -/
def padBlock (bytes : Bytes) : Bytes :=
  bytes ++ List.replicate ((16 - bytes.length % 16) % 16) 0

/-- Apply a function to the last byte. -/
def mapLast (change : UInt8 → UInt8) (bytes : Bytes) : Bytes :=
  bytes.take 15 ++ (bytes.drop 15).map change

/-- The tag of a plaintext with associated data. -/
def tag (keys : MessageKeys) (nonce : FixedBytes 12) (plaintext associatedData : Bytes) :
    FixedBytes 16 :=
  let lengths :=
    Bytes.ofNatLE 8 (8 * associatedData.length) ++ Bytes.ofNatLE 8 (8 * plaintext.length)
  let hashed := Polyval.hash keys.authentication
    (padBlock associatedData ++ padBlock plaintext ++ lengths)
  let masked := Bytes.xor (hashed.take 12) nonce.toBytes ++ hashed.drop 12
  Aes256.encryptBlock keys.encryption (mapLast (fun byte => byte &&& 0x7f) masked)

/-- The key stream of `count` blocks from a counter on; the counter wraps. -/
def keyStream (schedule : Array UInt32) (tail : Bytes) : (count : Nat) → (counter : Nat) → Bytes
  | 0, _ => []
  | count + 1, counter =>
    (Aes256.encryptBlock schedule (Bytes.ofNatLE 4 counter ++ tail)).toBytes ++
      keyStream schedule tail count ((counter + 1) % 4294967296)

/-- Add the key stream that starts at a tag. The same step encrypts and decrypts. -/
def applyKeyStream (keys : MessageKeys) (start : FixedBytes 16) (bytes : Bytes) : Bytes :=
  let counter := mapLast (fun byte => byte ||| 0x80) start.toBytes
  Bytes.xor bytes
    (keyStream keys.encryption (counter.drop 4) ((bytes.length + 15) / 16)
      (Bytes.toNatLE (counter.take 4)))

/-- Encrypt; the tag follows the ciphertext. -/
def encrypt (key : FixedBytes 32) (nonce : FixedBytes 12) (plaintext associatedData : Bytes) :
    Bytes :=
  let keys := messageKeys key nonce
  let start := tag keys nonce plaintext associatedData
  applyKeyStream keys start plaintext ++ start.toBytes

/-- Decrypt and compare tags; a text that is too short or was changed has no
plaintext. -/
def decrypt (key : FixedBytes 32) (nonce : FixedBytes 12) (ciphertext associatedData : Bytes) :
    Option Bytes :=
  if ciphertext.length < tagLength then none
  else
    let body := ciphertext.take (ciphertext.length - tagLength)
    let found := FixedBytes.fit 16 (ciphertext.drop (ciphertext.length - tagLength))
    let keys := messageKeys key nonce
    let plaintext := applyKeyStream keys found body
    if tag keys nonce plaintext associatedData = found then some plaintext else none

end RatchetMessaging.Cipher.GcmSiv
