import RatchetMessaging.Bytes

/-!
Contract: the SHA-512 digest of a byte string.

Owns: padding, the message schedule, the compression rounds, and the chaining of
blocks, all on words of sixty-four bits.

Does not own: the reduction of a digest to a scalar.
-/

namespace RatchetMessaging.Hash.Sha512

/-- The eight chaining words. -/
structure State where
  (a b c d e f g h : UInt64)

/-- The fractional parts of the square roots of the first eight primes. -/
def initial : State where
  a := 0x6a09e667f3bcc908
  b := 0xbb67ae8584caa73b
  c := 0x3c6ef372fe94f82b
  d := 0xa54ff53a5f1d36f1
  e := 0x510e527fade682d1
  f := 0x9b05688c2b3e6c1f
  g := 0x1f83d9abfb41bd6b
  h := 0x5be0cd19137e2179

/-- The fractional parts of the cube roots of the first eighty primes. -/
def roundConstants : Array UInt64 :=
  #[
    0x428a2f98d728ae22, 0x7137449123ef65cd, 0xb5c0fbcfec4d3b2f, 0xe9b5dba58189dbbc,
    0x3956c25bf348b538, 0x59f111f1b605d019, 0x923f82a4af194f9b, 0xab1c5ed5da6d8118,
    0xd807aa98a3030242, 0x12835b0145706fbe, 0x243185be4ee4b28c, 0x550c7dc3d5ffb4e2,
    0x72be5d74f27b896f, 0x80deb1fe3b1696b1, 0x9bdc06a725c71235, 0xc19bf174cf692694,
    0xe49b69c19ef14ad2, 0xefbe4786384f25e3, 0x0fc19dc68b8cd5b5, 0x240ca1cc77ac9c65,
    0x2de92c6f592b0275, 0x4a7484aa6ea6e483, 0x5cb0a9dcbd41fbd4, 0x76f988da831153b5,
    0x983e5152ee66dfab, 0xa831c66d2db43210, 0xb00327c898fb213f, 0xbf597fc7beef0ee4,
    0xc6e00bf33da88fc2, 0xd5a79147930aa725, 0x06ca6351e003826f, 0x142929670a0e6e70,
    0x27b70a8546d22ffc, 0x2e1b21385c26c926, 0x4d2c6dfc5ac42aed, 0x53380d139d95b3df,
    0x650a73548baf63de, 0x766a0abb3c77b2a8, 0x81c2c92e47edaee6, 0x92722c851482353b,
    0xa2bfe8a14cf10364, 0xa81a664bbc423001, 0xc24b8b70d0f89791, 0xc76c51a30654be30,
    0xd192e819d6ef5218, 0xd69906245565a910, 0xf40e35855771202a, 0x106aa07032bbd1b8,
    0x19a4c116b8d2d0c8, 0x1e376c085141ab53, 0x2748774cdf8eeb99, 0x34b0bcb5e19b48a8,
    0x391c0cb3c5c95a63, 0x4ed8aa4ae3418acb, 0x5b9cca4f7763e373, 0x682e6ff3d6b2b8a3,
    0x748f82ee5defb2fc, 0x78a5636f43172f60, 0x84c87814a1f0ab72, 0x8cc702081a6439ec,
    0x90befffa23631e28, 0xa4506cebde82bde9, 0xbef9a3f7b2c67915, 0xc67178f2e372532b,
    0xca273eceea26619c, 0xd186b8c721c0c207, 0xeada7dd6cde0eb1e, 0xf57d4f7fee6ed178,
    0x06f067aa72176fba, 0x0a637dc5a2c898a6, 0x113f9804bef90dae, 0x1b710b35131c471b,
    0x28db77f523047d84, 0x32caab7b40c72493, 0x3c9ebe0a15c9bebc, 0x431d67c49c100d4c,
    0x4cc5d4becb3e42b6, 0x597f299cfc657e2a, 0x5fcb6fab3ad6faec, 0x6c44198c4a475817]

/-- Rotation to the right. -/
def rotate (word amount : UInt64) : UInt64 :=
  (word >>> amount) ||| (word <<< (64 - amount))

/-- Append `count` words to the message schedule. -/
def expand : (count : Nat) → Array UInt64 → Array UInt64
  | 0, schedule => schedule
  | count + 1, schedule =>
    let size := schedule.size
    let early := schedule.getD (size - 15) 0
    let late := schedule.getD (size - 2) 0
    let first := rotate early 1 ^^^ rotate early 8 ^^^ (early >>> 7)
    let second := rotate late 19 ^^^ rotate late 61 ^^^ (late >>> 6)
    expand count (schedule.push
      (schedule.getD (size - 16) 0 + first + schedule.getD (size - 7) 0 + second))

/-- The compression rounds from round `round` on. -/
def rounds (schedule : Array UInt64) : (count : Nat) → (round : Nat) → State → State
  | 0, _, state => state
  | count + 1, round, state =>
    let choice := (state.e &&& state.f) ^^^ (~~~state.e &&& state.g)
    let majority := (state.a &&& state.b) ^^^ (state.a &&& state.c) ^^^ (state.b &&& state.c)
    let upper := rotate state.e 14 ^^^ rotate state.e 18 ^^^ rotate state.e 41
    let lower := rotate state.a 28 ^^^ rotate state.a 34 ^^^ rotate state.a 39
    let mixed :=
      state.h + upper + choice + roundConstants.getD round 0 + schedule.getD round 0
    rounds schedule count (round + 1)
      { a := mixed + lower + majority, b := state.a, c := state.b, d := state.c,
        e := state.d + mixed, f := state.e, g := state.f, h := state.g }

/-- Read a word of eight bytes, most significant first. -/
def readWord (bytes : Bytes) : UInt64 :=
  bytes.foldl (fun word byte => (word <<< 8) ||| byte.toUInt64) 0

/-- Eight bytes, most significant first. -/
def writeWord (word : UInt64) : Bytes :=
  [(word >>> 56).toUInt8, (word >>> 48).toUInt8, (word >>> 40).toUInt8, (word >>> 32).toUInt8,
    (word >>> 24).toUInt8, (word >>> 16).toUInt8, (word >>> 8).toUInt8, word.toUInt8]

@[simp] theorem writeWord_length (word : UInt64) : (writeWord word).length = 8 := rfl

/-- The first `count` words of a block, eight bytes each. -/
def blockWords : (count : Nat) → Bytes → Array UInt64 → Array UInt64
  | 0, _, words => words
  | count + 1, bytes, words =>
    blockWords count (bytes.drop 8) (words.push (readWord (bytes.take 8)))

/-- Chain one block of a hundred and twenty-eight bytes. -/
def compress (state : State) (block : Bytes) : State :=
  let mixed := rounds (expand 64 (blockWords 16 block #[])) 80 0 state
  { a := state.a + mixed.a, b := state.b + mixed.b, c := state.c + mixed.c,
    d := state.d + mixed.d, e := state.e + mixed.e, f := state.f + mixed.f,
    g := state.g + mixed.g, h := state.h + mixed.h }

/-- Chain the first `count` blocks of a byte string. -/
def absorb : (count : Nat) → Bytes → State → State
  | 0, _, state => state
  | count + 1, bytes, state => absorb count (bytes.drop 128) (compress state (bytes.take 128))

/-- A one bit, zeros up to sixteen bytes before the end of a block, and the length in
bits. -/
def pad (message : Bytes) : Bytes :=
  message ++ (0x80 ::
    (List.replicate ((239 - message.length % 128) % 128) 0 ++
      Bytes.ofNatBE 16 (8 * message.length)))

/-- The digest of a byte string. -/
def digest (message : Bytes) : FixedBytes 64 :=
  let padded := pad message
  let state := absorb (padded.length / 128) padded initial
  { toBytes :=
      writeWord state.a ++ writeWord state.b ++ writeWord state.c ++ writeWord state.d ++
        writeWord state.e ++ writeWord state.f ++ writeWord state.g ++ writeWord state.h
    length_eq := by simp }

end RatchetMessaging.Hash.Sha512

namespace RatchetMessaging.Hash

/-- The SHA-512 digest of a byte string. -/
def sha512 (message : Bytes) : FixedBytes 64 := Sha512.digest message

end RatchetMessaging.Hash
