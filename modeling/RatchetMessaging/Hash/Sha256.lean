import RatchetMessaging.Bytes

/-!
Contract: the SHA-256 digest of a byte string.

Owns: padding, the message schedule, the compression rounds, and the chaining of
blocks.

Does not own: the keyed constructions over the digest.
-/

namespace RatchetMessaging.Hash.Sha256

/-- The eight chaining words. -/
structure State where
  (a b c d e f g h : UInt32)

/-- The fractional parts of the square roots of the first eight primes. -/
def initial : State where
  a := 0x6a09e667
  b := 0xbb67ae85
  c := 0x3c6ef372
  d := 0xa54ff53a
  e := 0x510e527f
  f := 0x9b05688c
  g := 0x1f83d9ab
  h := 0x5be0cd19

/-- The fractional parts of the cube roots of the first sixty-four primes. -/
def roundConstants : Array UInt32 :=
  #[
    0x428a2f98, 0x71374491, 0xb5c0fbcf, 0xe9b5dba5, 0x3956c25b, 0x59f111f1,
    0x923f82a4, 0xab1c5ed5, 0xd807aa98, 0x12835b01, 0x243185be, 0x550c7dc3,
    0x72be5d74, 0x80deb1fe, 0x9bdc06a7, 0xc19bf174, 0xe49b69c1, 0xefbe4786,
    0x0fc19dc6, 0x240ca1cc, 0x2de92c6f, 0x4a7484aa, 0x5cb0a9dc, 0x76f988da,
    0x983e5152, 0xa831c66d, 0xb00327c8, 0xbf597fc7, 0xc6e00bf3, 0xd5a79147,
    0x06ca6351, 0x14292967, 0x27b70a85, 0x2e1b2138, 0x4d2c6dfc, 0x53380d13,
    0x650a7354, 0x766a0abb, 0x81c2c92e, 0x92722c85, 0xa2bfe8a1, 0xa81a664b,
    0xc24b8b70, 0xc76c51a3, 0xd192e819, 0xd6990624, 0xf40e3585, 0x106aa070,
    0x19a4c116, 0x1e376c08, 0x2748774c, 0x34b0bcb5, 0x391c0cb3, 0x4ed8aa4a,
    0x5b9cca4f, 0x682e6ff3, 0x748f82ee, 0x78a5636f, 0x84c87814, 0x8cc70208,
    0x90befffa, 0xa4506ceb, 0xbef9a3f7, 0xc67178f2]

/-- Rotation to the right. -/
def rotate (word amount : UInt32) : UInt32 :=
  (word >>> amount) ||| (word <<< (32 - amount))

/-- Append `count` words to the message schedule. -/
def expand : (count : Nat) → Array UInt32 → Array UInt32
  | 0, schedule => schedule
  | count + 1, schedule =>
    let size := schedule.size
    let early := schedule.getD (size - 15) 0
    let late := schedule.getD (size - 2) 0
    let first := rotate early 7 ^^^ rotate early 18 ^^^ (early >>> 3)
    let second := rotate late 17 ^^^ rotate late 19 ^^^ (late >>> 10)
    expand count (schedule.push
      (schedule.getD (size - 16) 0 + first + schedule.getD (size - 7) 0 + second))

/-- The compression rounds from round `round` on. -/
def rounds (schedule : Array UInt32) : (count : Nat) → (round : Nat) → State → State
  | 0, _, state => state
  | count + 1, round, state =>
    let choice := (state.e &&& state.f) ^^^ (~~~state.e &&& state.g)
    let majority := (state.a &&& state.b) ^^^ (state.a &&& state.c) ^^^ (state.b &&& state.c)
    let upper := rotate state.e 6 ^^^ rotate state.e 11 ^^^ rotate state.e 25
    let lower := rotate state.a 2 ^^^ rotate state.a 13 ^^^ rotate state.a 22
    let mixed :=
      state.h + upper + choice + roundConstants.getD round 0 + schedule.getD round 0
    rounds schedule count (round + 1)
      { a := mixed + lower + majority, b := state.a, c := state.b, d := state.c,
        e := state.d + mixed, f := state.e, g := state.f, h := state.g }

/-- The words of one block, four bytes each. -/
def blockWords : Bytes → Array UInt32 → Array UInt32
  | first :: second :: third :: fourth :: rest, words =>
    blockWords rest (words.push (wordOfBytes first second third fourth))
  | _, words => words

/-- Chain one block of sixty-four bytes. -/
def compress (state : State) (block : Bytes) : State :=
  let mixed := rounds (expand 48 (blockWords block #[])) 64 0 state
  { a := state.a + mixed.a, b := state.b + mixed.b, c := state.c + mixed.c,
    d := state.d + mixed.d, e := state.e + mixed.e, f := state.f + mixed.f,
    g := state.g + mixed.g, h := state.h + mixed.h }

/-- Chain the first `count` blocks of a byte string. -/
def absorb : (count : Nat) → Bytes → State → State
  | 0, _, state => state
  | count + 1, bytes, state => absorb count (bytes.drop 64) (compress state (bytes.take 64))

/-- A one bit, zeros up to eight bytes before the end of a block, and the length in
bits. -/
def pad (message : Bytes) : Bytes :=
  message ++ (0x80 ::
    (List.replicate ((119 - message.length % 64) % 64) 0 ++
      Bytes.ofNatBE 8 (8 * message.length)))

/-- The digest of a byte string. -/
def digest (message : Bytes) : FixedBytes 32 :=
  let padded := pad message
  let state := absorb (padded.length / 64) padded initial
  { toBytes :=
      wordToBytes state.a ++ wordToBytes state.b ++ wordToBytes state.c ++
        wordToBytes state.d ++ wordToBytes state.e ++ wordToBytes state.f ++
        wordToBytes state.g ++ wordToBytes state.h
    length_eq := by simp }

end RatchetMessaging.Hash.Sha256

namespace RatchetMessaging.Hash

/-- The SHA-256 digest of a byte string. -/
def sha256 (message : Bytes) : FixedBytes 32 := Sha256.digest message

end RatchetMessaging.Hash
