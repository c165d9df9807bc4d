import RatchetMessaging.Bytes

/-!
Contract: the universal hash over the field of polynomials modulo
`x^128 + x^127 + x^126 + x^121 + 1`.

Owns: the product of two elements divided by `x^128`, and the hash of a sequence of
blocks under a key.

Does not own: the padding of what is hashed.
-/

namespace RatchetMessaging.Cipher.Polyval

/-- A polynomial of degree below 128; bit `i` of the number is the coefficient of
`x^i`. -/
structure Element where
  (high low : UInt64)

/-- The zero polynomial. -/
def zero : Element := ⟨0, 0⟩

/-- The sum of two polynomials. -/
def add (left right : Element) : Element :=
  ⟨left.high ^^^ right.high, left.low ^^^ right.low⟩

/-- Division by `x`: an odd polynomial first takes the modulus. -/
def halve (value : Element) : Element :=
  let low := (value.low >>> 1) ||| (value.high <<< 63)
  let high := value.high >>> 1
  if value.low &&& 1 = 0 then ⟨high, low⟩ else ⟨high ^^^ 0xe100000000000000, low⟩

/-- Add the multiples of `factor` selected by `count` bits, halving after each bit. -/
def productLoop (factor : Element) : (count : Nat) → (selector : UInt64) → Element → Element
  | 0, _, total => total
  | count + 1, selector, total =>
    let total := if selector &&& 1 = 0 then total else add total factor
    productLoop factor count (selector >>> 1) (halve total)

/-- The product of two elements, divided by `x^128`. -/
def product (left right : Element) : Element :=
  productLoop right 64 left.high (productLoop right 64 left.low zero)

/-- Eight bytes as a word, least significant first. -/
def readWord (bytes : Bytes) : UInt64 :=
  bytes.foldr (fun byte word => (word <<< 8) ||| byte.toUInt64) 0

/-- Sixteen bytes as an element, least significant first. -/
def ofBytes (bytes : Bytes) : Element :=
  ⟨readWord ((bytes.drop 8).take 8), readWord (bytes.take 8)⟩

/-- Sixteen bytes, least significant first. -/
def toBytes (value : Element) : Bytes :=
  Bytes.ofNatLE 8 value.low.toNat ++ Bytes.ofNatLE 8 value.high.toNat

/-- Hash the first `count` blocks of a byte string onto `total`. -/
def hashBlocks (key : Element) : (count : Nat) → Bytes → Element → Element
  | 0, _, total => total
  | count + 1, bytes, total =>
    hashBlocks key count (bytes.drop 16) (product (add total (ofBytes (bytes.take 16))) key)

/-- The hash of whole blocks under a key. -/
def hash (key blocks : Bytes) : Bytes :=
  toBytes (hashBlocks (ofBytes key) (blocks.length / 16) blocks zero)

end RatchetMessaging.Cipher.Polyval
