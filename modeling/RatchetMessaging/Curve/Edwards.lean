import RatchetMessaging.Curve.Field

/-!
Contract: points of the twisted Edwards curve
`-x^2 + y^2 = 1 + d x^2 y^2` in extended coordinates.

Owns: addition, doubling, scalar multiples, and the encoding of a point in thirty-two
bytes.

Does not own: signatures.
-/

namespace RatchetMessaging.Curve.Edwards

open Curve.Field

/-- A point with `x = X / Z`, `y = Y / Z` and `x y = T / Z`. -/
structure Point where
  (x y z t : Nat)

/-- The coefficient `d`. -/
def coefficient : Nat := mul (neg 121665) (inv 121666)

/-- The neutral point. -/
def identity : Point := ⟨0, 1, 1, 0⟩

/-- The sum of two points. -/
def plus (left right : Point) : Point :=
  let lower := mul (sub left.y left.x) (sub right.y right.x)
  let upper := mul (add left.y left.x) (add right.y right.x)
  let crossed := mul (mul left.t (mul 2 coefficient)) right.t
  let scaled := mul (mul 2 left.z) right.z
  let e := sub upper lower
  let f := sub scaled crossed
  let g := add scaled crossed
  let h := add upper lower
  ⟨mul e f, mul g h, mul f g, mul e h⟩

/-- Twice a point. -/
def twice (point : Point) : Point :=
  let squareX := square point.x
  let squareY := square point.y
  let doubleSquareZ := mul 2 (square point.z)
  let h := add squareX squareY
  let e := sub h (square (add point.x point.y))
  let g := sub squareX squareY
  let f := add doubleSquareZ g
  ⟨mul e f, mul g h, mul f g, mul e h⟩

/-- The inverse of a point. -/
def opposite (point : Point) : Point :=
  { point with x := neg point.x, t := neg point.t }

/-- Add the multiple given by the lowest `count` bits of a scalar, the highest first. -/
def multiplyLoop (point : Point) (scalar : Nat) : (count : Nat) → Point → Point
  | 0, total => total
  | count + 1, total =>
    let doubled := twice total
    multiplyLoop point scalar count
      (if scalar.testBit count then plus doubled point else doubled)

/-- A multiple of a point by a scalar below `2^256`. -/
def multiply (scalar : Nat) (point : Point) : Point :=
  multiplyLoop point scalar 256 identity

/-- Read a point. The bytes hold `y`, which need not be reduced, and the parity of `x`
in the top bit; bytes whose `y` belongs to no point are refused. -/
def decode (bytes : FixedBytes 32) : Option Point :=
  let value := Bytes.toNatLE bytes.toBytes
  let y := value % Nat.pow 2 255 % prime
  let ySquare := square y
  match sqrtRatio (sub ySquare 1) (add (mul coefficient ySquare) 1) with
  | none => none
  | some root =>
    let x := if Nat.pow 2 255 ≤ value then neg root else root
    some ⟨x, y, 1, mul x y⟩

/-- Write a point. -/
def encode (point : Point) : FixedBytes 32 :=
  let inverse := inv point.z
  let x := mul point.x inverse
  let y := mul point.y inverse
  .ofNatLE 32 (y + (if x % 2 = 1 then Nat.pow 2 255 else 0))

/-- Whether eight times the point is neutral. -/
def hasSmallOrder (point : Point) : Bool :=
  let eightfold := twice (twice (twice point))
  eightfold.x == 0 && eightfold.y == eightfold.z

/-- The generator has `y = 4 / 5` and even `x`. -/
def basePoint : Point :=
  (decode (.ofNatLE 32 (mul 4 (inv 5)))).getD identity

/-- The order of the generator. -/
def order : Nat := Nat.pow 2 252 + 27742317777372353535851937790883648493

end RatchetMessaging.Curve.Edwards
