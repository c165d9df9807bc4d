import RatchetMessaging.Curve.Field

/-!
Contract: scalar multiplication on the Montgomery curve
`y^2 = x^3 + 486662 x^2 + x`, by first coordinates alone (X25519).

Owns: the clamping of scalars, the masking of the top bit of a point, and the ladder.

Does not own: the refusal of shared values that are zero.
-/

namespace RatchetMessaging.Curve.Montgomery

open Curve.Field

/-- Two neighbouring multiples of a point, as fractions. -/
structure Ladder where
  (lowX lowZ highX highZ : Nat)

/-- Add the two multiples and double the lower one. -/
def step (point : Nat) (state : Ladder) : Ladder :=
  let lowSum := add state.lowX state.lowZ
  let lowDifference := sub state.lowX state.lowZ
  let sumSquare := square lowSum
  let differenceSquare := square lowDifference
  let spread := sub sumSquare differenceSquare
  let crossed := mul (sub state.highX state.highZ) lowSum
  let straight := mul (add state.highX state.highZ) lowDifference
  { lowX := mul sumSquare differenceSquare
    lowZ := mul spread (add sumSquare (mul 121665 spread))
    highX := square (add crossed straight)
    highZ := mul point (square (sub crossed straight)) }

/-- Exchange the two multiples. -/
def exchange (state : Ladder) : Ladder :=
  ⟨state.highX, state.highZ, state.lowX, state.lowZ⟩

/-- Climb over the lowest `count` bits of a scalar, the highest first. -/
def climb (point scalar : Nat) : (count : Nat) → Ladder → Ladder
  | 0, state => state
  | count + 1, state =>
    climb point scalar count
      (if scalar.testBit count then exchange (step point (exchange state)) else step point state)

/-- The number a scalar stands for: its lowest three bits are cleared, its highest bit
is cleared, and the bit below that is set. -/
def clamp (scalar : FixedBytes 32) : Nat :=
  let value := Bytes.toNatLE scalar.toBytes % Nat.pow 2 254
  value - value % 8 + Nat.pow 2 254

/-- The first coordinate of the multiple of a point. -/
def multiply (scalar point : FixedBytes 32) : FixedBytes 32 :=
  let start := Bytes.toNatLE point.toBytes % Nat.pow 2 255 % prime
  let final := climb start (clamp scalar) 255 ⟨1, 0, start, 1⟩
  .ofNatLE 32 (mul final.lowX (inv final.lowZ))

/-- The generator has first coordinate nine. -/
def basePoint : FixedBytes 32 := .ofNatLE 32 9

end RatchetMessaging.Curve.Montgomery
