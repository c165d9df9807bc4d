import RatchetMessaging.Bytes

/-!
Contract: arithmetic modulo the prime `2^255 - 19`.

Owns: the operations on residues below the prime, and the square root of a quotient.

Does not own: curves.
-/

namespace RatchetMessaging.Curve.Field

/-- The prime. -/
def prime : Nat := Nat.pow 2 255 - 19

/-- The sum of two residues. -/
def add (left right : Nat) : Nat := (left + right) % prime

/-- The difference of two residues. -/
def sub (left right : Nat) : Nat := (left + (prime - right)) % prime

/-- The product of two residues. -/
def mul (left right : Nat) : Nat := left * right % prime

/-- The square of a residue. -/
def square (value : Nat) : Nat := mul value value

/-- The negative of a residue. -/
def neg (value : Nat) : Nat := (prime - value) % prime

/-- Square and multiply over `count` bits of the exponent. -/
def powLoop : (count : Nat) → (base exponent total : Nat) → Nat
  | 0, _, _, total => total
  | count + 1, base, exponent, total =>
    powLoop count (square base) (exponent / 2)
      (if exponent % 2 = 1 then mul total base else total)

/-- A power with an exponent below `2^255`. -/
def pow (base exponent : Nat) : Nat := powLoop 255 base exponent 1

/-- The inverse of a residue; zero has zero. -/
def inv (value : Nat) : Nat := pow value (prime - 2)

/-- A square root of minus one. -/
def sqrtMinusOne : Nat := pow 2 ((prime - 1) / 4)

/-- The even square root of `numerator / denominator`, if there is one. -/
def sqrtRatio (numerator denominator : Nat) : Option Nat :=
  let cube := mul (square denominator) denominator
  let seventh := mul (square cube) denominator
  let candidate := mul (mul numerator cube) (pow (mul numerator seventh) ((prime - 5) / 8))
  let check := mul denominator (square candidate)
  let even (root : Nat) : Nat := if root % 2 = 1 then neg root else root
  if check = numerator then some (even candidate)
  else if check = neg numerator then some (even (mul candidate sqrtMinusOne))
  else none

end RatchetMessaging.Curve.Field
