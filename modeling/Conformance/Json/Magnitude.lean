import Conformance.Json.Value

/-!
# The range of numbers

A number is worth the product of its leading digits, as many as fit in 64 bits, and a
power of ten, both rounded to the 53 significant bits of a double. It is out of range
when the product rounds beyond the greatest double.
-/

namespace Conformance.Json

/-- Rounds to 53 significant bits, a tie to the even neighbour. -/
def roundSignificant (n : Nat) : Nat :=
  if n < Nat.pow 2 53 then n
  else
    let unit := Nat.pow 2 (n.log2 - 52)
    let quotient := n / unit
    let remainder := n % unit
    if unit < 2 * remainder || (unit = 2 * remainder && quotient % 2 = 1) then (quotient + 1) * unit
    else quotient * unit

/-- The least number that no double is nearest to. -/
def beyondDoubles : Nat := Nat.pow 2 1024 - Nat.pow 2 970

/-- Whether a significand scaled by a power of ten is out of range. -/
def scalesBeyond (significand : Nat) (exponent : Int) : Bool :=
  if significand = 0 ∨ exponent < 0 then false
  else if 308 < exponent then true
  else
    let scale := roundSignificant (Nat.pow 10 exponent.toNat)
    decide (beyondDoubles ≤ roundSignificant significand * scale)

/-- Takes in digits as long as the significand fits in 64 bits: the significand, and how many digits
it took in. -/
def takeDigits (significand taken : Nat) : List Nat → Nat × Nat
  | [] => (significand, taken)
  | digit :: rest =>
    let next := significand * 10 + digit
    if next < Nat.pow 2 64 then takeDigits next (taken + 1) rest else (significand, taken)

/-- Whether a number is out of range. -/
def Number.isOutOfRange (number : Number) : Bool :=
  let digits := (Nat.toDigits 10 number.whole).map fun digit => digit.toNat - '0'.toNat
  let (front, taken) := takeDigits 0 0 digits
  let (significand, places) := takeDigits front 0 (number.fraction.map Fin.val)
  scalesBeyond significand (number.exponent.getD 0 + (digits.length - taken : Nat) - places)

end Conformance.Json
