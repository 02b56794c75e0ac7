import Conformance.Json.Magnitude
import Conformance.Proofs.PrintedJson

/-!
# Numbers within range

The significand of a number takes in digits as long as it fits in 64 bits. So it takes in
all digits of a natural number that does, which is then far from the greatest double.
-/

namespace Conformance.Json

/-- A number only grows by the digits that are taken in. -/
theorem le_foldl_digits (digits : List Nat) (significand : Nat) :
    significand ≤ digits.foldl (fun n digit => n * 10 + digit) significand := by
  induction digits generalizing significand with
  | nil => exact Nat.le_refl _
  | cons digit rest inductionHypothesis =>
    have step := inductionHypothesis (significand * 10 + digit)
    rw [List.foldl_cons]
    omega

/-- All digits are taken in of a number that fits in 64 bits. -/
theorem takeDigits_of_fits (digits : List Nat) (significand taken : Nat)
    (fits : digits.foldl (fun n digit => n * 10 + digit) significand < Nat.pow 2 64) :
    takeDigits significand taken digits =
      (digits.foldl (fun n digit => n * 10 + digit) significand, taken + digits.length) := by
  induction digits generalizing significand taken with
  | nil => rfl
  | cons digit rest inductionHypothesis =>
    have step := le_foldl_digits rest (significand * 10 + digit)
    rw [List.foldl_cons] at fits
    rw [takeDigits, if_pos (Nat.lt_of_le_of_lt step fits), inductionHypothesis _ _ fits,
      List.foldl_cons, List.length_cons, Nat.add_assoc, Nat.add_comm 1]

/-- Rounding does not double a number. -/
theorem roundSignificant_le (n : Nat) : roundSignificant n ≤ 2 * n := by
  unfold roundSignificant
  split
  · omega
  · next large =>
    have positive : n ≠ 0 := by
      rintro rfl
      exact large (by decide)
    have smaller : Nat.pow 2 (n.log2 - 52) ≤ n :=
      Nat.le_trans (Nat.pow_le_pow_right (Nat.zero_lt_two) (Nat.sub_le _ _))
        (Nat.log2_self_le positive)
    generalize Nat.pow 2 (n.log2 - 52) = unit at smaller ⊢
    have quotient : n / unit * unit ≤ n := Nat.div_mul_le_self n unit
    simp only
    split
    · rw [Nat.add_mul, Nat.one_mul]
      omega
    · omega

/-- No number that fits in 64 bits is too large for a double. -/
theorem not_scalesBeyond (n : Nat) (fits : n < Nat.pow 2 64) : scalesBeyond n 0 = false := by
  have rounded := roundSignificant_le n
  have far : 2 * Nat.pow 2 64 < beyondDoubles := by decide +kernel
  have scale : roundSignificant 1 = 1 := by decide
  have small : roundSignificant n < beyondDoubles := by omega
  simp [scalesBeyond, scale, small]

/-- No number that fits in 64 bits is out of range. -/
theorem Number.inRange_ofNat (n : Nat) (fits : n < Nat.pow 2 64) :
    (Number.ofNat n).isOutOfRange = false := by
  have digits : ((Nat.toDigits 10 n).map fun digit => digit.toNat - '0'.toNat).foldl
      (fun n digit => n * 10 + digit) 0 = n := by
    rw [List.foldl_map]
    exact naturalOf_decimal n
  have taken := takeDigits_of_fits
    ((Nat.toDigits 10 n).map fun digit => digit.toNat - '0'.toNat) 0 0 (digits.symm ▸ fits)
  have exponent : (none : Option Int).getD 0 + ((0 : Nat) : Int) - ((0 : Nat) : Int) = 0 := rfl
  simp only [isOutOfRange, ofNat, taken, digits, List.map_nil, takeDigits, Nat.zero_add,
    Nat.sub_self, exponent, not_scalesBeyond n fits]

end Conformance.Json
