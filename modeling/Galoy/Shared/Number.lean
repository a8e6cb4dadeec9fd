import Mathlib.Data.Nat.Log
import Mathlib.Data.Rat.Cast.Order
import Mathlib.Tactic.Linarith

set_option autoImplicit false

namespace Galoy

-- Round to a multiple of the unit, a tie to the even quotient.
def roundHalfEven (n unit : Nat) : Nat :=
  if unit < 2 * (n % unit) ∨ unit = 2 * (n % unit) ∧ n / unit % 2 = 1 then (n / unit + 1) * unit
  else n / unit * unit

def roundToDouble (n : Nat) : Nat :=
  if n < 2 ^ 53 then n else roundHalfEven n (2 ^ (n.log2 - 52))

/-- `Number(n)`. -/
def toNumber (n : Int) : ℚ := (n.sign * (roundToDouble n.natAbs : Int) : Int)

-- The number nearest to a rational. The digits that the quotient leaves out count as one more bit,
-- which decides no tie.
def nearestNumber (q : ℚ) : ℚ :=
  let scaled := q.num.natAbs * 2 ^ (q.den.log2 + 54)
  let digits := 2 * (scaled / q.den) + if scaled % q.den = 0 then 0 else 1
  (q.num.sign * (roundToDouble digits : Int) : Int) / 2 ^ (q.den.log2 + 55)

@[simp] theorem nearestNumber_zero : nearestNumber 0 = 0 := by
  simp [nearestNumber]

theorem roundToDouble_pos {n : Nat} (positive : 0 < n) : 0 < roundToDouble n := by
  unfold roundToDouble
  split_ifs with small
  · exact positive
  · -- The unit is not above the leading bit, so that the quotient is not zero.
    have unit : 2 ^ (n.log2 - 52) ≤ n :=
      (Nat.pow_le_pow_right (by decide) (Nat.sub_le ..)).trans (Nat.log2_self_le positive.ne')
    have quotient : 0 < n / 2 ^ (n.log2 - 52) := Nat.div_pos unit (Nat.two_pow_pos _)
    unfold roundHalfEven
    split_ifs
    · exact Nat.mul_pos (Nat.succ_pos _) (Nat.two_pow_pos _)
    · exact Nat.mul_pos quotient (Nat.two_pow_pos _)

@[simp] theorem toNumber_zero : toNumber 0 = 0 := rfl

theorem toNumber_exact {n : Int} (small : n.natAbs < 2 ^ 53) : toNumber n = n := by
  unfold toNumber roundToDouble
  rw [if_pos small, Int.sign_mul_natAbs]

example : toNumber (2 ^ 53 + 1) = 2 ^ 53 ∧ toNumber (2 ^ 53 + 3) = 2 ^ 53 + 4 := by decide +kernel

theorem toNumber_pos {n : Int} (positive : 0 < n) : 0 < toNumber n := by
  have magnitude : 0 < roundToDouble n.natAbs := roundToDouble_pos (Int.natAbs_pos.mpr positive.ne')
  unfold toNumber
  rw [Int.sign_eq_one_of_pos positive, one_mul]
  exact_mod_cast magnitude

theorem toNumber_nonneg {n : Int} (nonneg : 0 ≤ n) : 0 ≤ toNumber n := by
  rcases nonneg.eq_or_lt with rfl | positive
  · exact toNumber_zero.ge
  · exact (toNumber_pos positive).le

@[simp] theorem toNumber_eq_zero {n : Int} : toNumber n = 0 ↔ n = 0 := by
  constructor
  · intro zero
    unfold toNumber at zero
    have factors : n.sign = 0 ∨ (roundToDouble n.natAbs : Int) = 0 := by
      exact mul_eq_zero.mp (by exact_mod_cast zero)
    rcases factors with sign | magnitude
    · exact Int.sign_eq_zero_iff_zero.mp sign
    · by_contra nonzero
      have positive := roundToDouble_pos (Int.natAbs_pos.mpr nonzero)
      omega
  · rintro rfl
    rfl

end Galoy
