import Mathlib.Algebra.Order.Ring.Int
import Mathlib.Tactic.Common

/-!
# Decimal arithmetic with a working precision

A decimal number is an integer coefficient and a power of ten. Sums and products are
exact numbers rounded half up to a working precision of twenty significant digits,
which is how a decimal library with its default settings computes them. Coefficients
of at most twenty digits are never rounded.
-/

namespace Numeric

/-- The integer nearest to `n / d`, a tie going away from zero. -/
def roundHalfUp (n : Int) (d : Nat) : Int := n.sign * ((2 * n.natAbs + d) / (2 * d) : Nat)

theorem roundHalfUp_nonneg {n : Int} (hn : 0 ≤ n) (d : Nat) : 0 ≤ roundHalfUp n d :=
  Int.mul_nonneg (Int.sign_nonneg_iff.mpr hn) (Int.natCast_nonneg _)

theorem roundHalfUp_mul (n : Int) {d : Nat} (hd : 0 < d) : roundHalfUp (n * d) d = n := by
  have hsign : (n * d).sign = n.sign := by
    rw [Int.sign_mul, Int.sign_eq_one_of_pos (Int.natCast_pos.mpr hd), Int.mul_one]
  have hdiv : (2 * (n.natAbs * d) + d) / (2 * d) = n.natAbs := by
    refine Nat.div_eq_of_lt_le ?_ ?_
    · calc n.natAbs * (2 * d) = 2 * (n.natAbs * d) := by rw [Nat.mul_left_comm]
        _ ≤ 2 * (n.natAbs * d) + d := Nat.le_add_right _ _
    · calc 2 * (n.natAbs * d) + d < 2 * (n.natAbs * d) + 2 * d := by omega
        _ = (n.natAbs + 1) * (2 * d) := by rw [Nat.add_mul, Nat.one_mul, Nat.mul_left_comm]
  rw [roundHalfUp, hsign, Int.natAbs_mul, Int.natAbs_natCast, hdiv, Int.sign_mul_natAbs]

@[simp] theorem roundHalfUp_one (n : Int) : roundHalfUp n 1 = n := by
  simpa using roundHalfUp_mul n Nat.one_pos

/-- The number `coeff * 10 ^ exp`. -/
structure Decimal where
  coeff : Int
  exp : Int
deriving DecidableEq, Repr

namespace Decimal

/-- The significant digits that are kept. -/
def precision : Nat := 20

/-- The number of decimal digits of a coefficient. -/
def digits (n : Int) : Nat := (Nat.toDigits 10 n.natAbs).length

def ofInt (n : Int) : Decimal := ⟨n, 0⟩

/-- Round to the working precision. -/
def roundSig (x : Decimal) : Decimal :=
  let excess := digits x.coeff - precision
  if excess = 0 then x else ⟨roundHalfUp x.coeff (10 ^ excess), x.exp + excess⟩

def times (x y : Decimal) : Decimal := roundSig ⟨x.coeff * y.coeff, x.exp + y.exp⟩

def plus (x y : Decimal) : Decimal :=
  let exp := min x.exp y.exp
  roundSig ⟨x.coeff * 10 ^ (x.exp - exp).toNat + y.coeff * 10 ^ (y.exp - exp).toNat, exp⟩

/-- The quotient with as many digits as are kept. -/
def div (x y : Decimal) : Decimal :=
  let shift : Int := precision + digits y.coeff - digits x.coeff
  let quotient (shift : Int) : Int × Nat :=
    (x.coeff * y.coeff.sign * 10 ^ shift.toNat, y.coeff.natAbs * 10 ^ (-shift).toNat)
  let long := precision < digits ((quotient shift).1 / (quotient shift).2)
  let shift := if long then shift - 1 else shift
  ⟨roundHalfUp (quotient shift).1 (quotient shift).2, x.exp - y.exp - shift⟩

/-- The nearest integer, a tie going away from zero. -/
def toDecimalPlacesZero (x : Decimal) : Int :=
  if 0 ≤ x.exp then x.coeff * 10 ^ x.exp.toNat else roundHalfUp x.coeff (10 ^ (-x.exp).toNat)

/-- The nearest number with so many places, in units of the last of them. -/
def toDecimalPlaces (places : Nat) (x : Decimal) : Int :=
  toDecimalPlacesZero ⟨x.coeff, x.exp + places⟩

def isZero (x : Decimal) : Bool := x.coeff = 0

def isNegative (x : Decimal) : Bool := x.coeff < 0

/-- Whether the number is greater than an integer. -/
def greaterThan (x : Decimal) (n : Int) : Bool :=
  n * 10 ^ (-x.exp).toNat < x.coeff * 10 ^ x.exp.toNat

theorem roundSig_of_digits_le {x : Decimal} (h : digits x.coeff ≤ precision) :
    roundSig x = x := by
  simp only [roundSig]
  rw [if_pos (by omega)]

example : ((ofInt 10000).div (ofInt 118)).toDecimalPlaces 4 = 847458 := by decide +kernel

end Decimal

/-- What a text denotes for the constructor of a decimal number. -/
inductive DecimalText where
  | invalid
  | notFinite
  | finite (value : Decimal)
deriving DecidableEq, Repr

end Numeric
