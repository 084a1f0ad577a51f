import Mathlib.Data.Int.Log
import Mathlib.Data.Rat.Floor
import Mathlib.Tactic.Linarith
import Mathlib.Tactic.Positivity

/-!
# Doubles, and what they print as

A positive number within the range of the doubles is handed over as the double nearest to it:
a multiple of the last of its fifty-three binary places, and of two the even one. Printing to a
number of decimal places is then exact on the double.
-/

namespace Numeric

variable {x y : ℚ}

/-- The nearest integer, and of two the even one. -/
def roundHalfEven (x : ℚ) : Int :=
  let below := ⌊x⌋
  if x - below < 1 / 2 then below
  else if 1 / 2 < x - below then below + 1
  else if below % 2 = 0 then below
  else below + 1

theorem abs_roundHalfEven_sub_le (x : ℚ) : |(roundHalfEven x : ℚ) - x| ≤ 1 / 2 := by
  have hle : (⌊x⌋ : ℚ) ≤ x := Int.floor_le x
  have hlt : x < (⌊x⌋ : ℚ) + 1 := Int.lt_floor_add_one x
  rw [abs_le]
  unfold roundHalfEven
  dsimp only
  split_ifs <;> push_cast <;> constructor <;> linarith

theorem roundHalfEven_intCast (n : Int) : roundHalfEven n = n := by
  simp [roundHalfEven]

/-- What the last binary place of the double nearest to a positive number counts. -/
def lastPlace (x : ℚ) : ℚ := 2 ^ (Int.log 2 x - 52)

theorem lastPlace_pos (x : ℚ) : 0 < lastPlace x := zpow_pos (by norm_num) _

/-- The double nearest to a positive number. -/
def nearestDouble (x : ℚ) : ℚ := roundHalfEven (x / lastPlace x) * lastPlace x

theorem abs_nearestDouble_sub_le (x : ℚ) : |nearestDouble x - x| ≤ lastPlace x / 2 := by
  have hpos := lastPlace_pos x
  have hx : nearestDouble x - x =
      ((roundHalfEven (x / lastPlace x) : ℚ) - x / lastPlace x) * lastPlace x := by
    rw [nearestDouble, sub_mul, div_mul_cancel₀ _ hpos.ne']
  calc |nearestDouble x - x|
      = |(roundHalfEven (x / lastPlace x) : ℚ) - x / lastPlace x| * lastPlace x := by
        rw [hx, abs_mul, abs_of_pos hpos]
    _ ≤ 1 / 2 * lastPlace x :=
        mul_le_mul_of_nonneg_right (abs_roundHalfEven_sub_le _) hpos.le
    _ = lastPlace x / 2 := by ring

/-- A number with no place below the last one is a double. -/
theorem nearestDouble_eq_self {n : Int} (h : x = n * lastPlace x) : nearestDouble x = x := by
  have hdiv : x / lastPlace x = n := by
    rw [div_eq_iff (lastPlace_pos x).ne']
    exact h
  rw [nearestDouble, hdiv, roundHalfEven_intCast, ← h]

/-- Below a power of two, the last place counts no more than fifty-three places less. -/
theorem lastPlace_le {e : Int} (hx : 0 < x) (hlt : x < 2 ^ (e + 1)) :
    lastPlace x ≤ 2 ^ (e - 52) := by
  have hlog : Int.log 2 x ≤ e := by
    have := (Int.lt_zpow_iff_log_lt (b := 2) (by norm_num) hx).mp (by exact_mod_cast hlt)
    omega
  exact zpow_le_zpow_right₀ (by norm_num) (by omega)

/-! ## Printing -/

/-- The number that is printed with so many places, in units of the last of them: the nearest
one, and of two the larger. -/
def toFixed (places : Nat) (x : ℚ) : Int := ⌊10 ^ places * x + 1 / 2⌋

/-- A number as far from one that is printed with so many places as from the next. -/
def IsTie (places : Nat) (t : ℚ) : Prop := ∃ k : Int, t = (2 * k + 1) / (2 * 10 ^ places)

theorem le_toFixed_iff {places : Nat} {k : Int} :
    k ≤ toFixed places x ↔ (2 * (k - 1 : Int) + 1) / (2 * 10 ^ places) ≤ x := by
  have hpos : (0 : ℚ) < 2 * 10 ^ places := by positivity
  rw [toFixed, Int.le_floor, div_le_iff₀ hpos]
  push_cast
  constructor <;> intro h <;> linarith

/-- Two numbers print the same when no tie is between them. -/
theorem toFixed_eq_iff {places : Nat} :
    toFixed places x = toFixed places y ↔ ∀ t, IsTie places t → (t ≤ x ↔ t ≤ y) := by
  constructor
  · rintro h t ⟨k, rfl⟩
    have hk : (2 * (k : ℚ) + 1) = 2 * ((k + 1 - 1 : Int) : ℚ) + 1 := by push_cast; ring
    rw [hk, ← le_toFixed_iff, ← le_toFixed_iff, h]
  · intro h
    refine eq_of_forall_le_iff fun k => ?_
    rw [le_toFixed_iff, le_toFixed_iff]
    exact h _ ⟨k - 1, rfl⟩

/-- What is printed is nearest to the number, and of two the larger. -/
theorem toFixed_eq_iff_nearest {places : Nat} {n : Int} : toFixed places x = n ↔
    x - 1 / (2 * 10 ^ places) < n / 10 ^ places ∧
      (n : ℚ) / 10 ^ places ≤ x + 1 / (2 * 10 ^ places) := by
  have hpos : (0 : ℚ) < 10 ^ places := by positivity
  have hhalf : (1 : ℚ) / (2 * 10 ^ places) * 10 ^ places = 1 / 2 := by
    field_simp
  rw [toFixed, Int.floor_eq_iff, lt_div_iff₀ hpos, div_le_iff₀ hpos, sub_mul, add_mul, hhalf,
    mul_comm x]
  constructor
  · rintro ⟨hle, hlt⟩
    constructor <;> linarith
  · rintro ⟨hlt, hle⟩
    constructor <;> linarith

example : toFixed 2 (nearestDouble (41 / 40)) = 102 ∧ toFixed 2 (nearestDouble (33 / 8)) = 413 := by
  decide +kernel

end Numeric
