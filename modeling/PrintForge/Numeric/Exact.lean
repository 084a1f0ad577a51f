import PrintForge.Numeric.Decimal
import Mathlib.Algebra.Order.Round
import Mathlib.Data.Int.ConditionallyCompleteOrder
import Mathlib.Data.Rat.Floor
import Mathlib.Tactic.FieldSimp
import Mathlib.Tactic.Linarith
import Mathlib.Tactic.Positivity
import Mathlib.Tactic.Ring

/-!
# Exact arithmetic and the working precision

A calculation on decimal numbers is written over the operations it uses, and run either on
rational numbers or on decimal numbers with the working precision. A quotient that is rounded to
the working precision first and to its places afterwards may differ from the quotient rounded
once. It does not where the numerator of the quotient, in lowest or in any other terms, has fewer
digits than are kept: then the first rounding cannot reach a tie it was not at.
-/

namespace Numeric

/-! ## Rounding -/

theorem roundHalfUp_eq_round {n : Int} (hn : 0 ≤ n) {d : Nat} (hd : 0 < d) :
    roundHalfUp n d = round ((n : ℚ) / d) := by
  obtain ⟨n, rfl⟩ := Int.eq_ofNat_of_zero_le hn
  have hfloor : round (((n : Int) : ℚ) / d) = ((2 * n + d) / (2 * d) : Nat) := by
    have hd' : (d : ℚ) ≠ 0 := by positivity
    have hsum : ((n : Int) : ℚ) / d + 1 / 2 = ((2 * n + d : Nat) : ℚ) / (2 * d : Nat) := by
      push_cast
      field_simp
    rw [round_eq, hsum, Rat.floor_natCast_div_natCast]
    rfl
  rw [hfloor, roundHalfUp, Int.natAbs_natCast]
  rcases Nat.eq_zero_or_pos n with rfl | hpos
  · rw [Nat.mul_zero, Nat.zero_add, Nat.div_eq_of_lt (by omega)]
    rfl
  · rw [Int.sign_eq_one_of_pos (Int.natCast_pos.mpr hpos), Int.one_mul]

theorem round_mono : Monotone (round : ℚ → Int) := by
  intro x y h
  rw [round_eq, round_eq]
  exact Int.floor_le_floor (by linarith)

theorem round_nonneg {x : ℚ} (h : 0 ≤ x) : 0 ≤ round x := by
  simpa using round_mono h

/-- Rounding to a finer grid first does no harm to a fraction whose denominator is smaller than
the grid is fine. -/
theorem round_round {n : Int} {d u : Nat} (hd : 0 < d) (hu : 0 < u) (hfine : d < 10 ^ u) :
    round ((round ((n : ℚ) / d * 10 ^ u) : ℚ) / 10 ^ u) = round ((n : ℚ) / d) := by
  have hd' : (0 : ℚ) < d := by exact_mod_cast hd
  have hgrid : (0 : ℚ) < 10 ^ u := by positivity
  generalize hr : round ((n : ℚ) / d) = r
  obtain ⟨hlow, hhigh⟩ := round_eq_iff.mp hr
  rw [round_eq_iff]
  constructor
  · -- the tie below is on the grid
    obtain ⟨m, hm⟩ : ∃ m : Int, ((r : ℚ) - 1 / 2) * 10 ^ u = m := by
      obtain ⟨v, rfl⟩ := Nat.exists_eq_add_one.mpr hu
      exact ⟨(2 * r - 1) * 5 * 10 ^ v, by push_cast; ring⟩
    have hle : m ≤ round ((n : ℚ) / d * 10 ^ u) := by
      have : (m : ℚ) ≤ (n : ℚ) / d * 10 ^ u := hm ▸ mul_le_mul_of_nonneg_right hlow hgrid.le
      simpa using round_mono this
    rw [le_div_iff₀ hgrid, hm]
    exact_mod_cast hle
  · -- the fraction is at least half a part of its denominator below the tie above
    have hless : 2 * n < (2 * r + 1) * d := by
      have : (n : ℚ) < (r + 1 / 2) * d := (div_lt_iff₀ hd').mp hhigh
      have : (2 * n : ℚ) < (2 * r + 1) * d := by linarith
      exact_mod_cast this
    have hpart : (2 * n : ℚ) + 1 ≤ (2 * r + 1) * d := by exact_mod_cast hless
    have hnear : (round ((n : ℚ) / d * 10 ^ u) : ℚ) ≤ (n : ℚ) / d * 10 ^ u + 1 / 2 :=
      round_le_add_half _
    have hfine' : (d : ℚ) < 10 ^ u := by exact_mod_cast hfine
    have hbelow : (n : ℚ) / d + 1 / (2 * d) ≤ r + 1 / 2 := by
      rw [div_add_div _ _ hd'.ne' (by positivity), div_le_iff₀ (by positivity)]
      nlinarith
    have hhalf : (1 : ℚ) / 2 < 1 / (2 * d) * 10 ^ u := by
      rw [div_mul_eq_mul_div, div_lt_div_iff₀ (by norm_num) (by positivity)]
      linarith
    rw [div_lt_iff₀ hgrid]
    calc (round ((n : ℚ) / d * 10 ^ u) : ℚ) ≤ (n : ℚ) / d * 10 ^ u + 1 / 2 := hnear
      _ < (n : ℚ) / d * 10 ^ u + 1 / (2 * d) * 10 ^ u := by linarith
      _ = ((n : ℚ) / d + 1 / (2 * d)) * 10 ^ u := by ring
      _ ≤ (r + 1 / 2) * 10 ^ u := mul_le_mul_of_nonneg_right hbelow hgrid.le

/-! ## Values -/

namespace Decimal

variable {x y : Decimal}

def value (x : Decimal) : ℚ := x.coeff * 10 ^ x.exp

theorem value_ofInt (n : Int) : (ofInt n).value = n := by simp [value, ofInt]

theorem ten_zpow_pos (n : Int) : (0 : ℚ) < 10 ^ n := zpow_pos (by norm_num) n

theorem ten_zpow_toNat {n : Int} (h : 0 ≤ n) : (10 : ℚ) ^ n.toNat = 10 ^ n := by
  rw [← zpow_natCast, Int.toNat_of_nonneg h]

theorem value_pos : 0 < x.value ↔ 0 < x.coeff := by
  rw [value, mul_pos_iff_of_pos_right (ten_zpow_pos _), Int.cast_pos]

theorem value_nonneg : 0 ≤ x.value ↔ 0 ≤ x.coeff := by
  rw [value, mul_nonneg_iff_of_pos_right (ten_zpow_pos _), Int.cast_nonneg_iff]

theorem isNegative_eq_false : x.isNegative = false ↔ 0 ≤ x.value := by
  simp [isNegative, value_nonneg]

theorem isZero_eq_true : x.isZero = true ↔ x.value = 0 := by
  rw [isZero, decide_eq_true_iff, value, mul_eq_zero, or_iff_left (ten_zpow_pos _).ne',
    Int.cast_eq_zero]

theorem greaterThan_eq_false {n : Int} : x.greaterThan n = false ↔ x.value ≤ n := by
  have hscale : x.value * 10 ^ (-x.exp).toNat = x.coeff * 10 ^ x.exp.toNat := by
    rw [value]
    rcases le_total 0 x.exp with h | h
    · rw [Int.toNat_of_nonpos (by omega), pow_zero, mul_one, ten_zpow_toNat h]
    · rw [ten_zpow_toNat (by omega), mul_assoc, ← zpow_add₀ (by norm_num), add_neg_cancel,
        Int.toNat_of_nonpos h]
      simp
  have hpos : (0 : ℚ) < 10 ^ (-x.exp).toNat := by positivity
  rw [greaterThan, decide_eq_false_iff_not, not_lt, ← mul_le_mul_iff_left₀ hpos, hscale]
  exact_mod_cast Iff.rfl

theorem toDecimalPlacesZero_eq_round (h : 0 ≤ x.coeff) :
    x.toDecimalPlacesZero = round x.value := by
  rw [toDecimalPlacesZero, value]
  split
  · next hexp =>
    have : (x.coeff : ℚ) * 10 ^ x.exp = (x.coeff * 10 ^ x.exp.toNat : Int) := by
      push_cast
      rw [ten_zpow_toNat hexp]
    rw [this, round_intCast]
  · next hexp =>
    rw [roundHalfUp_eq_round h (by positivity)]
    push_cast
    rw [ten_zpow_toNat (by omega), zpow_neg, div_inv_eq_mul]

theorem toDecimalPlaces_eq_round (h : 0 ≤ x.coeff) (places : Nat) :
    x.toDecimalPlaces places = round (x.value * 10 ^ places) := by
  rw [toDecimalPlaces, toDecimalPlacesZero_eq_round (x := ⟨x.coeff, x.exp + places⟩) h, value,
    value, zpow_add₀ (by norm_num), mul_assoc, zpow_natCast]

/-! ## The working precision -/

theorem digits_le_iff {n : Int} {k : Nat} (hk : 0 < k) : digits n ≤ k ↔ n.natAbs < 10 ^ k :=
  Nat.length_toDigits_le_iff (by decide) hk

theorem digits_pos (n : Int) : 0 < digits n := Nat.length_toDigits_pos

theorem lt_pow_digits (n : Int) : n.natAbs < 10 ^ digits n :=
  (digits_le_iff (digits_pos n)).mp (Nat.le_refl _)

theorem pow_digits_le {n : Int} (hn : n ≠ 0) : 10 ^ (digits n - 1) ≤ n.natAbs := by
  by_contra hlt
  rcases Nat.eq_zero_or_pos (digits n - 1) with hone | hmore
  · rw [hone, pow_zero] at hlt
    omega
  · have := (digits_le_iff hmore).mpr (not_le.mp hlt)
    omega

/-- A number with few enough significant digits is kept, with however many zeros behind them it is
given. -/
theorem value_roundSig (m places : Nat) (h : x.value * 10 ^ places = m) (hm : m < 10 ^ precision) :
    (roundSig x).value = x.value := by
  simp only [roundSig]
  split
  · rfl
  · next hexcess =>
    generalize hexcess' : digits x.coeff - precision = excess at hexcess
    have hcoeff : 0 ≤ x.coeff := by
      have : 0 ≤ x.value * 10 ^ places := h ▸ Nat.cast_nonneg m
      exact value_nonneg.mp (nonneg_of_mul_nonneg_left this (by positivity))
    have hlong : 10 ^ (precision + excess - 1) ≤ x.coeff.natAbs := by
      have hne : x.coeff ≠ 0 := by
        rintro h0
        rw [h0] at hexcess'
        exact hexcess (hexcess'.symm.trans (by decide))
      have := pow_digits_le hne
      rwa [show digits x.coeff - 1 = precision + excess - 1 by omega] at this
    have hnat : (x.coeff.natAbs : ℚ) = x.coeff := by
      rw [← Int.cast_natCast, Int.natAbs_of_nonneg hcoeff]
    -- the digits beyond the precision are zeros
    obtain ⟨zeros, hzeros⟩ : ∃ zeros : Nat, -x.exp - places = zeros := by
      refine Int.eq_ofNat_of_zero_le (by_contra fun hneg => ?_)
      have hbig : (x.coeff.natAbs : ℚ) ≤ m := by
        rw [← h, value, hnat, mul_assoc, ← zpow_natCast, ← zpow_add₀ (by norm_num)]
        refine le_mul_of_one_le_right (by exact_mod_cast hcoeff)
          (one_le_zpow₀ (by norm_num) (by omega))
      have : 10 ^ precision ≤ 10 ^ (precision + excess - 1) :=
        Nat.pow_le_pow_right (by decide) (by omega)
      have : x.coeff.natAbs ≤ m := by exact_mod_cast hbig
      omega
    have hcoeff' : x.coeff = m * 10 ^ zeros := by
      have : (x.coeff : ℚ) = m * 10 ^ zeros := by
        rw [← h, value, mul_assoc, mul_assoc, ← zpow_natCast, ← zpow_natCast,
          ← zpow_add₀ (by norm_num), ← zpow_add₀ (by norm_num),
          show x.exp + (places + (zeros : Int)) = 0 by omega, zpow_zero, mul_one]
      exact_mod_cast this
    have hle : excess ≤ zeros := by
      have hlt : 10 ^ (precision + excess - 1) < 10 ^ (precision + zeros) := by
        calc 10 ^ (precision + excess - 1) ≤ x.coeff.natAbs := hlong
          _ = m * 10 ^ zeros := by rw [hcoeff', Int.natAbs_mul]; simp [Int.natAbs_pow]
          _ < 10 ^ precision * 10 ^ zeros :=
              Nat.mul_lt_mul_of_pos_right hm (Nat.pow_pos (by decide))
          _ = 10 ^ (precision + zeros) := (Nat.pow_add ..).symm
      have := (Nat.pow_lt_pow_iff_right (by decide)).mp hlt
      omega
    obtain ⟨rest, rfl⟩ := Nat.exists_eq_add_of_le hle
    have hsplit : x.coeff = m * 10 ^ rest * (10 ^ excess : Nat) := by
      rw [hcoeff', pow_add]
      push_cast
      ring
    rw [value, value, hsplit, roundHalfUp_mul _ (by positivity), zpow_add₀ (by norm_num)]
    push_cast
    rw [zpow_natCast]
    ring

theorem value_times (m places : Nat) (h : x.value * y.value * 10 ^ places = m)
    (hm : m < 10 ^ precision) : (x.times y).value = x.value * y.value := by
  have hexact : value ⟨x.coeff * y.coeff, x.exp + y.exp⟩ = x.value * y.value := by
    rw [value, value, value, zpow_add₀ (by norm_num)]
    push_cast
    ring
  rw [times, value_roundSig m places (by rw [hexact]; exact h) hm, hexact]

theorem value_plus (m places : Nat) (h : (x.value + y.value) * 10 ^ places = m)
    (hm : m < 10 ^ precision) : (x.plus y).value = x.value + y.value := by
  have hshift : ∀ z : Decimal, min x.exp y.exp ≤ z.exp →
      (z.coeff : ℚ) * 10 ^ (z.exp - min x.exp y.exp).toNat * 10 ^ min x.exp y.exp = z.value := by
    intro z hz
    rw [ten_zpow_toNat (by omega), mul_assoc, ← zpow_add₀ (by norm_num), sub_add_cancel, value]
  have hexact : value ⟨x.coeff * 10 ^ (x.exp - min x.exp y.exp).toNat +
      y.coeff * 10 ^ (y.exp - min x.exp y.exp).toNat, min x.exp y.exp⟩ = x.value + y.value := by
    rw [← hshift x (min_le_left ..), ← hshift y (min_le_right ..), value]
    push_cast
    ring
  rw [plus, value_roundSig m places (by rw [hexact]; exact h) hm, hexact]

/-- The numerator and the denominator of a division, with `shift` more places asked for. -/
theorem quotient_eq (hy : 0 < y.coeff) (shift : Int) :
    ((x.coeff * y.coeff.sign * 10 ^ shift.toNat : Int) : ℚ) /
      (y.coeff.natAbs * 10 ^ (-shift).toNat : Nat) = x.coeff / y.coeff * 10 ^ shift := by
  have hnat : (y.coeff.natAbs : ℚ) = y.coeff := by
    rw [← Int.cast_natCast, Int.natAbs_of_nonneg hy.le]
  rw [Int.sign_eq_one_of_pos hy]
  push_cast
  rw [hnat, mul_one]
  rcases le_total 0 shift with h | h
  · have hback : (-shift).toNat = 0 := by omega
    rw [ten_zpow_toNat h, hback, pow_zero, mul_one, div_mul_eq_mul_div]
  · have hback : shift.toNat = 0 := by omega
    rw [hback, ten_zpow_toNat (by omega), pow_zero, mul_one, zpow_neg, div_mul_eq_div_div,
      div_inv_eq_mul]

theorem value_div_value (shift : Int) :
    x.value / y.value * 10 ^ (shift - x.exp + y.exp) = x.coeff / y.coeff * 10 ^ shift := by
  have hx := (ten_zpow_pos x.exp).ne'
  have hy := (ten_zpow_pos y.exp).ne'
  rw [value, value, zpow_add₀ (by norm_num), zpow_sub₀ (by norm_num)]
  field_simp

/-- The places that are asked for first are enough for all digits that are kept. -/
theorem pow_precision_le (hx : 0 < x.coeff) (hy : 0 < y.coeff) :
    (10 : ℚ) ^ (precision - 1) ≤
      x.coeff / y.coeff * 10 ^ ((precision + digits y.coeff - digits x.coeff : Int)) := by
  have hlow : (10 : ℚ) ^ (digits x.coeff - 1) ≤ x.coeff := by
    have := pow_digits_le hx.ne'
    have : (10 : Int) ^ (digits x.coeff - 1) ≤ x.coeff := by
      zify at this
      rwa [abs_of_pos hx] at this
    exact_mod_cast this
  have hhigh : (y.coeff : ℚ) ≤ 10 ^ digits y.coeff := by
    have := (lt_pow_digits y.coeff).le
    have : y.coeff ≤ (10 : Int) ^ digits y.coeff := by
      zify at this
      rwa [abs_of_pos hy] at this
    exact_mod_cast this
  have hy' : (0 : ℚ) < y.coeff := by exact_mod_cast hy
  have hpos := digits_pos x.coeff
  rw [div_mul_eq_mul_div, le_div_iff₀ hy']
  calc (10 : ℚ) ^ (precision - 1) * y.coeff
      ≤ 10 ^ (precision - 1) * 10 ^ digits y.coeff := by gcongr
    _ = 10 ^ (digits x.coeff - 1) * 10 ^ ((precision + digits y.coeff - digits x.coeff : Int)) := by
        rw [← zpow_natCast, ← zpow_natCast, ← zpow_natCast, ← zpow_add₀ (by norm_num),
          ← zpow_add₀ (by norm_num)]
        congr 1
        simp only [precision]
        omega
    _ ≤ x.coeff * 10 ^ ((precision + digits y.coeff - digits x.coeff : Int)) :=
        mul_le_mul_of_nonneg_right hlow (ten_zpow_pos _).le

/-- A quotient, to the digits that are kept: the coefficient has all of them. -/
theorem div_eq_round (hx : 0 < x.coeff) (hy : 0 < y.coeff) :
    ∃ places : Int, (x.div y).exp = -places ∧
      (x.div y).coeff = round (x.value / y.value * 10 ^ places) ∧
      (10 : ℚ) ^ (precision - 1) ≤ x.value / y.value * 10 ^ places := by
  let first : Int := precision + digits y.coeff - digits x.coeff
  let numerator (shift : Int) : Int := x.coeff * y.coeff.sign * 10 ^ shift.toNat
  let denominator (shift : Int) : Nat := y.coeff.natAbs * 10 ^ (-shift).toNat
  have hdenominator : ∀ shift, 0 < denominator shift := fun shift =>
    Nat.mul_pos (Int.natAbs_pos.mpr hy.ne') (Nat.pow_pos (by decide))
  have hnumerator : ∀ shift, 0 ≤ numerator shift := fun shift => by
    have : 0 ≤ x.coeff * 1 * 10 ^ shift.toNat := by positivity
    rwa [← Int.sign_eq_one_of_pos hy] at this
  have hdiv : ∃ shift, x.div y = ⟨roundHalfUp (numerator shift) (denominator shift),
      x.exp - y.exp - shift⟩ ∧
      (10 : ℚ) ^ (precision - 1) ≤ x.coeff / y.coeff * 10 ^ shift := by
    by_cases hlong : precision < digits (numerator first / denominator first)
    · refine ⟨first - 1, by simp only [div]; exact if_pos hlong ▸ rfl, ?_⟩
      have hdigits := hlong
      rw [← not_le, digits_le_iff (by decide), not_lt] at hdigits
      have hfloor : (10 : Int) ^ precision ≤ numerator first / denominator first := by
        have hnonneg := Int.ediv_nonneg (hnumerator first) (Int.natCast_nonneg (denominator first))
        rw [← Int.natAbs_of_nonneg hnonneg]
        exact_mod_cast hdigits
      have hmul := (Int.mul_le_mul_of_nonneg_right hfloor
        (Int.natCast_nonneg (denominator first))).trans
        (Int.ediv_mul_le _ (Int.natCast_pos.mpr (hdenominator first)).ne')
      have hmul' : (10 : ℚ) ^ precision * denominator first ≤ numerator first := by
        exact_mod_cast hmul
      rw [← le_div_iff₀ (by exact_mod_cast hdenominator first), quotient_eq hy] at hmul'
      rw [zpow_sub_one₀ (by norm_num)]
      have : (10 : ℚ) ^ precision = 10 ^ (precision - 1) * 10 := by
        rw [← pow_succ]
        rfl
      linarith
    · refine ⟨first, by simp only [div]; exact if_neg hlong ▸ rfl, ?_⟩
      exact pow_precision_le hx hy
  obtain ⟨shift, hdiv, hdigits⟩ := hdiv
  refine ⟨shift - x.exp + y.exp, ?_, ?_, ?_⟩
  · rw [hdiv]
    ring
  · rw [hdiv, value_div_value, ← quotient_eq hy]
    exact roundHalfUp_eq_round (hnumerator shift) (hdenominator shift)
  · rwa [value_div_value]

/-- A quotient whose numerator has fewer digits than are kept is rounded to its places as if it
had been exact. -/
theorem toDecimalPlaces_div (places n d : Nat) (hx : 0 ≤ x.value) (hy : 0 < y.value)
    (hd : 0 < d) (hq : x.value / y.value * 10 ^ places = n / d) (hn : n < 10 ^ (precision - 1)) :
    (x.div y).toDecimalPlaces places = round ((n : ℚ) / d) := by
  have hd' : (0 : ℚ) < d := by exact_mod_cast hd
  rcases hx.eq_or_lt with hzero | hpos
  · have hcoeff : x.coeff = 0 := by
      simpa [isZero] using isZero_eq_true.mpr hzero.symm
    have hn0 : (n : ℚ) / d = 0 := by rw [← hq, ← hzero, zero_div, zero_mul]
    have hquotient : (x.div y).coeff = 0 := by simp [div, hcoeff, roundHalfUp]
    rw [toDecimalPlaces_eq_round hquotient.ge, hn0, value, hquotient]
    simp
  · obtain ⟨kept, hexp, hcoeff, hdigits⟩ := div_eq_round (value_pos.mp hpos) (value_pos.mp hy)
    have hscale : x.value / y.value * 10 ^ kept = n / d * 10 ^ (kept - places) := by
      rw [← hq, mul_assoc, ← zpow_natCast, ← zpow_add₀ (by norm_num)]
      congr 2
      omega
    rw [hscale] at hdigits hcoeff
    have hfine : (d : ℚ) < 10 ^ (kept - places) := by
      have hn' : (n : ℚ) < 10 ^ (precision - 1) := by exact_mod_cast hn
      have hlt := hn'.trans_le hdigits
      rw [div_mul_eq_mul_div, lt_div_iff₀ hd'] at hlt
      exact lt_of_mul_lt_mul_left hlt (Nat.cast_nonneg n)
    obtain ⟨spare, hspare⟩ : ∃ spare : Nat, kept - places = spare := by
      refine Int.eq_ofNat_of_zero_le (by_contra fun hneg => ?_)
      have hsmall : (10 : ℚ) ^ (kept - places) ≤ 1 :=
        zpow_le_one_of_nonpos₀ (by norm_num) (by omega)
      have hone : (1 : ℚ) ≤ d := by exact_mod_cast hd
      linarith
    rw [hspare, zpow_natCast] at hfine hcoeff
    have hfine' : d < 10 ^ spare := by exact_mod_cast hfine
    have hspare' : 0 < spare := by
      rcases Nat.eq_zero_or_pos spare with rfl | h
      · omega
      · exact h
    have hnonneg : 0 ≤ (x.div y).coeff := by
      rw [hcoeff]
      exact round_nonneg (by positivity)
    have hvalue : (x.div y).value * 10 ^ places = (x.div y).coeff / 10 ^ spare := by
      rw [value, hexp, mul_assoc, ← zpow_natCast, ← zpow_add₀ (by norm_num),
        show -kept + (places : Int) = -spare by omega, zpow_neg, zpow_natCast, div_eq_mul_inv]
    rw [toDecimalPlaces_eq_round hnonneg, hvalue, hcoeff]
    exact round_round hd hspare' hfine'

end Decimal

/-! ## Calculations -/

/-- What a calculation does with its numbers. Places are cut off half up, and counted in units of
the last of them. -/
structure Arithmetic (D : Type) where
  ofDecimal : Decimal → D
  plus : D → D → D
  times : D → D → D
  div : D → D → D
  toDecimalPlaces : Nat → D → Int

namespace Arithmetic

def working : Arithmetic Decimal where
  ofDecimal := id
  plus := Decimal.plus
  times := Decimal.times
  div := Decimal.div
  toDecimalPlaces := Decimal.toDecimalPlaces

def exact : Arithmetic ℚ where
  ofDecimal := Decimal.value
  plus := (· + ·)
  times := (· * ·)
  div := (· / ·)
  toDecimalPlaces := fun places x => roundHalfUp (x * 10 ^ places).num (x * 10 ^ places).den

theorem exact_toDecimalPlaces {x : ℚ} (h : 0 ≤ x) (places : Nat) :
    exact.toDecimalPlaces places x = round (x * 10 ^ places) := by
  have hnum : 0 ≤ (x * 10 ^ places).num := Rat.num_nonneg.mpr (by positivity)
  simp only [exact]
  rw [roundHalfUp_eq_round hnum (Rat.den_pos _), Rat.num_div_den]

end Arithmetic

end Numeric
