import PrintForge.Numeric.Exact
import PrintForge.Checkout.Pricing
import PrintForge.Text.Strings

/-!
# Splitting tax exactly

A rate that the admin setting accepts is a whole number of hundredths of a percent, so the rate
as a fraction has four decimals and the snapshot on the order is that fraction and not a rounding
of it. The split is computed over any arithmetic. In exact arithmetic it is the half-up rounding
of the quotient that it writes down, and computing it again from the order gives the same parts.
With the working precision it is the same split as long as the base has at most fifteen digits,
which the columns of an order stay far below.
-/

namespace PrintForge.Checkout

open Numeric

/-! ## The rate setting -/

/-- `^\d+(\.\d{1,2})?$`: the digits in front of the point, and those behind it. -/
def percentPattern (text : List Char) : Option (List Char × List Char) :=
  let whole := text.takeWhile Char.isDigit
  if whole = [] then none
  else
    match text.dropWhile Char.isDigit with
    | [] => some (whole, [])
    | '.' :: fraction =>
        if fraction.all Char.isDigit && (fraction.length = 1 || fraction.length = 2) then
          some (whole, fraction)
        else none
    | _ => none

/-- The number with these digits in front of the point and behind it. -/
def plainValue (whole fraction : List Char) : ℚ :=
  Nat.ofDigitChars 10 (whole ++ fraction) 0 / 10 ^ fraction.length

section Setting

variable (decimalOf : String → DecimalText)

def normalizePercent (raw : String) : Except HttpError String :=
  let trimmed := JavaScript.trim raw
  if (percentPattern trimmed.toList).isNone then
    throw (.badRequest "Rate must be a number between 0 and 100 with at most 2 decimals")
  else
    match decimalOf trimmed with
    | .invalid => throw (.other s!"[DecimalError] Invalid argument: {trimmed}")
    | .notFinite => throw (.badRequest "Rate must be between 0 and 100")
    | .finite decimal =>
        if decimal.isNegative || decimal.greaterThan 100 then
          throw (.badRequest "Rate must be between 0 and 100")
        else
          return paiseToDecimalString (decimal.toDecimalPlaces 2)

/-- A plain numeral denotes its number. -/
def ReadsNumerals : Prop :=
  ∀ text whole fraction, percentPattern text.toList = some (whole, fraction) →
    ∃ d, decimalOf text = .finite d ∧ d.value = plainValue whole fraction

end Setting

/-! ## The split over any arithmetic -/

section Split

variable {D : Type} (arithmetic : Arithmetic D) (decimalOf : String → DecimalText)

def splitTaxIn (baseGoodsPaise : Int) (rate : D) : TaxPricingMode → Int × Int
  | .inclusive =>
      let base := arithmetic.ofDecimal (.ofInt baseGoodsPaise)
      let net := arithmetic.toDecimalPlaces 0
        (arithmetic.div (arithmetic.times base (arithmetic.ofDecimal (.ofInt 100)))
          (arithmetic.plus (arithmetic.ofDecimal (.ofInt 100)) rate))
      (net, baseGoodsPaise - net)
  | .exclusive =>
      let base := arithmetic.ofDecimal (.ofInt baseGoodsPaise)
      (baseGoodsPaise, arithmetic.toDecimalPlaces 0
        (arithmetic.div (arithmetic.times base rate) (arithmetic.ofDecimal (.ofInt 100))))

def computeTaxIn (baseGoodsPaise : Int) (config : TaxConfig) : Except HttpError TaxComputation :=
  if baseGoodsPaise < 0 then
    throw (.badRequest "Tax base cannot be negative")
  else do
    let rate ← parseRate decimalOf config
    if !config.enabled || rate.isZero then
      return ⟨baseGoodsPaise, 0, false, config.mode, none⟩
    else
      let split := splitTaxIn arithmetic baseGoodsPaise (arithmetic.ofDecimal rate) config.mode
      return ⟨split.1, split.2, true, config.mode, some (arithmetic.toDecimalPlaces 4
        (arithmetic.div (arithmetic.ofDecimal rate) (arithmetic.ofDecimal (.ofInt 100))))⟩

/-- The split of a persisted order, from nothing but what was persisted. -/
def recomputeTax (taxableAmountPaise taxAmountPaise : Int) (taxMode : TaxPricingMode)
    (taxRateSnapshot : Option Int) : Int × Int :=
  let base := match taxMode with
    | .inclusive => taxableAmountPaise + taxAmountPaise
    | .exclusive => taxableAmountPaise
  match taxRateSnapshot with
  | none => (base, 0)
  | some rate =>
      splitTaxIn arithmetic base
        (arithmetic.times (arithmetic.ofDecimal ⟨rate, -4⟩) (arithmetic.ofDecimal (.ofInt 100)))
        taxMode

end Split

theorem splitTaxIn_working (baseGoodsPaise : Int) (rate : Decimal) (mode : TaxPricingMode) :
    splitTaxIn .working baseGoodsPaise rate mode = splitTax baseGoodsPaise rate mode := by
  cases mode with
  | inclusive => simp [splitTaxIn, splitTax, Arithmetic.working, Decimal.toDecimalPlaces]
  | exclusive => simp [splitTaxIn, splitTax, Arithmetic.working, Decimal.toDecimalPlaces]

/-- The service computes with the working precision. -/
theorem computeTaxIn_working (decimalOf : String → DecimalText) (baseGoodsPaise : Int)
    (config : TaxConfig) :
    computeTaxIn .working decimalOf baseGoodsPaise config =
      computeTax decimalOf baseGoodsPaise config := by
  simp only [computeTaxIn, splitTaxIn_working]
  rfl

/-! ## What the setting accepts -/

section Accepted

open JavaScript

variable {decimalOf : String → DecimalText} {raw value : String} {whole fraction text : List Char}

theorem toList_paiseToDecimalString (k : Nat) :
    (paiseToDecimalString k).toList = Nat.toDigits 10 (k / 100) ++ '.' :: numeral 2 (k % 100) := by
  have hnonneg : ¬ (k : Int) < 0 := by omega
  simp only [paiseToDecimalString, if_neg hnonneg, Int.natAbs_natCast, String.toList_append,
    padStart_toString]
  rw [Nat.toString_eq_ofList_toDigits, String.toList_ofList]
  simp

theorem length_numeral_two {n : Nat} (h : n < 100) : (numeral 2 n).length = 2 := by
  rw [length_numeral, max_eq_left]
  exact (Nat.length_toDigits_le_iff (by decide) (by decide)).mpr h

/-- What the setting stores passes its own pattern. -/
theorem percentPattern_paise (k : Nat) :
    percentPattern (paiseToDecimalString k).toList =
      some (Nat.toDigits 10 (k / 100), numeral 2 (k % 100)) := by
  have hwhole : ∀ c ∈ Nat.toDigits 10 (k / 100), c.isDigit = true :=
    fun c hc => Nat.isDigit_of_mem_toDigits (by decide) (by decide) hc
  have hfraction : (numeral 2 (k % 100)).all Char.isDigit = true :=
    List.all_eq_true.mpr fun c hc => isDigit_numeral _ _ c hc
  have hlength : (numeral 2 (k % 100)).length = 2 := length_numeral_two (Nat.mod_lt _ (by decide))
  have htake : ('.' :: numeral 2 (k % 100)).takeWhile Char.isDigit = [] := by
    rw [List.takeWhile_cons_of_neg (by decide)]
  have hdrop : ('.' :: numeral 2 (k % 100)).dropWhile Char.isDigit =
      '.' :: numeral 2 (k % 100) := by
    rw [List.dropWhile_cons_of_neg (by decide)]
  rw [toList_paiseToDecimalString, percentPattern, List.takeWhile_append_of_pos hwhole,
    List.dropWhile_append_of_pos hwhole, htake, hdrop, List.append_nil]
  simp [Nat.toDigits_ne_nil, hfraction, hlength]

theorem plainValue_paise (k : Nat) :
    plainValue (Nat.toDigits 10 (k / 100)) (numeral 2 (k % 100)) = k / 100 := by
  have hlength : (numeral 2 (k % 100)).length = 2 := length_numeral_two (Nat.mod_lt _ (by decide))
  have hdigits : Nat.ofDigitChars 10 (Nat.toDigits 10 (k / 100) ++ numeral 2 (k % 100)) 0 = k := by
    rw [Nat.ofDigitChars_append, Nat.ofDigitChars_ten_toDigits,
      Nat.ofDigitChars_eq_ofDigitChars_zero, ofDigitChars_numeral, hlength]
    omega
  rw [plainValue, hdigits, hlength]
  norm_num

/-- With at most two decimals a number is a whole number of hundredths. -/
theorem percentPattern_hundredths (h : percentPattern text = some (whole, fraction)) :
    ∃ k : Nat, plainValue whole fraction = k / 100 := by
  have hlength : fraction.length ≤ 2 := by
    simp only [percentPattern] at h
    split at h
    · cases h
    · split at h
      · cases h
        simp
      · split at h
        · next hpart =>
          cases h
          simp only [Bool.and_eq_true, Bool.or_eq_true, decide_eq_true_iff] at hpart
          omega
        · cases h
      · cases h
  refine ⟨Nat.ofDigitChars 10 (whole ++ fraction) 0 * 10 ^ (2 - fraction.length), ?_⟩
  have hpow : (100 : ℚ) = 10 ^ (2 - fraction.length) * 10 ^ fraction.length := by
    rw [← pow_add, Nat.sub_add_cancel hlength]
    norm_num
  rw [plainValue, hpow]
  push_cast
  field_simp

/-- An accepted rate is stored as a numeral of that rate, a whole number of hundredths of a
percent. -/
theorem normalizePercent_ok (hreads : ReadsNumerals decimalOf)
    (h : normalizePercent decimalOf raw = .ok value) :
    ∃ (k : Nat) (rate : Decimal), k ≤ 10000 ∧ decimalOf value = .finite rate ∧
      rate.value = k / 100 := by
  simp only [normalizePercent] at h
  split at h
  · cases h
  · next hpattern =>
    obtain ⟨⟨whole, fraction⟩, hpattern⟩ := Option.ne_none_iff_exists'.mp
      (mt Option.isNone_iff_eq_none.mpr hpattern)
    obtain ⟨d, hd, hvalue⟩ := hreads _ _ _ hpattern
    obtain ⟨k, hk⟩ := percentPattern_hundredths hpattern
    rw [hd] at h
    dsimp only at h
    split at h
    · cases h
    · next hrange =>
      obtain ⟨hnonneg, hle⟩ := Bool.or_eq_false_iff.mp (Bool.eq_false_iff.mpr hrange)
      have hcoeff := Decimal.value_nonneg.mp (Decimal.isNegative_eq_false.mp hnonneg)
      have hle' : (k : ℚ) / 100 ≤ 100 := by
        rw [← hk, ← hvalue]
        exact_mod_cast Decimal.greaterThan_eq_false.mp hle
      have hplaces : d.toDecimalPlaces 2 = k := by
        rw [Decimal.toDecimalPlaces_eq_round hcoeff, hvalue, hk,
          show (k : ℚ) / 100 * 10 ^ 2 = (k : Int) by push_cast; ring, round_intCast]
      rw [hplaces] at h
      cases h
      obtain ⟨rate, hrate, hvalue'⟩ := hreads _ _ _ (percentPattern_paise k)
      refine ⟨k, rate, ?_, hrate, hvalue'.trans (plainValue_paise k)⟩
      have : (k : ℚ) ≤ 10000 := by linarith
      exact_mod_cast this

end Accepted

/-! ## The parts -/

section Parts

variable {decimalOf : String → DecimalText} {base base' : Int} {r : ℚ}

theorem splitTaxIn_inclusive (hbase : 0 ≤ base) (hr : 0 ≤ r) :
    splitTaxIn .exact base r .inclusive =
      (round (base * 100 / (100 + r)), base - round (base * 100 / (100 + r))) := by
  have hnonneg : (0 : ℚ) ≤ base * 100 / (100 + r) := by
    have : (0 : ℚ) ≤ base := by exact_mod_cast hbase
    positivity
  have hplaces : Arithmetic.exact.toDecimalPlaces 0 (base * 100 / (100 + r)) =
      round (base * 100 / (100 + r)) := by
    rw [Arithmetic.exact_toDecimalPlaces hnonneg, pow_zero, mul_one]
  simpa [splitTaxIn, Arithmetic.exact, Decimal.value_ofInt] using hplaces

theorem splitTaxIn_exclusive (hbase : 0 ≤ base) (hr : 0 ≤ r) :
    splitTaxIn .exact base r .exclusive = (base, round (base * r / 100)) := by
  have hnonneg : (0 : ℚ) ≤ base * r / 100 := by
    have : (0 : ℚ) ≤ base := by exact_mod_cast hbase
    positivity
  have hplaces : Arithmetic.exact.toDecimalPlaces 0 (base * r / 100) = round (base * r / 100) := by
    rw [Arithmetic.exact_toDecimalPlaces hnonneg, pow_zero, mul_one]
  simpa [splitTaxIn, Arithmetic.exact, Decimal.value_ofInt] using hplaces

/-- The net amount does not exceed the base. -/
theorem net_le (hbase : 0 ≤ base) (hr : 0 ≤ r) : round (base * 100 / (100 + r)) ≤ base := by
  have hbase' : (0 : ℚ) ≤ base := by exact_mod_cast hbase
  have hle : (base : ℚ) * 100 / (100 + r) ≤ base := by
    rw [div_le_iff₀ (by positivity)]
    nlinarith
  simpa using round_mono hle

theorem net_mono (hr : 0 ≤ r) (h : base ≤ base') :
    round (base * 100 / (100 + r)) ≤ round (base' * 100 / (100 + r)) := by
  refine round_mono ?_
  have : (base : ℚ) ≤ base' := by exact_mod_cast h
  gcongr

/-- The net amount grows no faster than the base. -/
theorem net_lipschitz (hr : 0 ≤ r) (h : base ≤ base') :
    round (base' * 100 / (100 + r)) - round (base * 100 / (100 + r)) ≤ base' - base := by
  have hle : (base' : ℚ) * 100 / (100 + r) ≤ base * 100 / (100 + r) + (base' - base : Int) := by
    have h' : (base : ℚ) ≤ base' := by exact_mod_cast h
    rw [div_add' _ _ _ (by positivity), div_le_div_iff_of_pos_right (by positivity)]
    push_cast
    nlinarith
  have := round_mono hle
  rw [round_add_intCast] at this
  omega

/-! ### The working precision -/

variable {k : Nat} {rate : Decimal}

theorem net_working {b : Nat} (hb : b < 10 ^ 15) (hrate : rate.value = k / 100)
    (hk : k ≤ 10000) :
    (((Decimal.ofInt b).times (.ofInt 100)).div ((Decimal.ofInt 100).plus rate)).toDecimalPlaces 0 =
      round ((b : ℚ) * 100 / (100 + k / 100)) := by
  have hnet : ((Decimal.ofInt b).times (.ofInt 100)).value = b * 100 := by
    rw [Decimal.value_times (b * 100) 0]
    · simp [Decimal.value_ofInt]
    · simp [Decimal.value_ofInt]
    · rw [Decimal.precision]
      omega
  have hsum : ((Decimal.ofInt 100).plus rate).value = 100 + k / 100 := by
    rw [Decimal.value_plus (10000 + k) 2]
    · simp [Decimal.value_ofInt, hrate]
    · rw [hrate, Decimal.value_ofInt]
      push_cast
      ring
    · rw [Decimal.precision]
      omega
  have hfraction : (b : ℚ) * 100 / (100 + k / 100) = (b * 10000 : Nat) / (10000 + k : Nat) := by
    push_cast
    rw [div_eq_div_iff (by positivity) (by positivity)]
    ring
  rw [hfraction]
  refine Decimal.toDecimalPlaces_div 0 _ _ ?_ ?_ (by omega) ?_ ?_
  · rw [hnet]
    positivity
  · rw [hsum]
    positivity
  · rw [hnet, hsum, pow_zero, mul_one, hfraction]
  · rw [Decimal.precision]
    omega

theorem tax_working {b : Nat} (hb : b < 10 ^ 15) (hrate : rate.value = k / 100)
    (hk : k ≤ 10000) :
    (((Decimal.ofInt b).times rate).div (.ofInt 100)).toDecimalPlaces 0 =
      round ((b : ℚ) * (k / 100) / 100) := by
  have hsmall : b * k < 10 ^ 19 := by
    calc b * k ≤ b * 10000 := Nat.mul_le_mul_left _ hk
      _ < 10 ^ 19 := by omega
  have hproduct : ((Decimal.ofInt b).times rate).value = b * (k / 100) := by
    rw [Decimal.value_times (b * k) 2]
    · simp [Decimal.value_ofInt, hrate]
    · rw [hrate, Decimal.value_ofInt]
      push_cast
      ring
    · rw [Decimal.precision]
      omega
  have hhundred : (Decimal.ofInt 100).value = 100 := by simp [Decimal.value_ofInt]
  have hfraction : (b : ℚ) * (k / 100) / 100 = (b * k : Nat) / (10000 : Nat) := by
    push_cast
    ring
  rw [hfraction]
  refine Decimal.toDecimalPlaces_div 0 _ _ ?_ ?_ (by omega) ?_ hsmall
  · rw [hproduct]
    positivity
  · rw [hhundred]
    norm_num
  · rw [hproduct, hhundred, pow_zero, mul_one, hfraction]

/-- Up to fifteen digits the working precision loses nothing. -/
theorem splitTaxIn_working_eq_exact (hbase : 0 ≤ base) (hlt : base < 10 ^ 15)
    (hrate : rate.value = k / 100) (hk : k ≤ 10000) (mode : TaxPricingMode) :
    splitTaxIn .working base rate mode = splitTaxIn .exact base rate.value mode := by
  obtain ⟨b, rfl⟩ := Int.eq_ofNat_of_zero_le hbase
  have hb : b < 10 ^ 15 := by exact_mod_cast hlt
  have hr : (0 : ℚ) ≤ k / 100 := by positivity
  rw [hrate]
  cases mode with
  | inclusive =>
      rw [splitTaxIn_inclusive hbase hr, Int.cast_natCast, ← net_working hb hrate hk]
      rfl
  | exclusive =>
      rw [splitTaxIn_exclusive hbase hr, Int.cast_natCast, ← tax_working hb hrate hk]
      rfl

/-- The snapshot is the rate as a fraction, and not a rounding of it. -/
theorem snapshot_exact (hrate : rate.value = k / 100) :
    Arithmetic.exact.toDecimalPlaces 4
      (Arithmetic.exact.div (Arithmetic.exact.ofDecimal rate)
        (Arithmetic.exact.ofDecimal (.ofInt 100))) = k := by
  have hhundred : (Decimal.ofInt 100).value = 100 := by simp [Decimal.value_ofInt]
  have hvalue : Arithmetic.exact.div (Arithmetic.exact.ofDecimal rate)
      (Arithmetic.exact.ofDecimal (.ofInt 100)) = (k : ℚ) / 10000 := by
    simp only [Arithmetic.exact]
    rw [hrate, hhundred]
    ring
  rw [hvalue, Arithmetic.exact_toDecimalPlaces (by positivity),
    show (k : ℚ) / 10000 * 10 ^ 4 = (k : Int) by push_cast; ring, round_intCast]

theorem snapshot_working (hrate : rate.value = k / 100) (hk : k ≤ 10000) :
    (rate.div (.ofInt 100)).toDecimalPlaces 4 = k := by
  have hhundred : (Decimal.ofInt 100).value = 100 := by simp [Decimal.value_ofInt]
  have hround := Decimal.toDecimalPlaces_div (x := rate) (y := .ofInt 100) 4 k 1
    (by rw [hrate]; positivity) (by rw [hhundred]; norm_num) (by decide)
    (by rw [hrate, hhundred]; push_cast; ring) (by rw [Decimal.precision]; omega)
  rw [hround, Nat.cast_one, div_one]
  exact_mod_cast round_natCast k

/-! ### The computation -/

variable {D : Type} {arithmetic : Arithmetic D} {config : TaxConfig} {t t' : TaxComputation}

/-- A rate in range is computed with. -/
theorem computeTaxIn_ok (hbase : 0 ≤ base) (hvalue : decimalOf config.ratePercent = .finite rate)
    (hrate : rate.value = k / 100) (hk : k ≤ 10000) :
    computeTaxIn arithmetic decimalOf base config = .ok (
      if !config.enabled || rate.isZero then ⟨base, 0, false, config.mode, none⟩
      else
        let split := splitTaxIn arithmetic base (arithmetic.ofDecimal rate) config.mode
        ⟨split.1, split.2, true, config.mode, some (arithmetic.toDecimalPlaces 4
          (arithmetic.div (arithmetic.ofDecimal rate) (arithmetic.ofDecimal (.ofInt 100))))⟩) := by
  have hnegative : rate.isNegative = false := by
    rw [Decimal.isNegative_eq_false, hrate]
    positivity
  have hgreater : rate.greaterThan 100 = false := by
    rw [Decimal.greaterThan_eq_false, hrate]
    have : (k : ℚ) ≤ 10000 := by exact_mod_cast hk
    push_cast
    linarith
  have hparse : parseRate decimalOf config = .ok rate := by
    simp [parseRate, hvalue, hnegative, hgreater, pure, Except.pure]
  rw [computeTaxIn, if_neg (by omega), hparse]
  split <;> next h => simp [h, bind, Except.bind, pure, Except.pure]

/-- Up to fifteen digits the service computes exactly. -/
theorem computeTax_eq_exact (hlt : base < 10 ^ 15)
    (hvalue : decimalOf config.ratePercent = .finite rate) (hrate : rate.value = k / 100)
    (hk : k ≤ 10000) :
    computeTax decimalOf base config = computeTaxIn .exact decimalOf base config := by
  rw [← computeTaxIn_working]
  rcases lt_or_ge base 0 with hneg | hbase
  · rw [computeTaxIn, computeTaxIn, if_pos hneg, if_pos hneg]
  · rw [computeTaxIn_ok hbase hvalue hrate hk, computeTaxIn_ok hbase hvalue hrate hk]
    have hsplit : splitTaxIn .working base (Arithmetic.working.ofDecimal rate) config.mode =
        splitTaxIn .exact base (Arithmetic.exact.ofDecimal rate) config.mode :=
      splitTaxIn_working_eq_exact hbase hlt hrate hk config.mode
    have hsnapshot : Arithmetic.working.toDecimalPlaces 4 (Arithmetic.working.div
        (Arithmetic.working.ofDecimal rate) (Arithmetic.working.ofDecimal (.ofInt 100))) = k :=
      snapshot_working hrate hk
    rw [hsplit, hsnapshot, snapshot_exact hrate]

/-- The parts of a tax that is included, whether the rate is zero or not. -/
theorem inclusive_parts (hbase : 0 ≤ base) {value : String}
    (hvalue : decimalOf value = .finite rate) (hrate : rate.value = k / 100) (hk : k ≤ 10000) :
    ∃ t, computeTaxIn .exact decimalOf base ⟨true, .inclusive, value⟩ = .ok t ∧
      t.taxableAmountPaise = round (base * 100 / (100 + rate.value)) ∧
      t.taxAmountPaise = base - round (base * 100 / (100 + rate.value)) := by
  have hr : 0 ≤ rate.value := by
    rw [hrate]
    positivity
  rw [computeTaxIn_ok hbase hvalue hrate hk]
  refine ⟨_, rfl, ?_⟩
  by_cases hzero : rate.isZero = true
  · have hnet : round ((base : ℚ) * 100 / (100 + rate.value)) = base := by
      rw [Decimal.isZero_eq_true.mp hzero, add_zero, mul_div_cancel_right₀ _ (by norm_num),
        round_intCast]
    rw [hnet, if_pos (by simp [hzero])]
    simp
  · rw [if_neg (by simp [hzero])]
    have hsplit := splitTaxIn_inclusive hbase hr
    simp only [Arithmetic.exact] at hsplit ⊢
    rw [hsplit]
    exact ⟨rfl, rfl⟩

/-- The parts of a tax that is added, whether the rate is zero or not. -/
theorem exclusive_parts (hbase : 0 ≤ base) {value : String}
    (hvalue : decimalOf value = .finite rate) (hrate : rate.value = k / 100) (hk : k ≤ 10000) :
    ∃ t, computeTaxIn .exact decimalOf base ⟨true, .exclusive, value⟩ = .ok t ∧
      t.taxableAmountPaise = base ∧ t.taxAmountPaise = round (base * rate.value / 100) := by
  have hr : 0 ≤ rate.value := by
    rw [hrate]
    positivity
  rw [computeTaxIn_ok hbase hvalue hrate hk]
  refine ⟨_, rfl, ?_⟩
  by_cases hzero : rate.isZero = true
  · rw [Decimal.isZero_eq_true.mp hzero, if_pos (by simp [hzero])]
    simp
  · rw [if_neg (by simp [hzero])]
    have hsplit := splitTaxIn_exclusive hbase hr
    simp only [Arithmetic.exact] at hsplit ⊢
    rw [hsplit]
    exact ⟨rfl, rfl⟩

/-- The base is found again among the parts. -/
theorem base_of_split (base : Int) (x : D) (mode : TaxPricingMode) :
    (match mode with
      | .inclusive =>
          (splitTaxIn arithmetic base x mode).1 + (splitTaxIn arithmetic base x mode).2
      | .exclusive => (splitTaxIn arithmetic base x mode).1) = base := by
  cases mode with
  | inclusive =>
      simp only [splitTaxIn]
      omega
  | exclusive => rfl

theorem recomputeTax_of_split {snapshot : Int} (base : Int) (x : D) (mode : TaxPricingMode)
    (hsplit : splitTaxIn arithmetic base (arithmetic.times (arithmetic.ofDecimal ⟨snapshot, -4⟩)
      (arithmetic.ofDecimal (.ofInt 100))) mode = splitTaxIn arithmetic base x mode) :
    recomputeTax arithmetic (splitTaxIn arithmetic base x mode).1
      (splitTaxIn arithmetic base x mode).2 mode (some snapshot) =
        splitTaxIn arithmetic base x mode := by
  simp only [recomputeTax]
  rw [base_of_split, hsplit]

/-- What a computation leaves behind determines its parts, once the rate is read off the
snapshot. -/
theorem recomputeTax_of_ok (hbase : 0 ≤ base)
    (hvalue : decimalOf config.ratePercent = .finite rate) (hrate : rate.value = k / 100)
    (hk : k ≤ 10000)
    (hsnapshot : arithmetic.toDecimalPlaces 4 (arithmetic.div (arithmetic.ofDecimal rate)
      (arithmetic.ofDecimal (.ofInt 100))) = k)
    (hsplit : splitTaxIn arithmetic base (arithmetic.times (arithmetic.ofDecimal ⟨k, -4⟩)
      (arithmetic.ofDecimal (.ofInt 100))) config.mode =
        splitTaxIn arithmetic base (arithmetic.ofDecimal rate) config.mode)
    (h : computeTaxIn arithmetic decimalOf base config = .ok t) :
    recomputeTax arithmetic t.taxableAmountPaise t.taxAmountPaise t.mode t.taxRateSnapshot =
      (t.taxableAmountPaise, t.taxAmountPaise) := by
  rw [computeTaxIn_ok hbase hvalue hrate hk] at h
  cases h
  split
  · simp only [recomputeTax]
    cases config.mode <;> simp
  · simp only [hsnapshot]
    exact recomputeTax_of_split base _ config.mode hsplit

end Parts

/-! ## The contract of the service -/

/-- The exact computation splits the base half up, the parts grow with the base, and what the
order keeps determines them. Up to fifteen digits the service computes exactly. -/
theorem tax_split_exact_and_reproducible {decimalOf : String → DecimalText} {raw value : String}
    (hreads : ReadsNumerals decimalOf) (haccepted : normalizePercent decimalOf raw = .ok value) :
    ∃ rate : Decimal, decimalOf value = .finite rate ∧
      (∀ base : Int, 0 ≤ base → ∃ t,
        computeTaxIn .exact decimalOf base ⟨true, .inclusive, value⟩ = .ok t ∧
          t.taxableAmountPaise + t.taxAmountPaise = base ∧
          t.taxableAmountPaise = round (base * 100 / (100 + rate.value)) ∧
          0 ≤ t.taxAmountPaise ∧ t.taxAmountPaise ≤ base) ∧
      (∀ (base base' : Int) (t t' : TaxComputation), base ≤ base' →
        computeTaxIn .exact decimalOf base ⟨true, .inclusive, value⟩ = .ok t →
        computeTaxIn .exact decimalOf base' ⟨true, .inclusive, value⟩ = .ok t' →
          t.taxableAmountPaise ≤ t'.taxableAmountPaise ∧ t.taxAmountPaise ≤ t'.taxAmountPaise) ∧
      (∀ base : Int, 0 ≤ base → ∃ t,
        computeTaxIn .exact decimalOf base ⟨true, .exclusive, value⟩ = .ok t ∧
          t.taxableAmountPaise = base ∧ t.taxAmountPaise = round (base * rate.value / 100)) ∧
      (∀ (base : Int) (enabled : Bool) (mode : TaxPricingMode) (t : TaxComputation),
        computeTaxIn .exact decimalOf base ⟨enabled, mode, value⟩ = .ok t →
          recomputeTax .exact t.taxableAmountPaise t.taxAmountPaise t.mode t.taxRateSnapshot =
            (t.taxableAmountPaise, t.taxAmountPaise)) ∧
      ∀ (base : Int) (enabled : Bool) (mode : TaxPricingMode), base < 10 ^ 15 →
        computeTax decimalOf base ⟨enabled, mode, value⟩ =
          computeTaxIn .exact decimalOf base ⟨enabled, mode, value⟩ ∧
        ∀ t, computeTax decimalOf base ⟨enabled, mode, value⟩ = .ok t →
          recomputeTax .working t.taxableAmountPaise t.taxAmountPaise t.mode t.taxRateSnapshot =
            (t.taxableAmountPaise, t.taxAmountPaise) := by
  obtain ⟨k, rate, hk, hvalue, hrate⟩ := normalizePercent_ok hreads haccepted
  have hr : 0 ≤ rate.value := by
    rw [hrate]
    positivity
  have hbase_of : ∀ {D : Type} {arithmetic : Arithmetic D} {base : Int} {config : TaxConfig}
      {t : TaxComputation}, computeTaxIn arithmetic decimalOf base config = .ok t → 0 ≤ base := by
    intro D arithmetic base config t h
    by_contra hneg
    rw [computeTaxIn, if_pos (by omega)] at h
    cases h
  refine ⟨rate, hvalue, fun base hbase => ?_, fun base base' t t' hle h h' => ?_,
    fun base hbase => exclusive_parts hbase hvalue hrate hk, fun base enabled mode t h => ?_,
    fun base enabled mode hlt => ?_⟩
  · obtain ⟨t, h, hnet, htax⟩ := inclusive_parts hbase hvalue hrate hk
    have hle := net_le hbase hr
    have hnonneg : 0 ≤ round ((base : ℚ) * 100 / (100 + rate.value)) :=
      round_nonneg (by have : (0 : ℚ) ≤ base := by exact_mod_cast hbase
                       positivity)
    exact ⟨t, h, by omega, hnet, by omega, by omega⟩
  · obtain ⟨s, hs, hnet, htax⟩ := inclusive_parts (hbase_of h) hvalue hrate hk
    obtain ⟨s', hs', hnet', htax'⟩ := inclusive_parts (hbase_of h') hvalue hrate hk
    cases h.symm.trans hs
    cases h'.symm.trans hs'
    have hmono := net_mono hr hle
    have hslow := net_lipschitz hr hle
    exact ⟨by omega, by omega⟩
  · have hread : Arithmetic.exact.times (Arithmetic.exact.ofDecimal ⟨k, -4⟩)
        (Arithmetic.exact.ofDecimal (.ofInt 100)) = rate.value := by
      rw [hrate]
      simp only [Arithmetic.exact, Decimal.value, Decimal.ofInt]
      norm_num
      ring
    exact recomputeTax_of_ok (hbase_of h) hvalue hrate hk (snapshot_exact hrate)
      (congrArg (splitTaxIn _ base · mode) hread) h
  · refine ⟨computeTax_eq_exact hlt hvalue hrate hk, fun t h => ?_⟩
    rw [← computeTaxIn_working] at h
    have hbase := hbase_of h
    have hread : ((Decimal.mk k (-4)).times (.ofInt 100)).value = k / 100 := by
      rw [Decimal.value_times k 2]
      · simp only [Decimal.value, Decimal.ofInt]
        norm_num
        ring
      · simp only [Decimal.value, Decimal.ofInt]
        norm_num
        ring
      · rw [Decimal.precision]
        omega
    refine recomputeTax_of_ok hbase hvalue hrate hk (snapshot_working hrate hk) ?_ h
    exact (splitTaxIn_working_eq_exact hbase hlt hread hk mode).trans
      (hread.trans hrate.symm ▸ (splitTaxIn_working_eq_exact hbase hlt hrate hk mode).symm)

/-- Reads plain numerals and nothing else. -/
def readNumeral (text : String) : DecimalText :=
  match percentPattern text.toList with
  | none => .invalid
  | some (whole, fraction) =>
      .finite ⟨Nat.ofDigitChars 10 (whole ++ fraction) 0, -fraction.length⟩

theorem readsNumerals_readNumeral : ReadsNumerals readNumeral := by
  intro text whole fraction h
  refine ⟨_, by rw [readNumeral, h], ?_⟩
  rw [Decimal.value, plainValue, zpow_neg, zpow_natCast, div_eq_mul_inv]
  rfl

/-- Eighteen percent included in a hundred rupees. -/
theorem tax_split_exact_and_reproducible_eighteen :
    computeTax readNumeral 10000 ⟨true, .inclusive, "18.00"⟩ =
      .ok ⟨8475, 1525, true, .inclusive, some 1800⟩ ∧
    recomputeTax .working 8475 1525 .inclusive (some 1800) = (8475, 1525) := by
  have haccepted : normalizePercent readNumeral " 18 " = .ok "18.00" := by decide +kernel
  have hcomputed : computeTax readNumeral 10000 ⟨true, .inclusive, "18.00"⟩ =
      .ok ⟨8475, 1525, true, .inclusive, some 1800⟩ := by decide +kernel
  obtain ⟨rate, -, -, -, -, -, hworking⟩ :=
    tax_split_exact_and_reproducible readsNumerals_readNumeral haccepted
  exact ⟨hcomputed, (hworking 10000 true .inclusive (by decide)).2 _ hcomputed⟩

end PrintForge.Checkout
