import Mathlib.Data.Nat.Basic
import PrintForge.Text.Strings

/-!
# Integers read off texts

A number of the language is a double: a natural number that does not fit into the significand is
rounded to a neighbour that does, to the even one where it lies in the middle, and what is too
large is infinite. Small numbers are exact, and none is rounded to less than its half.

The digits that a text ends in are read as a number. Behind a front of its own, a numeral is read
back just where the front ends in no digit but zeros and the number is one that a double holds.
-/

namespace JavaScript

/-! ## Doubles -/

/-- The natural number rounded to 53 binary digits. -/
def rounded (n : Nat) : Nat :=
  let spacing := 2 ^ (n.log2 - 52)
  let quotient := n / spacing
  let rest := n % spacing
  if spacing < 2 * rest ∨ 2 * rest = spacing ∧ quotient % 2 = 1 then (quotient + 1) * spacing
  else quotient * spacing

def doubleExponent : Nat := 1024

/-- From here on a double is infinite. -/
@[irreducible] def overflow : Nat := 2 ^ doubleExponent

/-- A natural number as a double, or too large for one. -/
inductive Number where
  | finite (n : Nat)
  | infinite
deriving DecidableEq, Repr

def Number.less : Number → Number → Bool
  | finite m, finite n => m < n
  | finite _, infinite => true
  | infinite, _ => false

@[irreducible] def toNumber (n : Nat) : Number :=
  if rounded n < overflow then .finite (rounded n) else .infinite

theorem significand_lt_overflow : 2 ^ 53 < overflow := by
  unfold overflow
  exact Nat.pow_lt_pow_right (by decide) (by decide)

theorem rounded_of_lt {n : Nat} (h : n < 2 ^ 53) : rounded n = n := by
  have hlog : n.log2 - 52 = 0 := by
    by_cases hn : n = 0
    · subst hn
      rfl
    · have := (Nat.log2_lt hn).mpr h
      omega
  simp [rounded, hlog, Nat.mod_one]

theorem toNumber_of_lt {n : Nat} (h : n < 2 ^ 53) : toNumber n = .finite n := by
  have hlarge : n < overflow := Nat.lt_trans h significand_lt_overflow
  rw [toNumber, rounded_of_lt h, if_pos hlarge]

theorem le_two_mul_rounded (n : Nat) : n ≤ 2 * rounded n := by
  by_cases hsmall : n < 2 ^ 53
  · rw [rounded_of_lt hsmall]
    omega
  · have hn : n ≠ 0 := by omega
    have hspacing : 2 ^ (n.log2 - 52) ≤ n :=
      Nat.le_trans (Nat.pow_le_pow_right (by omega) (Nat.sub_le ..)) (Nat.log2_self_le hn)
    have hpos : 0 < 2 ^ (n.log2 - 52) := Nat.two_pow_pos _
    have hquotient : 1 ≤ n / 2 ^ (n.log2 - 52) := (Nat.one_le_div_iff hpos).mpr hspacing
    have hrest := Nat.mod_lt n hpos
    have hdivision := Nat.div_add_mod n (2 ^ (n.log2 - 52))
    have hlow : n / 2 ^ (n.log2 - 52) * 2 ^ (n.log2 - 52) ≤ rounded n := by
      unfold rounded
      dsimp only
      split
      · exact Nat.mul_le_mul_right _ (Nat.le_succ _)
      · exact Nat.le_refl _
    have hone := Nat.mul_le_mul_right (2 ^ (n.log2 - 52)) hquotient
    rw [Nat.mul_comm] at hdivision
    omega

/-- What is rounded to a number is at most twice as large. -/
theorem le_of_toNumber {n m : Nat} (h : toNumber n = .finite m) : n ≤ 2 * m := by
  unfold toNumber at h
  split at h
  · cases h
    exact le_two_mul_rounded n
  · cases h

/-! ## Digits at the end -/

/-- The digits that a text ends in. -/
def trailingDigits (text : List Char) : List Char := (text.reverse.takeWhile Char.isDigit).reverse

theorem isDigit_of_mem_trailingDigits {text : List Char} {c : Char} (h : c ∈ trailingDigits text) :
    c.isDigit = true :=
  List.all_eq_true.mp List.all_takeWhile c (List.mem_reverse.mp h)

/-- Behind digits, the digits in front count too. -/
theorem trailingDigits_append (front : List Char) {digits : List Char}
    (h : ∀ c ∈ digits, c.isDigit = true) :
    trailingDigits (front ++ digits) = trailingDigits front ++ digits := by
  rw [trailingDigits, List.reverse_append, List.takeWhile_append_of_pos, List.reverse_append,
    List.reverse_reverse, trailingDigits]
  exact fun c hc => h c (List.mem_reverse.mp hc)

theorem lt_pow_length_numeral (width n : Nat) : n < 10 ^ (numeral width n).length := by
  have hlt : n < 10 ^ (Nat.toDigits 10 n).length :=
    (Nat.length_toDigits_le_iff (by decide) (length_toDigits_pos n)).mp (Nat.le_refl _)
  refine Nat.lt_of_lt_of_le hlt (Nat.pow_le_pow_right (by decide) ?_)
  rw [length_numeral]
  exact Nat.le_max_right ..

theorem ofDigitChars_append_numeral (front : List Char) (width n : Nat) :
    Nat.ofDigitChars 10 (front ++ numeral width n) 0 =
      10 ^ (numeral width n).length * Nat.ofDigitChars 10 front 0 + n := by
  rw [Nat.ofDigitChars_append, Nat.ofDigitChars_eq_ofDigitChars_zero, ofDigitChars_numeral]

/-- Only zeros denote zero. -/
theorem ofDigitChars_eq_zero_iff {digits : List Char} (h : ∀ c ∈ digits, c.isDigit = true) :
    Nat.ofDigitChars 10 digits 0 = 0 ↔ ∀ c ∈ digits, c = '0' := by
  induction digits with
  | nil => simp
  | cons c digits ih =>
      have hdigit := Char.isDigit_iff_toNat.mp (h c List.mem_cons_self)
      rw [Nat.ofDigitChars_cons, Nat.ofDigitChars_eq_ofDigitChars_zero, Nat.add_eq_zero_iff,
        ih fun d hd => h d (List.mem_cons_of_mem c hd), List.forall_mem_cons, Nat.mul_eq_zero]
      refine and_congr_left fun _ => ?_
      have hpow : ¬ 10 ^ digits.length = 0 := Nat.ne_of_gt (Nat.pow_pos (by decide))
      have hzero : '0'.toNat = 48 := rfl
      constructor
      · intro hsum
        have hvalue := hsum.resolve_left hpow
        refine Char.ext (UInt32.toNat_inj.mp ?_)
        change c.toNat = 48
        omega
      · rintro rfl
        exact .inr rfl

/-- The number that a text ends in: nothing where it ends in no digit. -/
def parseTrailing (text : List Char) : Option Number :=
  match trailingDigits text with
  | [] => none
  | digits => some (toNumber (Nat.ofDigitChars 10 digits 0))

theorem parseTrailing_numeral (front : List Char) (width n : Nat) :
    parseTrailing (front ++ numeral width n) = some (toNumber (10 ^ (numeral width n).length *
      Nat.ofDigitChars 10 (trailingDigits front) 0 + n)) := by
  have hdigits := trailingDigits_append front (isDigit_numeral width n)
  have hlong : numeral width n ≠ [] := by
    intro hnil
    have hlength := length_numeral width n
    have hpos := length_toDigits_pos n
    rw [hnil, List.length_nil] at hlength
    omega
  rw [parseTrailing, hdigits, ← ofDigitChars_append_numeral]
  split
  · next hnil => exact absurd (List.append_eq_nil_iff.mp hnil).2 hlong
  · rfl

/-- A numeral is read back just where the front ends in no digits but zeros and the number is a
double. -/
theorem parseTrailing_numeral_eq_iff (front : List Char) (width n : Nat) :
    parseTrailing (front ++ numeral width n) = some (.finite n) ↔
      (∀ c ∈ trailingDigits front, c = '0') ∧ toNumber n = .finite n := by
  rw [parseTrailing_numeral, Option.some.injEq,
    ← ofDigitChars_eq_zero_iff fun c hc => isDigit_of_mem_trailingDigits hc]
  have hlt := lt_pow_length_numeral width n
  constructor
  · intro h
    have hzero : Nat.ofDigitChars 10 (trailingDigits front) 0 = 0 := by
      by_contra hne
      have hle := le_of_toNumber h
      have hone := Nat.mul_le_mul_left (10 ^ (numeral width n).length)
        (Nat.one_le_iff_ne_zero.mpr hne)
      omega
    refine ⟨hzero, ?_⟩
    rwa [hzero, Nat.mul_zero, Nat.zero_add] at h
  · rintro ⟨hzero, hnumber⟩
    rw [hzero, Nat.mul_zero, Nat.zero_add, hnumber]

/-! ## Digits at the beginning -/

/-- A sign, if there is one, and what follows. -/
def splitSign : List Char → Bool × List Char
  | '-' :: rest => (true, rest)
  | '+' :: rest => (false, rest)
  | text => (false, text)

def signed (negative : Bool) (n : Nat) : Int := if negative then -n else n

/-- `Number.parseInt` to the base ten, where the result is finite. -/
def parseInt (text : String) : Option Int :=
  let (negative, rest) := splitSign (text.toList.dropWhile isWhiteSpace)
  match rest.takeWhile Char.isDigit with
  | [] => none
  | digits =>
      match toNumber (Nat.ofDigitChars 10 digits 0) with
      | .finite n => some (signed negative n)
      | .infinite => none

/-- The integer that a text is, spaces around it aside. -/
def integerOf (text : String) : Option Int :=
  let (negative, digits) := splitSign (trim text).toList
  if digits ≠ [] ∧ digits.all Char.isDigit then
    some (signed negative (Nat.ofDigitChars 10 digits 0))
  else none

theorem splitSign_append {text : List Char} (h : text ≠ []) (rest : List Char) :
    splitSign (text ++ rest) = ((splitSign text).1, (splitSign text).2 ++ rest) := by
  cases text with
  | nil => exact absurd rfl h
  | cons c text =>
      rw [List.cons_append]
      unfold splitSign
      split <;> simp_all

/-- What follows the spaces in front is the trimmed text and the spaces behind it. -/
theorem dropWhile_eq_trim_append (text : String) : ∃ spaces,
    text.toList.dropWhile isWhiteSpace = (trim text).toList ++ spaces ∧
      ∀ c ∈ spaces, isWhiteSpace c = true := by
  refine ⟨((text.toList.dropWhile isWhiteSpace).reverse.takeWhile isWhiteSpace).reverse, ?_,
    fun c hc => List.all_eq_true.mp List.all_takeWhile c (List.mem_reverse.mp hc)⟩
  rw [trim, String.toList_ofList, ← List.reverse_append, List.takeWhile_append_dropWhile,
    List.reverse_reverse]

theorem isDigit_of_isWhiteSpace {c : Char} (h : isWhiteSpace c = true) : c.isDigit = false := by
  rw [← Bool.not_eq_true, Char.isDigit_iff_toNat]
  simp only [isWhiteSpace, List.mem_cons, List.not_mem_nil, or_false, Bool.or_eq_true,
    decide_eq_true_eq, Bool.and_eq_true] at h
  have hzero : '0'.toNat = 48 := rfl
  have hnine : '9'.toNat = 57 := rfl
  omega

/-- An integer is read as the double that it is rounded to. -/
theorem parseInt_of_integerOf {text : String} {value : Int} (h : integerOf text = some value) :
    ∃ negative n, value = signed negative n ∧ parseInt text =
      match toNumber n with
      | .finite m => some (signed negative m)
      | .infinite => none := by
  obtain ⟨spaces, htext, hspaces⟩ := dropWhile_eq_trim_append text
  unfold integerOf at h
  dsimp only at h
  split at h
  · next hdigits =>
    obtain ⟨hne, hall⟩ := hdigits
    have hlong : (trim text).toList ≠ [] := by
      intro hnil
      rw [hnil] at hne
      exact hne rfl
    have htake : ((splitSign (trim text).toList).2 ++ spaces).takeWhile Char.isDigit =
        (splitSign (trim text).toList).2 := by
      rw [List.takeWhile_append_of_pos (List.all_eq_true.mp hall)]
      cases spaces with
      | nil => rw [List.takeWhile_nil, List.append_nil]
      | cons c spaces =>
          have hspace := isDigit_of_isWhiteSpace (hspaces c List.mem_cons_self)
          rw [List.takeWhile_cons_of_neg (by rw [hspace]; exact Bool.false_ne_true),
            List.append_nil]
    refine ⟨_, _, (Option.some.inj h).symm, ?_⟩
    unfold parseInt
    rw [htext, splitSign_append hlong]
    dsimp only
    rw [htake]
    split
    · next hnil => exact absurd hnil hne
    · rfl
  · cases h

/-- An integer that a double holds is read as itself. -/
theorem parseInt_eq_of_integerOf {text : String} {n : Nat} (h : integerOf text = some (n : Int))
    (hn : toNumber n = .finite n) : parseInt text = some (n : Int) := by
  obtain ⟨negative, m, hvalue, hparse⟩ := parseInt_of_integerOf h
  have hm : m = n := by
    cases negative with
    | true =>
        change (n : Int) = -(m : Int) at hvalue
        omega
    | false => exact (Int.ofNat.inj hvalue).symm
  subst hm
  rw [hparse, hn, hvalue]

end JavaScript
