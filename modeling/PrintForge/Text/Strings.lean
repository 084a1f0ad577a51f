import Mathlib.Algebra.Order.Ring.Int
import Mathlib.Data.List.Basic
import Mathlib.Tactic.Common

/-!
# JavaScript strings

The string operations of the language that the services use, and what can be read back off texts
that are put together.

Texts that are joined by a character are read back where the character is in none of them on one
side. The digits of a number are filled up with zeros in front until there are enough of them. A
number is read back off its numeral, whatever the width. It is not read back off a text that ends
in the numeral: digits at the end of the text in front may as well be the first digits of the
number. Two such texts agree only where the longer number begins with the digits that the longer
front ends in, and then it has more digits than the width.
-/

namespace JavaScript

/-- White space and line terminators, as `trim` takes them off. -/
def isWhiteSpace (c : Char) : Bool :=
  c.toNat ∈ [0x9, 0xA, 0xB, 0xC, 0xD, 0x20, 0xA0, 0x1680, 0x2028, 0x2029, 0x202F, 0x205F,
    0x3000, 0xFEFF] || (0x2000 ≤ c.toNat && c.toNat ≤ 0x200A)

def trim (s : String) : String :=
  .ofList ((s.toList.dropWhile isWhiteSpace).reverse.dropWhile isWhiteSpace).reverse

/-- The number of UTF-16 code units. -/
def length (s : String) : Nat := (s.toList.map fun c => if c.toNat < 0x10000 then 1 else 2).sum

/-- Upper case, for the characters whose upper case is in ASCII. -/
def upperCase (c : Char) : List Char :=
  match c.toNat with
  | 0x131 => ['I']
  | 0x17F => ['S']
  | 0xDF => ['S', 'S']
  | 0xFB00 => ['F', 'F']
  | 0xFB01 => ['F', 'I']
  | 0xFB02 => ['F', 'L']
  | 0xFB03 => ['F', 'F', 'I']
  | 0xFB04 => ['F', 'F', 'L']
  | 0xFB05 | 0xFB06 => ['S', 'T']
  | _ => [c.toUpper]

def toUpperCase (s : String) : String := .ofList (s.toList.flatMap upperCase)

/-- A nullable string that counts as a value: neither null nor empty. -/
def truthy (s : Option String) : Option String := s.filter (· ≠ "")

/-! ## Joined texts -/

section Joined

variable {α : Type} {x : α} {s p s' p' : List α}

/-- The element that stands between two lists stands further back between two others, which
read the same. -/
def MovedBack (x : α) (s p s' p' : List α) : Prop := ∃ m, s' = s ++ x :: m ∧ p = m ++ x :: p'

theorem MovedBack.append_eq (h : MovedBack x s p s' p') : s ++ x :: p = s' ++ x :: p' := by
  obtain ⟨m, rfl, rfl⟩ := h
  simp

/-- Lists that are joined read the same when they are the same, or what joins them has moved. -/
theorem append_cons_eq_iff : s ++ x :: p = s' ++ x :: p' ↔
    (s = s' ∧ p = p') ∨ MovedBack x s p s' p' ∨ MovedBack x s' p' s p := by
  constructor
  · intro h
    obtain ⟨m, hs, hp⟩ | ⟨m, hs, hp⟩ := List.append_eq_append_iff.mp h
    · cases m with
      | nil =>
          refine .inl ⟨?_, ?_⟩
          · simpa using hs.symm
          · simpa using hp
      | cons y m =>
          obtain ⟨rfl, htail⟩ := List.cons.inj hp
          exact .inr (.inl ⟨m, hs, htail⟩)
    · cases m with
      | nil =>
          refine .inl ⟨?_, ?_⟩
          · simpa using hs
          · simpa using hp.symm
      | cons y m =>
          obtain ⟨rfl, htail⟩ := List.cons.inj hp
          exact .inr (.inr ⟨m, hs, htail⟩)
  · rintro (⟨rfl, rfl⟩ | h | h)
    · rfl
    · exact h.append_eq
    · exact h.append_eq.symm

/-- Where the lists behind it do not have it, what joins them cannot have moved. -/
theorem append_cons_inj_right (hp : x ∉ p) (hp' : x ∉ p') :
    s ++ x :: p = s' ++ x :: p' ↔ s = s' ∧ p = p' := by
  rw [append_cons_eq_iff, or_iff_left]
  rintro (⟨m, -, rfl⟩ | ⟨m, -, rfl⟩)
  · exact hp (by simp)
  · exact hp' (by simp)

/-- Nor can it where the lists in front do not have it. -/
theorem append_cons_inj_left (hs : x ∉ s) (hs' : x ∉ s') :
    s ++ x :: p = s' ++ x :: p' ↔ s = s' ∧ p = p' := by
  rw [append_cons_eq_iff, or_iff_left]
  rintro (⟨m, rfl, -⟩ | ⟨m, rfl, -⟩)
  · exact hs' (by simp)
  · exact hs (by simp)

end Joined

/-! ## Numerals -/

/-- `padStart` with a single character to fill up with. -/
def padStart (s : String) (width : Nat) (fill : Char) : String :=
  .ofList (List.replicate (width - length s) fill ++ s.toList)

/-- The digits of `n`, at least `width` of them. -/
def numeral (width n : Nat) : List Char := (Nat.toDigits 10 n).leftpad width '0'

variable {width m n : Nat}

/-- Digits are single code units. -/
theorem length_digits (n : Nat) : length (toString n) = (Nat.toDigits 10 n).length := by
  have hunit : ∀ c ∈ Nat.toDigits 10 n, (if c.toNat < 0x10000 then 1 else 2) = 1 := by
    intro c hc
    have hdigit : c.isDigit = true := Nat.isDigit_of_mem_toDigits (by decide) (by decide) hc
    have hle : c.toNat ≤ 57 := (Char.isDigit_iff_toNat.mp hdigit).2
    rw [if_pos (by omega)]
  rw [length, Nat.toString_eq_ofList_toDigits, String.toList_ofList, List.map_congr_left hunit,
    List.map_const', List.sum_replicate_nat, Nat.mul_one]

theorem padStart_toString (width n : Nat) :
    (padStart (toString n) width '0').toList = numeral width n := by
  rw [padStart, String.toList_ofList, length_digits, Nat.toString_eq_ofList_toDigits,
    String.toList_ofList, numeral, List.leftpad]

theorem isDigit_numeral (width n : Nat) : ∀ c ∈ numeral width n, c.isDigit = true := by
  intro c hc
  obtain hzero | hdigit := List.mem_append.mp hc
  · rw [List.eq_of_mem_replicate hzero]
    rfl
  · exact Nat.isDigit_of_mem_toDigits (by decide) (by decide) hdigit

/-- A numeral denotes its number. -/
theorem ofDigitChars_numeral (width n : Nat) : Nat.ofDigitChars 10 (numeral width n) 0 = n := by
  rw [numeral, List.leftpad, Nat.ofDigitChars_append, Nat.ofDigitChars_replicate_zero,
    Nat.mul_zero, Nat.ofDigitChars_ten_toDigits]

theorem numeral_injective (width : Nat) : Function.Injective (numeral width) := by
  intro m n h
  calc m = Nat.ofDigitChars 10 (numeral width m) 0 := (ofDigitChars_numeral width m).symm
    _ = Nat.ofDigitChars 10 (numeral width n) 0 := by rw [h]
    _ = n := ofDigitChars_numeral width n

theorem length_numeral (width n : Nat) :
    (numeral width n).length = max width (Nat.toDigits 10 n).length :=
  List.length_leftpad ..

/-- A number with digits enough is not filled up. -/
theorem numeral_eq_toDigits (h : width ≤ (Nat.toDigits 10 n).length) :
    numeral width n = Nat.toDigits 10 n := by
  rw [numeral, List.leftpad, Nat.sub_eq_zero_of_le h, List.replicate_zero, List.nil_append]

theorem length_toDigits_pos (n : Nat) : 0 < (Nat.toDigits 10 n).length :=
  List.length_pos_iff.mpr Nat.toDigits_ne_nil

/-- A larger number has no fewer digits. -/
theorem length_toDigits_mono (h : m ≤ n) :
    (Nat.toDigits 10 m).length ≤ (Nat.toDigits 10 n).length := by
  have hn : n < 10 ^ (Nat.toDigits 10 n).length :=
    (Nat.length_toDigits_le_iff (by decide) (length_toDigits_pos n)).mp (Nat.le_refl _)
  exact (Nat.length_toDigits_le_iff (by decide) (length_toDigits_pos n)).mpr (by omega)

/-- Two texts that end in the numerals of different numbers agree just where the larger number
begins with what the smaller one's text has more in front. -/
theorem append_numeral_eq_iff {p q : List Char} (h : m < n) :
    p ++ numeral width n = q ++ numeral width m ↔
      ∃ lead, lead ≠ [] ∧ q = p ++ lead ∧ Nat.toDigits 10 n = lead ++ numeral width m := by
  have hm := length_numeral width m
  have hn := length_numeral width n
  have hmono := length_toDigits_mono (Nat.le_of_lt h)
  constructor
  · intro heq
    have hlen := congrArg List.length heq
    rw [List.length_append, List.length_append] at hlen
    obtain ⟨lead, hq, hlead⟩ :
        ∃ lead, q = p ++ lead ∧ numeral width n = lead ++ numeral width m := by
      obtain ⟨lead, hq, hlead⟩ | ⟨lead, hp, hlead⟩ := List.append_eq_append_iff.mp heq
      · exact ⟨lead, hq, hlead⟩
      · have hnil : lead = [] := by
          rw [← List.length_eq_zero_iff]
          have := congrArg List.length hp
          rw [List.length_append] at this
          omega
        subst hnil
        exact ⟨[], by simpa using hp.symm, by simpa using hlead.symm⟩
    have hne : lead ≠ [] := by
      rintro rfl
      exact absurd (numeral_injective width hlead) (by omega)
    have hlonger : width < (numeral width n).length := by
      have := congrArg List.length hlead
      rw [List.length_append] at this
      have := List.length_pos_iff.mpr hne
      omega
    have hfull : numeral width n = Nat.toDigits 10 n := numeral_eq_toDigits (by omega)
    exact ⟨lead, hne, hq, hfull.symm.trans hlead⟩
  · rintro ⟨lead, hne, rfl, hlead⟩
    have hlonger : width ≤ (Nat.toDigits 10 n).length := by
      rw [hlead, List.length_append]
      omega
    rw [numeral_eq_toDigits hlonger, hlead, List.append_assoc]

/-- Numbers that the width is enough for are told apart behind any texts. -/
theorem not_digits_append_numeral {lead : List Char} (hw : 0 < width) (hn : n < 10 ^ width)
    (hne : lead ≠ []) : Nat.toDigits 10 n ≠ lead ++ numeral width m := by
  intro heq
  have hle : (Nat.toDigits 10 n).length ≤ width :=
    (Nat.length_toDigits_le_iff (by decide) hw).mpr hn
  have hm := length_numeral width m
  have hpos := List.length_pos_iff.mpr hne
  rw [heq, List.length_append] at hle
  omega

end JavaScript
