import Mathlib.Tactic.Common

/-!
# Unicode text

A string of the language is a list of UTF-16 code units whose surrogates need not come in pairs.
Its code points are read off with a replacement character in the place of every surrogate that
has no other half; UTF-8 carries the code points. The decoder reads a byte at a time and knows,
in the middle of a code point, what the next byte may be: bytes that cannot be a code point are
replaced too, and the byte that does not fit is read again as the first one of its own code
point.

Both encodings lose nothing: what is written is read back as the same code points.
-/

namespace Unicode

/-- What stands for what cannot be read. -/
def replacement : Char := '\uFFFD'

/-! ## UTF-16 -/

def isHighSurrogate (unit : UInt16) : Bool := 0xD800 ≤ unit.toNat && unit.toNat ≤ 0xDBFF

def isLowSurrogate (unit : UInt16) : Bool := 0xDC00 ≤ unit.toNat && unit.toNat ≤ 0xDFFF

def isSurrogate (unit : UInt16) : Bool := 0xD800 ≤ unit.toNat && unit.toNat ≤ 0xDFFF

def utf16Char (c : Char) : List UInt16 :=
  if c.toNat < 0x10000 then [.ofNat c.toNat]
  else [.ofNat (0xD800 + (c.toNat - 0x10000) / 0x400),
    .ofNat (0xDC00 + (c.toNat - 0x10000) % 0x400)]

def utf16 (text : List Char) : List UInt16 := text.flatMap utf16Char

/-- The code point of two surrogates. -/
def paired (high low : UInt16) : Char :=
  .ofNat (0x10000 + (high.toNat - 0xD800) * 0x400 + (low.toNat - 0xDC00))

/-- The code point of a unit that is not half of a pair. -/
def alone (unit : UInt16) : Char :=
  if isSurrogate unit then replacement else .ofNat unit.toNat

/-- The code points of a string. -/
def scalars : List UInt16 → List Char
  | [] => []
  | [unit] => [alone unit]
  | unit :: next :: rest =>
      if isHighSurrogate unit && isLowSurrogate next then paired unit next :: scalars rest
      else alone unit :: scalars (next :: rest)

/-- No surrogate stands alone. -/
def isWellFormed : List UInt16 → Bool
  | [] => true
  | [unit] => !isSurrogate unit
  | unit :: next :: rest =>
      if isHighSurrogate unit && isLowSurrogate next then isWellFormed rest
      else !isSurrogate unit && isWellFormed (next :: rest)

theorem toNat_ofNat_of_valid {n : Nat} (h : n.isValidChar) : (Char.ofNat n).toNat = n := by
  rw [Char.ofNat, dif_pos h]
  rfl

theorem toNat_valid (c : Char) : c.toNat < 0xD800 ∨ 0xDFFF < c.toNat ∧ c.toNat < 0x110000 :=
  c.valid

theorem utf16Char_alone {unit : UInt16} (h : isSurrogate unit = false) :
    utf16Char (alone unit) = [unit] := by
  have hlt := unit.toNat_lt
  have hvalid : unit.toNat.isValidChar := by
    simp only [isSurrogate, Bool.and_eq_false_iff, decide_eq_false_iff_not] at h
    unfold Nat.isValidChar
    omega
  have hchar : (alone unit).toNat = unit.toNat := by
    rw [alone, h]
    exact toNat_ofNat_of_valid hvalid
  rw [utf16Char, hchar, if_pos hlt, UInt16.ofNat_toNat]

theorem utf16Char_paired {high low : UInt16} (hhigh : isHighSurrogate high = true)
    (hlow : isLowSurrogate low = true) : utf16Char (paired high low) = [high, low] := by
  simp only [isHighSurrogate, isLowSurrogate, Bool.and_eq_true, decide_eq_true_eq] at hhigh hlow
  have hchar : (paired high low).toNat =
      0x10000 + (high.toNat - 0xD800) * 0x400 + (low.toNat - 0xDC00) := by
    refine toNat_ofNat_of_valid ?_
    unfold Nat.isValidChar
    omega
  have hfirst : 0xD800 + ((paired high low).toNat - 0x10000) / 0x400 = high.toNat := by omega
  have hsecond : 0xDC00 + ((paired high low).toNat - 0x10000) % 0x400 = low.toNat := by omega
  rw [utf16Char, if_neg (by omega), hfirst, hsecond, UInt16.ofNat_toNat, UInt16.ofNat_toNat]

/-- A string without lone surrogates is what its code points are written as. -/
theorem utf16_scalars {text : List UInt16} (h : isWellFormed text = true) :
    utf16 (scalars text) = text := by
  fun_induction scalars text with
  | case1 => rfl
  | case2 unit =>
      rw [isWellFormed, Bool.not_eq_true'] at h
      simp [utf16, utf16Char_alone h]
  | case3 unit next rest hpair ih =>
      rw [isWellFormed, if_pos hpair] at h
      rw [Bool.and_eq_true] at hpair
      rw [utf16, List.flatMap_cons, utf16Char_paired hpair.1 hpair.2]
      exact congrArg (unit :: next :: ·) (ih h)
  | case4 unit next rest hpair ih =>
      rw [isWellFormed, if_neg hpair, Bool.and_eq_true, Bool.not_eq_true'] at h
      rw [utf16, List.flatMap_cons, utf16Char_alone h.1]
      exact congrArg (unit :: ·) (ih h.2)

theorem scalars_cons {unit : UInt16} (h : isSurrogate unit = false) (rest : List UInt16) :
    scalars (unit :: rest) = .ofNat unit.toNat :: scalars rest := by
  have halone : alone unit = .ofNat unit.toNat := by rw [alone, h]; rfl
  have hhigh : isHighSurrogate unit = false := by
    simp only [isSurrogate, isHighSurrogate, Bool.and_eq_false_iff, decide_eq_false_iff_not] at h ⊢
    omega
  cases rest with
  | nil => simp only [scalars, halone]
  | cons next rest => rw [scalars, hhigh, Bool.false_and, if_neg Bool.false_ne_true, halone]

theorem scalars_utf16Char (c : Char) (rest : List UInt16) :
    scalars (utf16Char c ++ rest) = c :: scalars rest := by
  have hvalid := toNat_valid c
  rw [utf16Char]
  split
  · have hunit : (UInt16.ofNat c.toNat).toNat = c.toNat := by
      rw [UInt16.toNat_ofNat']
      omega
    have hplain : isSurrogate (.ofNat c.toNat) = false := by
      simp only [isSurrogate, hunit, Bool.and_eq_false_iff, decide_eq_false_iff_not]
      omega
    rw [List.singleton_append, scalars_cons hplain, hunit, Char.ofNat_toNat]
  · have hhigh : (UInt16.ofNat (0xD800 + (c.toNat - 0x10000) / 0x400)).toNat =
        0xD800 + (c.toNat - 0x10000) / 0x400 := by
      rw [UInt16.toNat_ofNat']
      omega
    have hlow : (UInt16.ofNat (0xDC00 + (c.toNat - 0x10000) % 0x400)).toNat =
        0xDC00 + (c.toNat - 0x10000) % 0x400 := by
      rw [UInt16.toNat_ofNat']
      omega
    have hpair : (isHighSurrogate (.ofNat (0xD800 + (c.toNat - 0x10000) / 0x400)) &&
        isLowSurrogate (.ofNat (0xDC00 + (c.toNat - 0x10000) % 0x400))) = true := by
      simp only [isHighSurrogate, isLowSurrogate, hhigh, hlow, Bool.and_eq_true, decide_eq_true_eq]
      omega
    have hsum : 0x10000 + (0xD800 + (c.toNat - 0x10000) / 0x400 - 0xD800) * 0x400 +
        (0xDC00 + (c.toNat - 0x10000) % 0x400 - 0xDC00) = c.toNat := by omega
    rw [List.cons_append, List.singleton_append, scalars, if_pos hpair, paired, hhigh, hlow, hsum,
      Char.ofNat_toNat]

theorem scalars_utf16 (text : List Char) : scalars (utf16 text) = text := by
  induction text with
  | nil => rfl
  | cons c text ih =>
      rw [utf16, List.flatMap_cons, scalars_utf16Char]
      exact congrArg (c :: ·) ih

/-! ## UTF-8 -/

/-- The bytes of a string. -/
def utf8 (text : List UInt16) : List UInt8 := (scalars text).flatMap String.utf8EncodeChar

/-- What has been read of a code point: how many bytes are missing, the bounds of the next one,
and the bits so far. -/
structure Pending where
  missing : Nat
  lower : Nat
  upper : Nat
  bits : Nat

/-- What the first byte of a code point beyond ASCII announces. The bounds leave out what has a
shorter form, the surrogates and what is beyond the last code point. -/
def announced (byte : Nat) : Option Pending :=
  if 0xC2 ≤ byte ∧ byte ≤ 0xDF then some ⟨1, 0x80, 0xBF, byte - 0xC0⟩
  else if 0xE0 ≤ byte ∧ byte ≤ 0xEF then
    some ⟨2, if byte = 0xE0 then 0xA0 else 0x80, if byte = 0xED then 0x9F else 0xBF, byte - 0xE0⟩
  else if 0xF0 ≤ byte ∧ byte ≤ 0xF4 then
    some ⟨3, if byte = 0xF0 then 0x90 else 0x80, if byte = 0xF4 then 0x8F else 0xBF, byte - 0xF0⟩
  else none

/-- The code points of bytes, from the middle of a code point. -/
def decodeFrom : Option Pending → List UInt8 → List Char
  | none, [] => []
  | some _, [] => [replacement]
  | none, byte :: rest =>
      if byte.toNat < 0x80 then .ofNat byte.toNat :: decodeFrom none rest
      else
        match announced byte.toNat with
        | some pending => decodeFrom (some pending) rest
        | none => replacement :: decodeFrom none rest
  | some pending, byte :: rest =>
      if pending.lower ≤ byte.toNat ∧ byte.toNat ≤ pending.upper then
        if pending.missing = 1 then
          .ofNat (pending.bits * 0x40 + (byte.toNat - 0x80)) :: decodeFrom none rest
        else
          decodeFrom (some ⟨pending.missing - 1, 0x80, 0xBF,
            pending.bits * 0x40 + (byte.toNat - 0x80)⟩) rest
      -- the byte is not of this code point and is read again as a first one
      else replacement ::
        if byte.toNat < 0x80 then .ofNat byte.toNat :: decodeFrom none rest
        else
          match announced byte.toNat with
          | some pending => decodeFrom (some pending) rest
          | none => replacement :: decodeFrom none rest

/-- The string that bytes are read as. -/
def decodeUtf8 (bytes : List UInt8) : List UInt16 := utf16 (decodeFrom none bytes)

section Reading

variable {byte : UInt8} {rest : List UInt8}

theorem decodeFrom_ascii (h : byte.toNat < 0x80) :
    decodeFrom none (byte :: rest) = .ofNat byte.toNat :: decodeFrom none rest := by
  rw [decodeFrom, if_pos h]

theorem decodeFrom_first {pending : Pending} (h : ¬ byte.toNat < 0x80)
    (hannounced : announced byte.toNat = some pending) :
    decodeFrom none (byte :: rest) = decodeFrom (some pending) rest := by
  rw [decodeFrom, if_neg h, hannounced]

theorem decodeFrom_next {missing lower upper bits : Nat} (hmissing : missing ≠ 1)
    (h : lower ≤ byte.toNat ∧ byte.toNat ≤ upper) :
    decodeFrom (some ⟨missing, lower, upper, bits⟩) (byte :: rest) =
      decodeFrom (some ⟨missing - 1, 0x80, 0xBF, bits * 0x40 + (byte.toNat - 0x80)⟩) rest := by
  rw [decodeFrom, if_pos h, if_neg hmissing]

theorem decodeFrom_last {lower upper bits : Nat} (h : lower ≤ byte.toNat ∧ byte.toNat ≤ upper) :
    decodeFrom (some ⟨1, lower, upper, bits⟩) (byte :: rest) =
      .ofNat (bits * 0x40 + (byte.toNat - 0x80)) :: decodeFrom none rest := by
  rw [decodeFrom, if_pos h, if_pos rfl]

end Reading

theorem toNat_ofNat_byte {n : Nat} (h : n < 256) : (UInt8.ofNat n).toNat = n := by
  rw [UInt8.toNat_ofNat']
  omega

/-- A code point is read back from its bytes, whatever follows. -/
theorem decodeFrom_utf8EncodeChar (c : Char) (rest : List UInt8) :
    decodeFrom none (String.utf8EncodeChar c ++ rest) = c :: decodeFrom none rest := by
  have hvalid := toNat_valid c
  have hread : ∀ n, n = c.toNat → Char.ofNat n = c := fun n hn => hn ▸ Char.ofNat_toNat c
  have hval : c.val.toNat = c.toNat := rfl
  rw [String.utf8EncodeChar, hval]
  split
  · have hbyte : (UInt8.ofNat c.toNat).toNat = c.toNat := toNat_ofNat_byte (by omega)
    rw [List.singleton_append, decodeFrom_ascii (by omega), hbyte, hread _ rfl]
  split
  · have hfirst : (UInt8.ofNat (c.toNat / 64 % 0x20 + 0xc0)).toNat = c.toNat / 64 + 0xC0 := by
      rw [toNat_ofNat_byte (by omega)]
      omega
    have hsecond : (UInt8.ofNat (c.toNat % 0x40 + 0x80)).toNat = c.toNat % 0x40 + 0x80 :=
      toNat_ofNat_byte (by omega)
    have hannounced : announced (c.toNat / 64 + 0xC0) = some ⟨1, 0x80, 0xBF, c.toNat / 64⟩ := by
      rw [announced, if_pos (by omega), Nat.add_sub_cancel]
    rw [List.cons_append, decodeFrom_first (by omega) (hfirst ▸ hannounced),
      List.singleton_append, decodeFrom_last (by omega), hread _ (by omega)]
  split
  · have hfirst : (UInt8.ofNat (c.toNat / 4096 % 0x10 + 0xe0)).toNat = c.toNat / 4096 + 0xE0 := by
      rw [toNat_ofNat_byte (by omega)]
      omega
    have hsecond : (UInt8.ofNat (c.toNat / 64 % 0x40 + 0x80)).toNat =
        c.toNat / 64 % 0x40 + 0x80 := toNat_ofNat_byte (by omega)
    have hthird : (UInt8.ofNat (c.toNat % 0x40 + 0x80)).toNat = c.toNat % 0x40 + 0x80 :=
      toNat_ofNat_byte (by omega)
    have hannounced : announced (c.toNat / 4096 + 0xE0) = some ⟨2,
        if c.toNat / 4096 + 0xE0 = 0xE0 then 0xA0 else 0x80,
        if c.toNat / 4096 + 0xE0 = 0xED then 0x9F else 0xBF, c.toNat / 4096⟩ := by
      rw [announced, if_neg (by omega), if_pos (by omega), Nat.add_sub_cancel]
    rw [List.cons_append, decodeFrom_first (by omega) (hfirst ▸ hannounced), List.cons_append,
      decodeFrom_next (by omega) (by constructor <;> split <;> omega), List.singleton_append,
      decodeFrom_last (by omega), hread _ (by omega)]
  · have hfirst : (UInt8.ofNat (c.toNat / 262144 % 0x08 + 0xf0)).toNat =
        c.toNat / 262144 + 0xF0 := by
      rw [toNat_ofNat_byte (by omega)]
      omega
    have hsecond : (UInt8.ofNat (c.toNat / 4096 % 0x40 + 0x80)).toNat =
        c.toNat / 4096 % 0x40 + 0x80 := toNat_ofNat_byte (by omega)
    have hthird : (UInt8.ofNat (c.toNat / 64 % 0x40 + 0x80)).toNat =
        c.toNat / 64 % 0x40 + 0x80 := toNat_ofNat_byte (by omega)
    have hfourth : (UInt8.ofNat (c.toNat % 0x40 + 0x80)).toNat = c.toNat % 0x40 + 0x80 :=
      toNat_ofNat_byte (by omega)
    have hannounced : announced (c.toNat / 262144 + 0xF0) = some ⟨3,
        if c.toNat / 262144 + 0xF0 = 0xF0 then 0x90 else 0x80,
        if c.toNat / 262144 + 0xF0 = 0xF4 then 0x8F else 0xBF, c.toNat / 262144⟩ := by
      rw [announced, if_neg (by omega), if_neg (by omega), if_pos (by omega), Nat.add_sub_cancel]
    rw [List.cons_append, decodeFrom_first (by omega) (hfirst ▸ hannounced), List.cons_append,
      decodeFrom_next (by omega) (by constructor <;> split <;> omega), List.cons_append,
      decodeFrom_next (by omega) (by omega), List.singleton_append,
      decodeFrom_last (by omega), hread _ (by omega)]

theorem decodeFrom_utf8EncodeChars (text : List Char) :
    decodeFrom none (text.flatMap String.utf8EncodeChar) = text := by
  induction text with
  | nil => rfl
  | cons c text ih => rw [List.flatMap_cons, decodeFrom_utf8EncodeChar, ih]

/-- What is read back is the string with its lone surrogates replaced. -/
theorem decodeUtf8_utf8 (text : List UInt16) : decodeUtf8 (utf8 text) = utf16 (scalars text) := by
  rw [decodeUtf8, utf8, decodeFrom_utf8EncodeChars]

theorem utf8_decodeUtf8_utf8 (text : List UInt16) : utf8 (decodeUtf8 (utf8 text)) = utf8 text := by
  rw [decodeUtf8_utf8, utf8, scalars_utf16, utf8]

end Unicode
