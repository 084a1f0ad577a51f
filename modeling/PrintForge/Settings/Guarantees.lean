import Mathlib.Data.List.DropRight
import PrintForge.Checkout.Prices
import PrintForge.Concurrent.Discipline
import PrintForge.Settings.Service

/-!
# Settings in normal form

Every check leaves what it has accepted as it is: what is stored, and what is shown, may be given
to it again, and nothing changes. So the tables only ever hold settings in normal form, each in the
table of its owner, whoever changes which of them when.

The service that places orders may rely on this. It finds a rate that it can compute with, prices
that include the tax, and a shipping fee that is an amount.
-/

namespace PrintForge.Settings

open Relational Concurrent Numeric JavaScript Checkout

variable {decimalOf : String → DecimalText} {raw value key : String}

/-! ## Texts -/

/-- Taking off the end leaves a front from which nothing is to be taken off. -/
theorem dropWhile_front {α : Type} {p : α → Bool} {l : List α} (h : l.dropWhile p = l) :
    (l.reverse.dropWhile p).reverse.dropWhile p = (l.reverse.dropWhile p).reverse := by
  cases hfront : (l.reverse.dropWhile p).reverse with
  | nil => rfl
  | cons a front =>
      have hprefix : (l.reverse.dropWhile p).reverse <+: l := by
        rw [← List.reverse_suffix, List.reverse_reverse]
        exact List.dropWhile_suffix _
      obtain ⟨more, hmore⟩ := hprefix
      rw [hfront] at hmore
      have hfirst : ¬ p a = true := by
        intro hp
        rw [← hmore, List.cons_append, List.dropWhile_cons_of_pos hp] at h
        have hlength := congrArg List.length h
        have hle := (List.dropWhile_suffix p (l := front ++ more)).length_le
        rw [List.length_cons] at hlength
        omega
      rw [List.dropWhile_cons_of_neg hfirst]

theorem trim_trim (s : String) : trim (trim s) = trim s := by
  have hdrop : (s.toList.dropWhile isWhiteSpace).dropWhile isWhiteSpace =
      s.toList.dropWhile isWhiteSpace := List.dropWhile_idempotent _ _
  have htrimmed : (trim s).toList =
      ((s.toList.dropWhile isWhiteSpace).reverse.dropWhile isWhiteSpace).reverse :=
    String.toList_ofList
  unfold trim at htrimmed ⊢
  rw [htrimmed, dropWhile_front hdrop, List.reverse_reverse, List.dropWhile_idempotent _ _]

/-- A text of plain characters has nothing to take off and nothing to turn into a capital. -/
theorem upper_trim_of_plain (h : ∀ c ∈ value.toList, isWhiteSpace c = false ∧ upperCase c = [c]) :
    toUpperCase (trim value) = value := by
  rw [trim_eq_self fun c hc => (h c hc).1, toUpperCase]
  have hsame : value.toList.flatMap upperCase = value.toList := by
    calc value.toList.flatMap upperCase = value.toList.flatMap fun c => [c] :=
          List.flatMap_congr fun c hc => (h c hc).2
      _ = value.toList := List.flatMap_singleton' _
  rw [hsame, String.ofList_toList]

theorem plain_of_ascii {c : Char}
    (h : isCapitalOrDigit c = true ∨ c = '/' ∨ c = '-' ∨ c = '.') :
    isWhiteSpace c = false ∧ upperCase c = [c] := by
  have hascii : ∀ n : Fin 128, isCapitalOrDigit (Char.ofNat n) = true ∨ Char.ofNat n = '/' ∨
      Char.ofNat n = '-' ∨ Char.ofNat n = '.' →
        isWhiteSpace (Char.ofNat n) = false ∧ upperCase (Char.ofNat n) = [Char.ofNat n] := by
    decide +kernel
  have hlt : c.toNat < 128 := by
    obtain h | rfl | rfl | rfl := h
    · have hupper : c.isUpper = decide (c.val ≥ 'A'.val ∧ c.val ≤ 'Z'.val) := rfl
      simp only [isCapitalOrDigit, hupper, Char.isDigit, Bool.or_eq_true, Bool.and_eq_true,
        decide_eq_true_eq, ge_iff_le, UInt32.le_iff_toNat_le] at h
      have hcode : c.toNat = c.val.toNat := rfl
      have hfirst : 'A'.val.toNat = 65 := rfl
      have hlast : 'Z'.val.toNat = 90 := rfl
      have hnine : '9'.val.toNat = 57 := rfl
      omega
    · decide
    · decide
    · decide
  have hplain := hascii ⟨c.toNat, hlt⟩
  rw [Char.ofNat_toNat] at hplain
  exact hplain h

/-! ## Amounts -/

theorem hundredths_of_value {d : Decimal} {k : Nat} (h : d.value = k / 100) :
    d.isNegative = false ∧ d.toDecimalPlaces 2 = k ∧
      ∀ n : Nat, d.greaterThan n = false ↔ k ≤ n * 100 := by
  have hnonneg : 0 ≤ d.value := by
    rw [h]
    positivity
  have hcoeff := Decimal.value_nonneg.mp hnonneg
  refine ⟨Decimal.isNegative_eq_false.mpr hnonneg, ?_, fun n => ?_⟩
  · rw [Decimal.toDecimalPlaces_eq_round hcoeff, h,
      show (k : ℚ) / 100 * 10 ^ 2 = (k : Int) by push_cast; ring, round_intCast]
  · rw [Decimal.greaterThan_eq_false, h, div_le_iff₀ (by norm_num)]
    norm_cast

theorem decimalToPaise_of_value {d : Decimal} {k : Nat} (h : d.value = k / 100)
    (hk : k < 10 ^ Decimal.precision) : decimalToPaise d = k := by
  have hvalue : d.value * (Decimal.ofInt 100).value = (k : Int) := by
    rw [h, Decimal.value, Decimal.ofInt]
    push_cast
    ring
  have htimes : (d.times (Decimal.ofInt 100)).value = (k : Int) := by
    rw [Decimal.value_times k 0 (by rw [hvalue]; simp) hk, hvalue]
  have hnonneg : 0 ≤ (d.times (Decimal.ofInt 100)).value := by
    rw [htimes]
    positivity
  rw [decimalToPaise, Decimal.toDecimalPlacesZero_eq_round (Decimal.value_nonneg.mp hnonneg),
    htimes, round_intCast]

/-- A numeral denotes a whole number of hundredths. -/
theorem reads_hundredths (hreads : ReadsNumerals decimalOf)
    (h : (percentPattern raw.toList).isNone ≠ true) :
    ∃ (d : Decimal) (k : Nat), decimalOf raw = .finite d ∧ d.value = k / 100 := by
  obtain ⟨⟨whole, fraction⟩, hpattern⟩ := Option.ne_none_iff_exists'.mp
    (mt Option.isNone_iff_eq_none.mpr h)
  obtain ⟨d, hd, hvalue⟩ := hreads _ _ _ hpattern
  obtain ⟨k, hk⟩ := percentPattern_hundredths hpattern
  exact ⟨d, k, hd, hvalue.trans hk⟩

theorem reads_paise (hreads : ReadsNumerals decimalOf) (k : Nat) :
    ∃ d, decimalOf (paiseToDecimalString k) = .finite d ∧ d.value = k / 100 := by
  obtain ⟨d, hd, hvalue⟩ := hreads _ _ _ (percentPattern_paise k)
  exact ⟨d, hd, hvalue.trans (plainValue_paise k)⟩

theorem trim_paise (k : Nat) : trim (paiseToDecimalString k) = paiseToDecimalString k := by
  refine trim_eq_self fun c hc => ?_
  rw [toList_paiseToDecimalString, List.mem_append, List.mem_cons] at hc
  have hdigit : c.isDigit = true → isCapitalOrDigit c = true := fun h => by
    rw [isCapitalOrDigit, h, Bool.or_true]
  obtain hc | rfl | hc := hc
  · have hdigits : c.isDigit = true := Nat.isDigit_of_mem_toDigits (by decide) (by decide) hc
    exact (plain_of_ascii (.inl (hdigit hdigits))).1
  · decide
  · exact (plain_of_ascii (.inl (hdigit (isDigit_numeral _ _ c hc)))).1

theorem paise_ne_empty (k : Nat) : paiseToDecimalString k ≠ "" := by
  intro h
  have htext := congrArg String.toList h
  rw [toList_paiseToDecimalString] at htext
  simp at htext

/-- What is accepted as an amount is stored as a whole number of paise within the bound. -/
theorem normalizeMoney_ok (hreads : ReadsNumerals decimalOf)
    (h : normalizeMoney decimalOf raw = .ok value) :
    ∃ k : Nat, k ≤ maxShippingFeeRupees * 100 ∧ value = paiseToDecimalString k := by
  simp only [normalizeMoney] at h
  split at h
  · cases h
  · split at h
    · cases h
    · next hpattern =>
      obtain ⟨d, k, hd, hvalue⟩ := reads_hundredths hreads hpattern
      obtain ⟨hnonneg, hplaces, hgreater⟩ := hundredths_of_value hvalue
      rw [hd] at h
      dsimp only at h
      rw [hnonneg, hplaces] at h
      split at h
      · next hnegative => cases hnegative
      · split at h
        · cases h
        · next hle =>
          cases h
          exact ⟨k, (hgreater _).mp (by simpa using hle), rfl⟩

theorem normalizeMoney_paise (hreads : ReadsNumerals decimalOf) {k : Nat}
    (hk : k ≤ maxShippingFeeRupees * 100) :
    normalizeMoney decimalOf (paiseToDecimalString k) = .ok (paiseToDecimalString k) := by
  obtain ⟨d, hd, hvalue⟩ := reads_paise hreads k
  obtain ⟨hnonneg, hplaces, hgreater⟩ := hundredths_of_value hvalue
  simp only [normalizeMoney, trim_paise]
  rw [if_neg (paise_ne_empty k), percentPattern_paise, hd]
  simp [hnonneg, hplaces, (hgreater _).mpr hk, pure, Except.pure]

/-! ## Checks -/

/-- What the check has accepted it leaves as it is. -/
def Stable (normalize : Normalize) : Prop :=
  ∀ raw value, normalize raw = .ok value → normalize value = .ok value

theorem stable_normalizeMoney (hreads : ReadsNumerals decimalOf) :
    Stable (normalizeMoney decimalOf) := by
  intro raw value h
  obtain ⟨k, hk, rfl⟩ := normalizeMoney_ok hreads h
  exact normalizeMoney_paise hreads hk

/-- What is accepted as a rate is stored as a whole number of hundredths of a percent. -/
theorem normalizePercent_eq (hreads : ReadsNumerals decimalOf)
    (h : normalizePercent decimalOf raw = .ok value) :
    ∃ k : Nat, k ≤ 10000 ∧ value = paiseToDecimalString k := by
  simp only [normalizePercent] at h
  split at h
  · cases h
  · next hpattern =>
    obtain ⟨d, k, hd, hvalue⟩ := reads_hundredths hreads hpattern
    obtain ⟨hnonneg, hplaces, hgreater⟩ := hundredths_of_value hvalue
    rw [hd] at h
    dsimp only at h
    rw [hnonneg, hplaces, Bool.false_or] at h
    split at h
    · cases h
    · next hle =>
      cases h
      exact ⟨k, (hgreater 100).mp (Bool.eq_false_iff.mpr hle), rfl⟩

theorem normalizePercent_paise (hreads : ReadsNumerals decimalOf) {k : Nat} (hk : k ≤ 10000) :
    normalizePercent decimalOf (paiseToDecimalString k) = .ok (paiseToDecimalString k) := by
  obtain ⟨d, hd, hvalue⟩ := reads_paise hreads k
  obtain ⟨hnonneg, hplaces, hgreater⟩ := hundredths_of_value hvalue
  have hle : d.greaterThan 100 = false := (hgreater 100).mpr hk
  simp only [normalizePercent, trim_paise]
  rw [percentPattern_paise, hd]
  simp [hnonneg, hplaces, hle, pure, Except.pure]

theorem stable_normalizePercent (hreads : ReadsNumerals decimalOf) :
    Stable (normalizePercent decimalOf) := by
  intro raw value h
  obtain ⟨k, hk, rfl⟩ := normalizePercent_eq hreads h
  exact normalizePercent_paise hreads hk

theorem stable_boundedText (max : Nat) (label : String) : Stable (boundedText max label) := by
  intro raw value h
  simp only [boundedText] at h
  split at h
  · cases h
  · next hle =>
    cases h
    simp only [boundedText, trim_trim]
    rw [if_neg hle]
    rfl

theorem stable_normalizeStoreName : Stable normalizeStoreName := by
  intro raw value h
  simp only [normalizeStoreName] at h
  split at h
  · cases h
  · next hne =>
    split at h
    · cases h
    · next hle =>
      cases h
      simp only [normalizeStoreName, trim_trim]
      rw [if_neg hne, if_neg hle]
      rfl

theorem stable_normalizeBoolean : Stable normalizeBoolean := by
  intro raw value h
  simp only [normalizeBoolean] at h
  split at h
  · cases h
  · next hboolean =>
    obtain rfl := Except.ok.inj h
    obtain htrue | hfalse := Decidable.not_and_iff_not_or_not.mp hboolean
    · rw [not_not.mp htrue]
      decide +kernel
    · rw [not_not.mp hfalse]
      decide +kernel

theorem stable_normalizeTaxPricingMode : Stable normalizeTaxPricingMode := by
  intro raw value h
  simp only [normalizeTaxPricingMode] at h
  split at h
  · next hmem =>
    cases h
    simp only [normalizeTaxPricingMode, trim_trim]
    rw [if_pos hmem]
    rfl
  · split at h
    · cases h
    · cases h

theorem matchesClasses_plain {classes : List (Char → Bool)} {text : List Char}
    (h : matchesClasses classes text = true)
    (hclasses : ∀ p ∈ classes, ∀ c, p c = true → isCapitalOrDigit c = true) :
    ∀ c ∈ text, isCapitalOrDigit c = true := by
  induction classes generalizing text with
  | nil =>
      cases text with
      | nil => exact fun c hc => by cases hc
      | cons c cs => cases h
  | cons p ps ih =>
      cases text with
      | nil => cases h
      | cons c cs =>
          obtain ⟨hfirst, hrest⟩ := (Bool.and_eq_true ..).mp h
          intro c' hc'
          obtain rfl | hlater := List.mem_cons.mp hc'
          · exact hclasses p List.mem_cons_self c' hfirst
          · exact ih hrest (fun q hq => hclasses q (List.mem_cons_of_mem p hq)) c' hlater

theorem gstinPattern_plain : ∀ p ∈ gstinPattern, ∀ c, p c = true → isCapitalOrDigit c = true := by
  intro p hp c hc
  have hclass : p = Char.isDigit ∨ p = Char.isUpper ∨ p = isCapitalOrDigit ∨
      p = fun c => decide (c = 'Z') := by
    simp only [gstinPattern, List.mem_append, List.mem_replicate, List.mem_cons] at hp
    simp only [List.not_mem_nil, or_false] at hp
    tauto
  obtain rfl | rfl | rfl | rfl := hclass
  · rw [isCapitalOrDigit, hc, Bool.or_true]
  · rw [isCapitalOrDigit, hc, Bool.true_or]
  · exact hc
  · rw [of_decide_eq_true hc]
    rfl

theorem stable_normalizeGstin : Stable normalizeGstin := by
  intro raw value h
  simp only [normalizeGstin] at h
  generalize toUpperCase (trim raw) = v at h
  split at h
  · cases h
    rfl
  · next hne =>
    split at h
    · cases h
    · next hmatches =>
      obtain rfl := Except.ok.inj h
      have hplain := matchesClasses_plain (Bool.not_eq_false _ |>.mp hmatches) gstinPattern_plain
      have hsame : toUpperCase (trim v) = v :=
        upper_trim_of_plain fun c hc => plain_of_ascii (.inl (hplain c hc))
      simp only [normalizeGstin, hsame]
      rw [if_neg hne, if_neg hmatches]
      rfl

theorem stable_normalizeInvoicePrefix : Stable Invoices.normalizeInvoicePrefix := by
  intro raw value h
  unfold Invoices.normalizeInvoicePrefix at h ⊢
  dsimp only at h ⊢
  generalize toUpperCase (trim raw) = v at h
  split at h
  · next haccepted =>
    obtain rfl := Except.ok.inj h
    simp only [Bool.and_eq_true] at haccepted
    have hplain : ∀ c ∈ v.toList, isWhiteSpace c = false ∧ upperCase c = [c] := by
      intro c hc
      have hclass := List.all_eq_true.mp haccepted.1.1 c hc
      simp only [Invoices.isPrefixCharacter, Bool.or_eq_true, decide_eq_true_eq] at hclass
      refine plain_of_ascii ?_
      simp only [isCapitalOrDigit, Bool.or_eq_true]
      tauto
    rw [upper_trim_of_plain hplain, if_pos]
    simpa only [Bool.and_eq_true] using haccepted
  · cases h

theorem stable_normalizers (hreads : ReadsNumerals decimalOf) :
    ∀ normalize ∈ (normalizers decimalOf).map (·.2), Stable normalize := by
  simp only [normalizers, List.map_cons, List.map_nil, List.forall_mem_cons]
  refine ⟨stable_normalizeMoney hreads, stable_boundedText _ _, stable_normalizeStoreName,
    stable_boundedText _ _, stable_normalizeBoolean, stable_normalizeTaxPricingMode,
    stable_normalizePercent hreads, stable_normalizeInvoicePrefix, stable_boundedText _ _,
    stable_boundedText _ _, stable_normalizeGstin, stable_boundedText _ _, ?_⟩
  exact fun _ h => by cases h

theorem normalizeAdminSettingValue_again (hreads : ReadsNumerals decimalOf)
    (h : normalizeAdminSettingValue decimalOf key raw = .ok value) :
    normalizeAdminSettingValue decimalOf key value = .ok value := by
  unfold normalizeAdminSettingValue at h ⊢
  cases hlookup : (normalizers decimalOf).lookup key with
  | none =>
      rw [hlookup] at h
      cases h
  | some normalize =>
      rw [hlookup] at h
      obtain ⟨before, after, hentries, -⟩ := List.lookup_eq_some_iff.mp hlookup
      have hmem : normalize ∈ (normalizers decimalOf).map (·.2) := by
        rw [hentries, List.map_append]
        exact List.mem_append_right _ List.mem_cons_self
      exact stable_normalizers hreads normalize hmem raw value h

/-- Every default passes its own check, and is left as it is. -/
theorem normalizeAdminSettingValue_default (hreads : ReadsNumerals decimalOf) :
    ∀ definition ∈ adminSettingDefinitions,
      normalizeAdminSettingValue decimalOf definition.key definition.default =
        .ok definition.default := by
  intro definition hdefinition
  have hmoney : normalizeMoney decimalOf "0.00" = .ok "0.00" :=
    normalizeMoney_paise hreads (k := 0) (Nat.zero_le _)
  have hpercent : normalizePercent decimalOf "0.00" = .ok "0.00" :=
    normalizePercent_paise hreads (k := 0) (Nat.zero_le _)
  have hprefix : Invoices.normalizeInvoicePrefix "INV-" = .ok "INV-" := by decide +kernel
  simp only [adminSettingDefinitions, List.mem_cons, List.not_mem_nil, or_false] at hdefinition
  obtain rfl | rfl | rfl | rfl | rfl | rfl | rfl | rfl | rfl | rfl | rfl | rfl := hdefinition
  · exact (by decide +kernel : normalizeStoreName "PrintForge" = .ok "PrintForge")
  · exact (by decide +kernel : boundedText maxStoreAdminNameLength "Store admin name" "" = .ok "")
  · exact hmoney
  · exact (by decide +kernel : boundedText maxAnnouncementLength "Announcement text" "" = .ok "")
  · exact (by decide +kernel : normalizeBoolean "false" = .ok "false")
  · exact (by decide +kernel : normalizeTaxPricingMode "INCLUSIVE" = .ok "INCLUSIVE")
  · exact hpercent
  · exact hprefix
  · exact (by decide +kernel : boundedText maxNameLength "Legal name" "" = .ok "")
  · exact (by decide +kernel : boundedText maxAddressLength "Address" "" = .ok "")
  · exact (by decide +kernel : normalizeGstin "" = .ok "")
  · exact (by decide +kernel : boundedText maxNameLength "State" "" = .ok "")

/-! ## Tables -/

/-- A setting that may be administered is in its owner's table, as its check leaves it. -/
def Normal (decimalOf : String → DecimalText) (ownership : SettingOwnership) (setting : Setting) :
    Prop :=
  ∀ definition, getAdminSettingDefinition setting.name = some definition →
    definition.ownership = ownership ∧
      normalizeAdminSettingValue decimalOf setting.name setting.value = .ok setting.value

structure InOrder (decimalOf : String → DecimalText) (w : World) : Prop where
  tenant : ∀ setting ∈ w.tenantSettings, Normal decimalOf .tenant setting
  store : ∀ setting ∈ w.storeSettings, Normal decimalOf .store setting

variable {w w' : World} {definition : AdminSettingDefinition} {settings : Table Setting}

theorem definition_key (h : getAdminSettingDefinition key = some definition) :
    definition ∈ adminSettingDefinitions ∧ definition.key = key :=
  ⟨List.mem_of_find?_eq_some h, by simpa using List.find?_some h⟩

/-- What the statement leaves in the table is what was there, and the setting it has written. -/
theorem upsert_ok {T : Slot World Setting} {ownerId : Nat} {row : Setting}
    (h : upsert T ownerId key value w = .ok (row, w')) :
    ∃ t, w' = T.set t w ∧ ∀ setting ∈ t,
      setting ∈ T.get w ∨ setting.name = key ∧ setting.value = value := by
  rw [upsert, Tx.bind_read] at h
  cases hstored : (T.get w).findFirst fun s => s.ownerId = ownerId && s.name = key with
  | none =>
      rw [hstored] at h
      obtain ⟨t, ht, -, rfl⟩ := Slot.create_ok h
      refine ⟨t, rfl, fun setting hsetting => ?_⟩
      obtain hold | rfl := (Table.mem_create ht).mp hsetting
      · exact .inl hold
      · exact .inr ⟨rfl, rfl⟩
  | some stored =>
      rw [hstored] at h
      obtain ⟨r₀, t, -, ht, -, rfl⟩ := Slot.update_ok h
      obtain ⟨hmem, hp⟩ := Table.findFirst_some hstored
      have hname : stored.name = key := by simpa using ((Bool.and_eq_true ..).mp hp).2
      refine ⟨t, rfl, fun setting hsetting => ?_⟩
      obtain ⟨r, hr, rfl⟩ := (Table.mem_update ht).mp hsetting
      split
      · next hkey =>
        rw [Table.eq_of_key hr hmem (of_decide_eq_true hkey)]
        exact .inr ⟨hname, rfl⟩
      · exact .inl hr

/-- What passes its check may be stored. -/
theorem normal_written {ownership : SettingOwnership} {setting : Setting}
    (hreads : ReadsNumerals decimalOf) (hfound : getAdminSettingDefinition key = some definition)
    (howner : definition.ownership = ownership)
    (hvalue : normalizeAdminSettingValue decimalOf key raw = .ok value)
    (hname : setting.name = key) (hsetting : setting.value = value) :
    Normal decimalOf ownership setting := by
  intro definition' hdefinition'
  rw [hname, hfound] at hdefinition'
  cases hdefinition'
  rw [hname, hsetting]
  exact ⟨howner, normalizeAdminSettingValue_again hreads hvalue⟩

/-- A value that has passed its check may be written to the table of its owner. -/
theorem upsert_normal {ownership : SettingOwnership} {T : Slot World Setting} {ownerId : Nat}
    {row : Setting} (hreads : ReadsNumerals decimalOf)
    (hfound : getAdminSettingDefinition key = some definition)
    (howner : definition.ownership = ownership)
    (hvalue : normalizeAdminSettingValue decimalOf key raw = .ok value)
    (hnormal : ∀ setting ∈ T.get w, Normal decimalOf ownership setting)
    (h : upsert T ownerId key value w = .ok (row, w')) :
    ∃ t, w' = T.set t w ∧ ∀ setting ∈ t, Normal decimalOf ownership setting := by
  obtain ⟨t, rfl, ht⟩ := upsert_ok h
  refine ⟨t, rfl, fun setting hsetting => ?_⟩
  obtain hold | ⟨hname, hset⟩ := ht setting hsetting
  · exact hnormal setting hold
  · exact normal_written hreads hfound howner hvalue hname hset

/-! ## Readings -/

/-- A setting that is shown has a value that its check leaves as it is. -/
def Shown (decimalOf : String → DecimalText) (view : AdminSettingView) : Prop :=
  view.definition ∈ adminSettingDefinitions ∧
    normalizeAdminSettingValue decimalOf view.definition.key view.value = .ok view.value

def AllNormal (decimalOf : String → DecimalText) (values : List (String × String)) : Prop :=
  ∀ entry ∈ values, normalizeAdminSettingValue decimalOf entry.1 entry.2 = .ok entry.2

theorem allNormal_manyValues {ownership : SettingOwnership} {ownerId : Nat}
    (h : ∀ setting ∈ settings, Normal decimalOf ownership setting) :
    AllNormal decimalOf (manyValues settings ownerId (keysOf ownership)) := by
  intro entry hentry
  obtain ⟨setting, hsetting, rfl⟩ := List.mem_map.mp hentry
  obtain ⟨hmem, hp⟩ := List.mem_filter.mp hsetting
  have hkey : setting.name ∈ keysOf ownership :=
    List.contains_iff_mem.mp ((Bool.and_eq_true ..).mp hp).2
  obtain ⟨definition, hdefinition, hname⟩ := List.mem_map.mp hkey
  have hsome : (getAdminSettingDefinition setting.name).isSome = true :=
    List.find?_isSome.mpr ⟨definition, List.mem_of_mem_filter hdefinition, decide_eq_true hname⟩
  obtain ⟨found, hfound⟩ := Option.isSome_iff_exists.mp hsome
  exact (h setting hmem found hfound).2

theorem shown_of_values (hreads : ReadsNumerals decimalOf) {values : List (String × String)}
    (h : AllNormal decimalOf values) (hdefinition : definition ∈ adminSettingDefinitions) :
    Shown decimalOf ⟨definition, (values.lookup definition.key).getD definition.default⟩ := by
  refine ⟨hdefinition, ?_⟩
  cases hlookup : values.lookup definition.key with
  | none => exact normalizeAdminSettingValue_default hreads definition hdefinition
  | some stored =>
      obtain ⟨before, after, hvalues, -⟩ := List.lookup_eq_some_iff.mp hlookup
      refine h (definition.key, stored) ?_
      rw [hvalues]
      exact List.mem_append_right before List.mem_cons_self

/-! ## Runs -/

/-- Every commit leaves the tables in order, and nothing else is relied on. -/
def discipline (decimalOf : String → DecimalText) : Discipline World Commit where
  inv := InOrder decimalOf
  ok _ _ := True
  rely _ _ _ := True
  guar _ _ _ w' := InOrder decimalOf w'
  rely_refl _ _ := trivial
  rely_trans _ _ := trivial
  inv_guar _ _ h := h
  rely_guar _ _ _ _ := trivial

/-- What an answer shows. -/
def Answered (decimalOf : String → DecimalText) (views : List AdminSettingView) (_ : World) :
    Prop :=
  ∀ view ∈ views, Shown decimalOf view

variable {i : Nat} {w₀ : World} {c : SettingsConfig}

theorem safe_resolvePrimaryStoreId {tenantId : Nat} :
    (discipline decimalOf).Safe i (Discipline.Returns fun _ _ => True)
      (resolvePrimaryStoreId tenantId) w := by
  intro w' _ _
  show (discipline decimalOf).Safe i _ (Proc.onResult _ (.ok _)) w'
  unfold Proc.onResult
  dsimp only
  split
  · exact Discipline.safe_throw _
  · exact Discipline.safe_pure fun _ _ => trivial

theorem safe_listConfigurable (hreads : ReadsNumerals decimalOf) {tenantId : Nat}
    (hw : InOrder decimalOf w) :
    (discipline decimalOf).Safe i (Discipline.Returns (Answered decimalOf))
      (listConfigurable tenantId) w := by
  have htenant : (discipline decimalOf).Safe i
      (Discipline.Returns fun values _ => AllNormal decimalOf values)
      (getManyTenantValues tenantId (keysOf .tenant)) w :=
    fun w' _ hinv => Discipline.safe_pure fun _ _ => allNormal_manyValues hinv.tenant
  have hstore : ∀ w, InOrder decimalOf w → (discipline decimalOf).Safe i
      (Discipline.Returns fun values _ => AllNormal decimalOf values)
      (getManyStoreValuesForTenant tenantId (keysOf .store)) w := by
    intro w hw
    refine safe_resolvePrimaryStoreId.bind_returns hw fun w storeId _ _ => ?_
    exact fun w' _ hinv => Discipline.safe_pure fun _ _ => allNormal_manyValues hinv.store
  refine htenant.bind_returns hw fun w₁ tenantValues hw₁ htenantValues => ?_
  refine (hstore w₁ hw₁).bind_returns hw₁ fun w₂ storeValues _ hstoreValues => ?_
  refine Discipline.safe_pure fun _ _ view hview => ?_
  obtain ⟨definition, hdefinition, rfl⟩ := List.mem_map.mp hview
  refine shown_of_values hreads (fun entry hentry => ?_) hdefinition
  obtain hfirst | hsecond := List.mem_append.mp hentry
  · exact hstoreValues entry hfirst
  · exact htenantValues entry hsecond

/-- A commit that leaves the tables in order, and what is answered after it. -/
theorem safe_commit {ℓ : Commit} {α β : Type} {tx : Transaction α} {b : β}
    {P : β → World → Prop}
    (htx : ∀ w a w', InOrder decimalOf w → tx w = .ok (a, w') → InOrder decimalOf w')
    (hP : ∀ w, P b w) : (discipline decimalOf).Safe i (Discipline.Returns P)
      (Proc.transact ℓ tx >>= fun _ => pure b) w := by
  refine Discipline.safe_transact (fun w₁ a w₂ _ hinv _ hok => ?_) fun w₁ e _ hinv _ _ => ?_
  · exact ⟨htx w₁ a w₂ hinv hok, fun _ => Discipline.safe_pure fun w₃ _ => hP w₃⟩
  · exact ⟨hinv, Discipline.safe_throw e⟩

theorem safe_updateConfigurable (hreads : ReadsNumerals decimalOf) {tenantId : Nat}
    (hw : InOrder decimalOf w) :
    (discipline decimalOf).Safe i (Discipline.Returns fun view _ => Shown decimalOf view)
      (updateConfigurable decimalOf tenantId key raw) w := by
  unfold updateConfigurable
  split
  · exact Discipline.safe_throw _
  · next definition hfound =>
    split
    · exact Discipline.safe_throw _
    · next value hvalue =>
      obtain ⟨hmem, hkey⟩ := definition_key hfound
      have hshown : Shown decimalOf ⟨definition, value⟩ := by
        refine ⟨hmem, ?_⟩
        rw [hkey]
        exact normalizeAdminSettingValue_again hreads hvalue
      split
      · next howner =>
        refine safe_commit (fun w a w' hw hok => ?_) fun _ => hshown
        obtain ⟨t, rfl, ht⟩ := upsert_normal hreads hfound howner hvalue hw.tenant hok
        exact ⟨ht, hw.store⟩
      · next howner =>
        refine safe_resolvePrimaryStoreId.bind_returns hw fun w storeId _ _ => ?_
        refine safe_commit (fun w a w' hw hok => ?_) fun _ => hshown
        obtain ⟨t, rfl, ht⟩ := upsert_normal hreads hfound howner hvalue hw.store hok
        exact ⟨hw.tenant, ht⟩

theorem safe_serve (hreads : ReadsNumerals decimalOf) (i : Nat) (req : Request)
    (hw : InOrder decimalOf w) :
    (discipline decimalOf).Safe i (Discipline.Returns (Answered decimalOf))
      (serve decimalOf i req) w := by
  cases req with
  | listConfigurable tenantId => exact safe_listConfigurable hreads hw
  | updateConfigurable tenantId key raw =>
      have hone : serve decimalOf i (.updateConfigurable tenantId key raw) =
          (updateConfigurable decimalOf tenantId key raw >>= fun view => pure [view]) := rfl
      rw [hone]
      refine (safe_updateConfigurable hreads hw).bind_returns hw fun w₁ view _ hview => ?_
      refine Discipline.safe_pure fun _ _ shown hshown => ?_
      rw [List.mem_singleton.mp hshown]
      exact hview
  | writeStores stores =>
      intro w' _ hinv _
      exact ⟨⟨hinv.tenant, hinv.store⟩, Discipline.safe_pure fun _ _ view hview => by cases hview⟩

theorem holds_of_reaches (hreads : ReadsNumerals decimalOf) (hstart : InOrder decimalOf w₀)
    (hrun : Reaches decimalOf ⟨w₀, []⟩ c) :
    (discipline decimalOf).Holds (fun _ _ => Discipline.Returns (Answered decimalOf)) c :=
  (Discipline.holds_idle hstart).run (Nat.zero_le _)
    (fun i req _ _ hinv _ => safe_serve hreads i req hinv) hrun

/-- Whoever changes which settings when, each of them is in its owner's table in the form that its
check has given it. What any call shows, the defaults among it, may be saved as it is shown, and
stays so. -/
theorem settings_in_order (hreads : ReadsNumerals decimalOf) (hstart : InOrder decimalOf w₀)
    (hrun : Reaches decimalOf ⟨w₀, []⟩ c) :
    InOrder decimalOf c.state ∧
      ∀ (i : Nat) req views, c.flights[i]? = some (req, .done (.ok views)) →
        ∀ view ∈ views, Shown decimalOf view := by
  have hholds := holds_of_reaches hreads hstart hrun
  exact ⟨hholds.inv, fun i req views hi => hholds.outcome hi views rfl⟩

/-- A tenant with a primary store, before anything has been set. -/
def exampleWorld : World where
  stores := exampleShop.stores
  storeSettings := .empty
  tenantSettings := .empty

def setRate : Request := .updateConfigurable 0 "tax.ratePercent" " 18 "

def setFee : Request := .updateConfigurable 0 shippingFeeSettingKey "49.5"

/-- The fee is set while the settings are being listed. -/
def exampleSchedule : List (Action Request) :=
  [.accept setRate, .advance 0, .accept (.listConfigurable 0), .accept setFee, .advance 1,
    .advance 2, .advance 1, .advance 2, .advance 1]

theorem exampleSchedule_reaches : ∃ c, Reaches readNumeral ⟨exampleWorld, []⟩ c ∧
    (∃ req views, c.flights[1]? = some (req, .done (.ok views)) ∧ views.length = 12) ∧
    c.state.tenantSettings.rows.map (·.value) = ["18.00"] ∧
      c.state.storeSettings.rows.map (·.value) = ["49.50"] := by
  have hcalls : (exec (serve readNumeral) (fun _ _ => True) (fun _ _ => True) exampleSchedule
      ⟨exampleWorld, []⟩).any (fun c =>
        (c.answer 1).any (fun a => a.2.toOption.any fun views => views.length = 12) &&
        decide (c.state.tenantSettings.rows.map (·.value) = ["18.00"] ∧
          c.state.storeSettings.rows.map (·.value) = ["49.50"])) = true := by
    decide +kernel
  obtain ⟨c, hrun, h⟩ := exec_any hcalls
  obtain ⟨hlisted, hset⟩ := (Bool.and_eq_true ..).mp h
  obtain ⟨⟨req, r⟩, hanswer, hok⟩ := (Option.any_eq_true ..).mp hlisted
  obtain ⟨views, rfl, hviews⟩ := Tx.exists_ok hok
  exact ⟨c, hrun, ⟨req, views, Config.flight_of_answer hanswer, of_decide_eq_true hviews⟩,
    of_decide_eq_true hset⟩

theorem inOrder_exampleWorld : InOrder readNumeral exampleWorld :=
  ⟨fun _ hsetting => absurd hsetting List.not_mem_nil,
    fun _ hsetting => absurd hsetting List.not_mem_nil⟩

/-- A rate and a fee are set, and what is listed meanwhile is in order. -/
theorem settings_in_order_twelve : ∃ c, Reaches readNumeral ⟨exampleWorld, []⟩ c ∧
    c.state.tenantSettings.rows.map (·.value) = ["18.00"] ∧
    c.state.storeSettings.rows.map (·.value) = ["49.50"] ∧ InOrder readNumeral c.state ∧
    ∃ req views, c.flights[1]? = some (req, .done (.ok views)) ∧ views.length = 12 ∧
      ∀ view ∈ views, Shown readNumeral view := by
  obtain ⟨c, hrun, ⟨req, views, hflight, hlength⟩, hrate, hfee⟩ := exampleSchedule_reaches
  obtain ⟨hinv, hshown⟩ := settings_in_order readsNumerals_readNumeral inOrder_exampleWorld hrun
  exact ⟨c, hrun, hrate, hfee, hinv, req, views, hflight, hlength, hshown 1 req views hflight⟩

/-! ## What the checkout reads -/

theorem normalize_ratePercent : normalizeAdminSettingValue decimalOf "tax.ratePercent" raw =
    normalizePercent decimalOf raw := rfl

theorem normalize_shippingFee : normalizeAdminSettingValue decimalOf shippingFeeSettingKey raw =
    normalizeMoney decimalOf raw := rfl

theorem normalize_pricingMode : normalizeAdminSettingValue decimalOf "tax.pricingMode" raw =
    normalizeTaxPricingMode raw := rfl

/-- A stored value of this name is one that its check leaves as it is. -/
theorem InOrder.tenantSetting {shop : Checkout.World} {tenantId : Nat}
    (h : InOrder decimalOf w) (hshop : shop.shop.tenantSettings = w.tenantSettings)
    (hkey : (getAdminSettingDefinition key).isSome = true)
    (hvalue : Checkout.tenantSetting tenantId key shop = some value) :
    normalizeAdminSettingValue decimalOf key value = .ok value := by
  obtain ⟨setting, hsetting, rfl⟩ := Option.map_eq_some_iff.mp hvalue
  rw [hshop] at hsetting
  obtain ⟨hmem, hp⟩ := Table.findFirst_some hsetting
  have hname : setting.name = key := by simpa using ((Bool.and_eq_true ..).mp hp).2
  obtain ⟨definition, hdefinition⟩ := Option.isSome_iff_exists.mp hkey
  have hnormal := (h.tenant setting hmem definition (hname ▸ hdefinition)).2
  rwa [hname] at hnormal

/-- The rate that is read is a number of hundredths of a percent up to a hundred percent. -/
theorem InOrder.rate (hreads : ReadsNumerals decimalOf) {shop : Checkout.World} (tenantId : Nat)
    (h : InOrder decimalOf w) (hshop : shop.shop.tenantSettings = w.tenantSettings) :
    ∃ (k : Nat) (rate : Decimal), k ≤ 10000 ∧ rate.value = k / 100 ∧
      decimalOf (configAt tenantId shop).ratePercent = .finite rate := by
  unfold configAt
  dsimp only
  cases hstored : Checkout.tenantSetting tenantId "tax.ratePercent" shop with
  | none =>
      have hpattern : percentPattern "0".toList = some (['0'], []) := by decide +kernel
      obtain ⟨rate, hrate, hvalue⟩ := hreads _ _ _ hpattern
      refine ⟨0, rate, Nat.zero_le _, hvalue.trans ?_, hrate⟩
      norm_num [plainValue, Nat.ofDigitChars]
  | some stored =>
      have hnormal := h.tenantSetting hshop (by decide +kernel) hstored
      rw [normalize_ratePercent] at hnormal
      obtain ⟨k, hk, rfl⟩ := normalizePercent_eq hreads hnormal
      obtain ⟨rate, hrate, hvalue⟩ := reads_paise hreads k
      exact ⟨k, rate, hk, hvalue, hrate⟩

/-- Prices include the tax: that they do not cannot be set. -/
theorem InOrder.inclusive {shop : Checkout.World} (tenantId : Nat) (h : InOrder decimalOf w)
    (hshop : shop.shop.tenantSettings = w.tenantSettings) :
    (configAt tenantId shop).mode = .inclusive := by
  refine if_neg fun hexclusive => ?_
  have hnormal := h.tenantSetting hshop (by decide +kernel) hexclusive
  rw [normalize_pricingMode] at hnormal
  revert hnormal
  decide +kernel

theorem InOrder.shippingFee (hreads : ReadsNumerals decimalOf) {shop : Checkout.World}
    (storeId : Nat) (h : InOrder decimalOf w)
    (hshop : shop.shop.storeSettings = w.storeSettings) :
    ∃ fee : Nat, shippingFeeAt decimalOf storeId shop = some (fee : Int) ∧
      fee ≤ maxShippingFeeRupees * 100 := by
  unfold shippingFeeAt
  rw [hshop]
  cases hstored : w.storeSettings.findFirst
      (fun s => s.ownerId = storeId && s.name = shippingFeeSettingKey) with
  | none => exact ⟨0, rfl, Nat.zero_le _⟩
  | some setting =>
      obtain ⟨hmem, hp⟩ := Table.findFirst_some hstored
      have hname : setting.name = shippingFeeSettingKey := by
        simpa using ((Bool.and_eq_true ..).mp hp).2
      have hsome : (getAdminSettingDefinition setting.name).isSome = true := by
        rw [hname]
        decide +kernel
      obtain ⟨definition, hdefinition⟩ := Option.isSome_iff_exists.mp hsome
      have hnormal := (h.store setting hmem definition hdefinition).2
      rw [hname, normalize_shippingFee] at hnormal
      obtain ⟨k, hk, hvalue⟩ := normalizeMoney_ok hreads hnormal
      obtain ⟨d, hd, hamount⟩ := reads_paise hreads k
      refine ⟨k, ?_, hk⟩
      simp only [Option.map_some, hvalue, hd]
      have hbound : k < 10 ^ Decimal.precision :=
        hk.trans_lt (by decide : maxShippingFeeRupees * 100 < 10 ^ Decimal.precision)
      exact congrArg some (decimalToPaise_of_value hamount hbound)

/-- A shop whose settings are changed by administrators alone can always be ordered from: the tax
of any amount can be computed, comes out of the prices and adds nothing to the total, and the
shipping fee is an amount within its bound. -/
theorem settings_serve_checkout (hreads : ReadsNumerals decimalOf)
    (hstart : InOrder decimalOf w₀) (hrun : Reaches decimalOf ⟨w₀, []⟩ c) {shop : Checkout.World}
    (htenant : shop.shop.tenantSettings = c.state.tenantSettings)
    (hstore : shop.shop.storeSettings = c.state.storeSettings) :
    (∀ tenantId base, 0 ≤ base → ∃ t,
      computeTax decimalOf base (configAt tenantId shop) = .ok t ∧ t.mode = .inclusive ∧
        taxToAddPaise t = 0) ∧
    ∀ storeId, ∃ fee : Nat, shippingFeeAt decimalOf storeId shop = some (fee : Int) ∧
      fee ≤ maxShippingFeeRupees * 100 := by
  have hinv : InOrder decimalOf c.state := (holds_of_reaches hreads hstart hrun).inv
  refine ⟨fun tenantId base hbase => ?_, fun storeId => hinv.shippingFee hreads storeId hstore⟩
  obtain ⟨k, rate, hk, hvalue, hrate⟩ := hinv.rate hreads tenantId htenant
  have hmode := hinv.inclusive tenantId htenant
  rw [← computeTaxIn_working, computeTaxIn_ok hbase hrate hvalue hk]
  split
  · exact ⟨_, rfl, hmode, by simp [taxToAddPaise]⟩
  · exact ⟨_, rfl, hmode, by simp [taxToAddPaise, hmode]⟩

/-- A shop with these settings. -/
def shopWith (w : World) : Checkout.World :=
  { Checkout.exampleWorld with shop := { exampleShop with
    storeSettings := w.storeSettings, tenantSettings := w.tenantSettings } }

/-- The shop in which a rate and a fee have been set. -/
theorem settings_serve_checkout_rate : ∃ c, Reaches readNumeral ⟨exampleWorld, []⟩ c ∧
    c.state.tenantSettings.rows.map (·.value) = ["18.00"] ∧
    ∃ shop : Checkout.World, shop.shop.tenantSettings = c.state.tenantSettings ∧
      (∃ t, computeTax readNumeral 10000 (configAt 0 shop) = .ok t ∧ t.mode = .inclusive ∧
        taxToAddPaise t = 0) ∧
      ∃ fee : Nat, shippingFeeAt readNumeral 0 shop = some (fee : Int) ∧
        fee ≤ maxShippingFeeRupees * 100 := by
  obtain ⟨c, hrun, -, hrate, -⟩ := exampleSchedule_reaches
  have htenant : (shopWith c.state).shop.tenantSettings = c.state.tenantSettings := rfl
  have hstore : (shopWith c.state).shop.storeSettings = c.state.storeSettings := rfl
  obtain ⟨htax, hread⟩ := settings_serve_checkout readsNumerals_readNumeral inOrder_exampleWorld
    hrun htenant hstore
  exact ⟨c, hrun, hrate, shopWith c.state, htenant, htax 0 10000 (by decide), hread 0⟩

end PrintForge.Settings
