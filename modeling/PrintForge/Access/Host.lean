import PrintForge.Text.Strings

/-!
# Host names

The one form under which a host name is looked up: lower case, without a trailing dot, and made
of labels that a host name may consist of. Texts that are no host names have no such form.
-/

namespace PrintForge

open JavaScript

/-- Lower case, for the characters whose lower case may stand in a host name. The Kelvin sign
is the only one of them outside ASCII. -/
def lowerCase (c : Char) : Char := if c.toNat = 0x212A then 'k' else c.toLower

def isDigit (c : Char) : Bool := '0' ≤ c && c ≤ '9'

def isAlphanumeric (c : Char) : Bool := ('a' ≤ c && c ≤ 'z') || isDigit c

/-- Up to 63 letters, digits and hyphens, of which a hyphen is neither first nor last. -/
def isLabel (label : List Char) : Bool :=
  label.length ≤ 63 && label.head?.any isAlphanumeric && label.getLast?.any isAlphanumeric &&
    label.all fun c => isAlphanumeric c || c = '-'

/-- Four groups of up to three digits. -/
def isIPv4 (host : List Char) : Bool :=
  let groups := host.splitOn '.'
  groups.length = 4 && groups.all fun g => 1 ≤ g.length && g.length ≤ 3 && g.all isDigit

def normaliseHost (raw : Option String) (allowLoopback : Bool) : Option String :=
  match raw with
  | none => none
  | some raw =>
      let host := (trim raw).toList.map lowerCase
      if host.length = 0 || 253 < host.length then
        none
      else if host.head? = some '[' || ':' ∈ host then
        none
      else
        let host := if host.getLast? = some '.' then host.dropLast else host
        if host.length = 0 then
          none
        else if host = "localhost".toList || isIPv4 host then
          if allowLoopback then some (String.ofList host) else none
        else
          let labels := host.splitOn '.'
          if labels.length < 2 then
            none
          else if labels.all isLabel then
            some (String.ofList host)
          else
            none

/-! ## Origins -/

inductive Scheme where
  | http
  | https
deriving DecidableEq, Repr

def Scheme.name : Scheme → String
  | http => "http"
  | https => "https"

def originOf (scheme : Scheme) (host : String) : String := scheme.name ++ "://" ++ host

structure ParsedStorefrontOrigin where
  scheme : Scheme
  host : String
deriving DecidableEq, Repr

/-- The scheme in front of a text, in either case, and what follows it. -/
def splitScheme (text : List Char) : Option (Scheme × List Char) :=
  let lower := text.map Char.toLower
  if "https://".toList.isPrefixOf lower then some (.https, text.drop 8)
  else if "http://".toList.isPrefixOf lower then some (.http, text.drop 7)
  else none

/-- The characters that a host may consist of in an origin. -/
def isOriginHostChar (c : Char) : Bool := !(c ∈ ['/', '?', '#', '@', ':'] || isWhiteSpace c)

/-- A colon and up to five digits, or nothing. -/
def isPort (text : List Char) : Bool :=
  match text with
  | [] => true
  | c :: digits => c = ':' && 1 ≤ digits.length && digits.length ≤ 5 && digits.all isDigit

/-- A scheme, a host and perhaps a port. The port is dropped. -/
def parseStorefrontOrigin (origin : Option String) (allowLoopback requireHttps : Bool) :
    Option ParsedStorefrontOrigin :=
  match origin.bind fun origin => splitScheme (trim origin).toList with
  | none => none
  | some (scheme, rest) =>
      let host := rest.takeWhile isOriginHostChar
      if host.length = 0 || !isPort (rest.dropWhile isOriginHostChar) then
        none
      else if requireHttps && scheme ≠ .https then
        none
      else
        (normaliseHost (some (String.ofList host)) allowLoopback).map fun host => { scheme, host }

/-! ## Normal forms -/

/-- The characters of a host name in its normal form. -/
def isHostChar (c : Char) : Bool := isAlphanumeric c || c = '-' || c = '.'

theorem isHostChar_toNat {c : Char} (h : isHostChar c = true) :
    c.toNat = 45 ∨ c.toNat = 46 ∨ (48 ≤ c.toNat ∧ c.toNat ≤ 57) ∨
      (97 ≤ c.toNat ∧ c.toNat ≤ 122) := by
  simp only [isHostChar, isAlphanumeric, isDigit, Bool.or_eq_true, Bool.and_eq_true,
    decide_eq_true_eq] at h
  obtain ((⟨h₁, h₂⟩ | ⟨h₁, h₂⟩) | rfl) | rfl := h
  · exact .inr (.inr (.inr ⟨h₁, h₂⟩))
  · exact .inr (.inr (.inl ⟨h₁, h₂⟩))
  · exact .inl rfl
  · exact .inr (.inl rfl)

theorem toLower_of_not_upper {c : Char} (h : ¬ (65 ≤ c.toNat ∧ c.toNat ≤ 90)) :
    c.toLower = c :=
  dif_neg h

theorem lowerCase_hostChar {c : Char} (h : isHostChar c = true) : lowerCase c = c := by
  have hn := isHostChar_toNat h
  rw [lowerCase, if_neg (by omega), toLower_of_not_upper (by omega)]

theorem map_lowerCase {host : List Char} (h : ∀ c ∈ host, isHostChar c = true) :
    host.map lowerCase = host :=
  calc host.map lowerCase
      = host.map id := List.map_congr_left fun c hc => lowerCase_hostChar (h c hc)
    _ = host := List.map_id _

theorem isWhiteSpace_hostChar {c : Char} (h : isHostChar c = true) : isWhiteSpace c = false := by
  have hn := isHostChar_toNat h
  simp only [isWhiteSpace, List.mem_cons, List.not_mem_nil, or_false, Bool.or_eq_false_iff,
    decide_eq_false_iff_not, Bool.and_eq_false_iff, not_or]
  omega

/-- A character of a list is the separator, or it is found in one of the parts. -/
theorem mem_splitOn {a c : Char} {xs : List Char} (h : c ∈ xs) :
    c = a ∨ ∃ l ∈ xs.splitOn a, c ∈ l := by
  induction xs with
  | nil => cases h
  | cons x xs ih =>
      rw [List.splitOn_cons_eq_if_modifyHead]
      by_cases hx : x = a
      · rw [if_pos (by simp [hx])]
        obtain rfl | hmem := List.mem_cons.mp h
        · exact .inl hx
        · exact (ih hmem).imp_right fun ⟨l, hl, hc⟩ => ⟨l, List.mem_cons_of_mem _ hl, hc⟩
      · rw [if_neg (by simp [hx])]
        cases hparts : xs.splitOn a with
        | nil => exact absurd hparts (List.splitOn_ne_nil a xs)
        | cons l ls =>
            rw [hparts] at ih
            obtain rfl | hmem := List.mem_cons.mp h
            · exact .inr ⟨c :: l, List.mem_cons_self .., List.mem_cons_self ..⟩
            · obtain rfl | ⟨l', hl', hc⟩ := ih hmem
              · exact .inl rfl
              · obtain rfl | hrest := List.mem_cons.mp hl'
                · exact .inr ⟨x :: l', List.mem_cons_self .., List.mem_cons_of_mem _ hc⟩
                · exact .inr ⟨l', List.mem_cons_of_mem _ hrest, hc⟩

/-- What ends with a separator has an empty part. -/
theorem nil_mem_splitOn {a : Char} {xs : List Char} (h : xs.getLast? = some a) :
    [] ∈ xs.splitOn a := by
  obtain ⟨ys, rfl⟩ := List.getLast?_eq_some_iff.mp h
  rw [List.splitOn_append_cons_self, List.splitOn_nil]
  exact List.mem_append_right _ (List.mem_singleton_self _)

/-- The last decision about a host name: whether it is a loopback name, and else whether it consists
of two or more labels. -/
def isName (allowLoopback : Bool) (host : List Char) : Bool :=
  if host = "localhost".toList || isIPv4 host then allowLoopback
  else 2 ≤ (host.splitOn '.').length && (host.splitOn '.').all isLabel

theorem isHostChar_of_isLabel {l : List Char} (h : isLabel l = true) :
    ∀ c ∈ l, isHostChar c = true := by
  intro c hc
  simp only [isLabel, Bool.and_eq_true, List.all_eq_true] at h
  have hchar := h.2 c hc
  rw [isHostChar, hchar]
  rfl

theorem nil_not_label : isLabel [] = false := rfl

theorem isName_chars {allowLoopback : Bool} {host : List Char}
    (h : isName allowLoopback host = true) : ∀ c ∈ host, isHostChar c = true := by
  intro c hc
  unfold isName at h
  split at h
  · next hloop =>
    obtain hlocal | hip := Bool.or_eq_true_iff.mp hloop
    · rw [of_decide_eq_true hlocal] at hc
      exact List.all_eq_true.mp (by decide : "localhost".toList.all isHostChar = true) c hc
    · simp only [isIPv4, Bool.and_eq_true, List.all_eq_true] at hip
      obtain rfl | ⟨g, hg, hcg⟩ := mem_splitOn (a := '.') hc
      · rfl
      · have hdigit := (hip.2 g hg).2 c hcg
        rw [isHostChar, isAlphanumeric, hdigit, Bool.or_true]
        rfl
  · simp only [Bool.and_eq_true, List.all_eq_true] at h
    obtain rfl | ⟨l, hl, hcl⟩ := mem_splitOn (a := '.') hc
    · rfl
    · exact isHostChar_of_isLabel (h.2 l hl) c hcl

theorem isName_getLast {allowLoopback : Bool} {host : List Char}
    (h : isName allowLoopback host = true) : host.getLast? ≠ some '.' := by
  intro hlast
  have hnil := nil_mem_splitOn hlast
  unfold isName at h
  split at h
  · next hloop =>
    obtain hlocal | hip := Bool.or_eq_true_iff.mp hloop
    · rw [of_decide_eq_true hlocal] at hlast
      revert hlast
      decide
    · simp only [isIPv4, Bool.and_eq_true, List.all_eq_true] at hip
      have hlength := (hip.2 [] hnil).1
      simp at hlength
  · simp only [Bool.and_eq_true, List.all_eq_true] at h
    have hlabel := h.2 [] hnil
    rw [nil_not_label] at hlabel
    cases hlabel

/-- What is trimmed off is white space. -/
theorem trim_eq_self {s : String} (h : ∀ c ∈ s.toList, isWhiteSpace c = false) : trim s = s := by
  have hfront : s.toList.dropWhile isWhiteSpace = s.toList := by
    cases hs : s.toList with
    | nil => rfl
    | cons c cs =>
        have hc : isWhiteSpace c = false := h c (by rw [hs]; exact List.mem_cons_self ..)
        rw [List.dropWhile_cons, hc]
        rfl
  have hback : s.toList.reverse.dropWhile isWhiteSpace = s.toList.reverse := by
    cases hs : s.toList.reverse with
    | nil => rfl
    | cons c cs =>
        have hc : isWhiteSpace c = false :=
          h c (List.mem_reverse.mp (by rw [hs]; exact List.mem_cons_self ..))
        rw [List.dropWhile_cons, hc]
        rfl
  rw [trim, hfront, hback, List.reverse_reverse, String.ofList_toList]

theorem named_eq_some {allowLoopback : Bool} {name : List Char} {host : String}
    (h : (if name = "localhost".toList || isIPv4 name then
        if allowLoopback then some (String.ofList name) else none
      else if (name.splitOn '.').length < 2 then none
      else if (name.splitOn '.').all isLabel then some (String.ofList name) else none) =
        some host) :
    host.toList = name ∧ isName allowLoopback name = true := by
  unfold isName
  split at h
  · next hloop =>
    split at h
    · next hallow =>
      cases h
      exact ⟨String.toList_ofList, by rw [if_pos hloop, hallow]⟩
    · cases h
  · next hloop =>
    split at h
    · cases h
    · next hlength =>
      split at h
      · next hlabels =>
        cases h
        refine ⟨String.toList_ofList, ?_⟩
        rw [if_neg hloop, hlabels, Bool.and_true]
        exact decide_eq_true (Nat.le_of_not_lt hlength)
      · cases h

/-- The normal form is a name of at most 253 characters. -/
theorem normaliseHost_eq_some {raw : Option String} {allowLoopback : Bool} {host : String}
    (h : normaliseHost raw allowLoopback = some host) :
    host.toList ≠ [] ∧ host.toList.length ≤ 253 ∧ isName allowLoopback host.toList = true := by
  unfold normaliseHost at h
  cases raw with
  | none => cases h
  | some raw =>
      dsimp only at h
      generalize (trim raw).toList.map lowerCase = text at h
      have hdrop : (if text.getLast? = some '.' then text.dropLast else text).length ≤
          text.length := by
        split <;> simp
      generalize (if text.getLast? = some '.' then text.dropLast else text) = name at h hdrop
      split at h
      · cases h
      · next hlength =>
        split at h
        · cases h
        · split at h
          · cases h
          · next hne =>
            obtain ⟨hlist, hname⟩ := named_eq_some h
            rw [hlist]
            refine ⟨fun hnil => hne (by rw [hnil]; rfl), ?_, hname⟩
            simp only [Bool.or_eq_true, decide_eq_true_eq, not_or] at hlength
            omega

/-- A name in normal form is its own normal form. -/
theorem normaliseHost_of_isName {allowLoopback : Bool} {host : String} (hne : host.toList ≠ [])
    (hlength : host.toList.length ≤ 253) (hname : isName allowLoopback host.toList = true) :
    normaliseHost (some host) allowLoopback = some host := by
  have hchars := isName_chars hname
  have htext : (trim host).toList.map lowerCase = host.toList := by
    rw [trim_eq_self fun c hc => isWhiteSpace_hostChar (hchars c hc), map_lowerCase hchars]
  have hpositive : ¬ host.toList.length = 0 := fun h => hne (List.length_eq_zero_iff.mp h)
  have hplain : ∀ c, isHostChar c = false → c ∉ host.toList := by
    intro c hc hmem
    rw [hchars c hmem] at hc
    cases hc
  have hbounds :
      ¬ (decide (host.toList.length = 0) || decide (253 < host.toList.length)) = true := by
    simp only [Bool.or_eq_true, decide_eq_true_eq, not_or]
    omega
  have hbare : ¬ (decide (host.toList.head? = some '[') || decide (':' ∈ host.toList)) = true := by
    simp only [Bool.or_eq_true, decide_eq_true_eq, not_or]
    refine ⟨fun hhead => hplain '[' rfl (List.mem_of_mem_head? hhead), hplain ':' rfl⟩
  unfold normaliseHost
  dsimp only
  rw [htext, if_neg hbounds, if_neg hbare]
  simp only [if_neg (isName_getLast hname)]
  rw [if_neg hpositive]
  unfold isName at hname
  split at hname
  · next hloop => rw [if_pos hloop, if_pos hname, String.ofList_toList]
  · next hloop =>
    obtain ⟨htwo, hlabels⟩ := Bool.and_eq_true_iff.mp hname
    rw [if_neg hloop, if_neg (Nat.not_lt.mpr (of_decide_eq_true htwo)), if_pos hlabels,
      String.ofList_toList]

/-- Normalising is a retraction. -/
theorem normaliseHost_idem {raw : Option String} {allowLoopback : Bool} {host : String}
    (h : normaliseHost raw allowLoopback = some host) :
    normaliseHost (some host) allowLoopback = some host := by
  obtain ⟨hne, hlength, hname⟩ := normaliseHost_eq_some h
  exact normaliseHost_of_isName hne hlength hname

example : normaliseHost (some " WWW.Shop-1.Example. ") false = some "www.shop-1.example" := by
  decide +kernel

end PrintForge
