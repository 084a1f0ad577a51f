import PrintForge.StoreDomains.Cors

/-!
# Reading origins

Registration keeps a hostname in its normal form, and the parser of origins finds that form again:
in any letter case, and with any port. The policy forbids a port in production, and looks for it in
the text as it arrives, while the parser takes white space off first. A text that ends in white
space behind its port passes the test for a port and is parsed all the same.
-/

namespace PrintForge.StoreDomains

open Relational JavaScript

variable {settings : Settings} {host : String}

/-! ## Spellings of a host -/

/-- The text is the host in some letter case. -/
def Spells (text host : String) : Prop := text.toList.map lowerCase = host.toList

theorem toNat_of_lowerCase {c : Char} (h : isHostChar (lowerCase c) = true) :
    isHostChar c = true ∨ (65 ≤ c.toNat ∧ c.toNat ≤ 90) ∨ c.toNat = 0x212A := by
  by_cases hkelvin : c.toNat = 0x212A
  · exact .inr (.inr hkelvin)
  · rw [lowerCase, if_neg hkelvin] at h
    by_cases hupper : 65 ≤ c.toNat ∧ c.toNat ≤ 90
    · exact .inr (.inl hupper)
    · rw [toLower_of_not_upper hupper] at h
      exact .inl h

theorem isWhiteSpace_of_lowerCase {c : Char} (h : isHostChar (lowerCase c) = true) :
    isWhiteSpace c = false := by
  obtain hchar | hother := toNat_of_lowerCase h
  · exact isWhiteSpace_hostChar hchar
  · simp only [isWhiteSpace, List.mem_cons, List.not_mem_nil, or_false, Bool.or_eq_false_iff,
      decide_eq_false_iff_not, Bool.and_eq_false_iff, not_or]
    omega

theorem isOriginHostChar_of_lowerCase {c : Char} (h : isHostChar (lowerCase c) = true) :
    isOriginHostChar c = true := by
  have hplain : c ∉ ['/', '?', '#', '@', ':'] := by
    intro hmem
    simp only [List.mem_cons, List.not_mem_nil, or_false] at hmem
    obtain rfl | rfl | rfl | rfl | rfl := hmem <;> exact absurd h (by decide)
  rw [isOriginHostChar, isWhiteSpace_of_lowerCase h, Bool.or_false, decide_eq_false hplain]
  rfl

/-- The normal form of a text depends on nothing but its lower case. -/
theorem normaliseHost_congr {s t : String} (allowLoopback : Bool)
    (h : (trim s).toList.map lowerCase = (trim t).toList.map lowerCase) :
    normaliseHost (some s) allowLoopback = normaliseHost (some t) allowLoopback := by
  unfold normaliseHost
  dsimp only
  rw [h]

theorem isName_of_false {name : List Char} (h : isName false name = true) (allowLoopback : Bool) :
    isName allowLoopback name = true := by
  unfold isName at h ⊢
  split at h
  · cases h
  · next hloop => rwa [if_neg hloop]

section Spelled

variable {raw : Option String} {text : String} (h : normaliseHost raw false = some host)
  (hspells : Spells text host)

include h hspells

theorem spelled_chars : ∀ c ∈ text.toList, isHostChar (lowerCase c) = true := by
  intro c hc
  refine canonical_chars h _ ?_
  rw [← hspells]
  exact List.mem_map_of_mem hc

theorem trim_spelled : trim text = text :=
  trim_eq_self fun c hc => isWhiteSpace_of_lowerCase (spelled_chars h hspells c hc)

/-- In any letter case, and whether loopback names are allowed or not, the host is found. -/
theorem normaliseHost_spelled (allowLoopback : Bool) :
    normaliseHost (some text) allowLoopback = some host := by
  obtain ⟨hne, hlength, hname⟩ := normaliseHost_eq_some h
  have hself : normaliseHost (some host) allowLoopback = some host :=
    normaliseHost_of_isName hne hlength (isName_of_false hname allowLoopback)
  rw [← hself]
  refine normaliseHost_congr allowLoopback ?_
  have hchars := canonical_chars h
  have htrim : trim host = host :=
    trim_eq_self fun c hc => isWhiteSpace_hostChar (hchars c hc)
  rw [trim_spelled h hspells, htrim, hspells, map_lowerCase hchars]

/-- Behind a host there may be a port. -/
theorem parse_spelled {port : List Char} (hport : isPort port = true)
    (allowLoopback requireHttps : Bool) :
    parseStorefrontOrigin (some ("https://" ++ text ++ .ofList port)) allowLoopback requireHttps =
      some ⟨.https, host⟩ := by
  have hchars := spelled_chars h hspells
  have hhost : ∀ c ∈ text.toList, isOriginHostChar c = true := fun c hc =>
    isOriginHostChar_of_lowerCase (hchars c hc)
  have hbehind : port.takeWhile isOriginHostChar = [] ∧
      port.dropWhile isOriginHostChar = port := by
    cases port with
    | nil => exact ⟨rfl, rfl⟩
    | cons c digits =>
        simp only [isPort, Bool.and_eq_true, decide_eq_true_eq] at hport
        obtain rfl := hport.1.1.1
        exact ⟨List.takeWhile_cons_of_neg (by decide), List.dropWhile_cons_of_neg (by decide)⟩
  have hlist : ("https://" ++ text ++ .ofList port : String).toList =
      "https://".toList ++ (text.toList ++ port) := by
    have hport : (String.ofList port).toList = port := String.toList_ofList
    rw [String.toList_append, String.toList_append, hport, List.append_assoc]
  have hplain : ∀ c ∈ ("https://" ++ text ++ .ofList port : String).toList,
      isWhiteSpace c = false := by
    intro c hc
    rw [hlist] at hc
    obtain hc | hc := List.mem_append.mp hc
    · have hall : ("https://".toList.all fun c => !isWhiteSpace c) = true := by decide
      simpa using List.all_eq_true.mp hall c hc
    obtain hc | hc := List.mem_append.mp hc
    · exact isWhiteSpace_of_lowerCase (hchars c hc)
    · cases port with
      | nil => cases hc
      | cons d digits =>
          simp only [isPort, Bool.and_eq_true, decide_eq_true_eq, List.all_eq_true] at hport
          obtain rfl | hc := List.mem_cons.mp hc
          · rw [hport.1.1.1]
            decide
          · refine isWhiteSpace_hostChar ?_
            rw [isHostChar, isAlphanumeric, hport.2 c hc, Bool.or_true]
            rfl
  have htext : text.toList ≠ [] := by
    intro hnil
    rw [Spells, hnil] at hspells
    exact (normaliseHost_eq_some h).1 hspells.symm
  have hlength : ¬ text.toList.length = 0 := fun hzero => htext (List.length_eq_zero_iff.mp hzero)
  unfold parseStorefrontOrigin
  rw [Option.bind_some, trim_eq_self hplain, hlist, splitScheme_https]
  dsimp only
  rw [List.takeWhile_append_of_pos hhost, List.dropWhile_append_of_pos hhost, hbehind.1, hbehind.2,
    List.append_nil, String.ofList_toList, normaliseHost_spelled h hspells, hport]
  simp [hlength]

end Spelled

/-! ## Registered hostnames -/

/-- A merchant may add the hostname, or the platform derives it for a store. -/
def Accepted (settings : Settings) (hostname : String) : Prop :=
  (∃ raw, validateNewHostname settings raw = pure hostname) ∨
    ∃ storeSlug domain, truthy settings.platformStorefrontDomain = some domain ∧
      derivePlatformSubdomain storeSlug domain = some hostname

theorem validateNewHostname_ok {raw : String}
    (h : validateNewHostname settings raw = pure host) :
    normaliseHost (some raw) false = some host := by
  unfold validateNewHostname at h
  cases hraw : normaliseHost (some raw) false with
  | none =>
      rw [hraw] at h
      cases h
  | some hostname =>
      rw [hraw] at h
      dsimp only at h
      split at h
      · cases h
      · split at h
        · cases h
        · cases h
          rfl

theorem Accepted.canonical (h : Accepted settings host) :
    ∃ raw, normaliseHost raw false = some host := by
  obtain ⟨raw, hraw⟩ | ⟨storeSlug, domain, -, hderived⟩ := h
  · exact ⟨_, validateNewHostname_ok hraw⟩
  · exact ⟨_, hderived⟩

theorem Accepted.spells_self (h : Accepted settings host) : Spells host host := by
  obtain ⟨raw, hraw⟩ := h.canonical
  exact (List.map_congr_left fun c hc => lowerCase_hostChar (canonical_chars hraw c hc)).trans
    (List.map_id _)

/-- The digits of a port. -/
theorem isPort_toDigits {p : Nat} (hp : p < 65536) : isPort (':' :: Nat.toDigits 10 p) = true := by
  have hlength : (Nat.toDigits 10 p).length ≤ 5 :=
    (Nat.length_toDigits_le_iff (by decide) (by decide)).mpr (by omega)
  have hpositive : 1 ≤ (Nat.toDigits 10 p).length := Nat.length_toDigits_pos
  have hdigits : ∀ c ∈ Nat.toDigits 10 p, isDigit c = true := by
    intro c hc
    have hdigit : c.isDigit = true := Nat.isDigit_of_mem_toDigits (by decide) (by decide) hc
    obtain ⟨hlow, hhigh⟩ := Char.isDigit_iff_toNat.mp hdigit
    rw [isDigit, Bool.and_eq_true]
    exact ⟨decide_eq_true hlow, decide_eq_true hhigh⟩
  simp only [isPort, Bool.and_eq_true, decide_eq_true_eq, List.all_eq_true]
  exact ⟨⟨⟨trivial, hpositive⟩, hlength⟩, hdigits⟩

theorem origin_without_port (text : String) :
    "https://" ++ text = "https://" ++ text ++ String.ofList [] := by
  rw [String.ofList_nil, String.append_empty]

theorem origin_with_port (text : String) (p : Nat) :
    "https://" ++ text ++ ":" ++ toString p =
      "https://" ++ text ++ String.ofList (':' :: Nat.toDigits 10 p) := by
  have hport : String.ofList (':' :: Nat.toDigits 10 p) = ":" ++ toString p := by
    rw [← String.toList_inj]
    simp
  rw [hport, String.append_assoc]

theorem Accepted.parse {text : String} {port : List Char} (h : Accepted settings host)
    (hspells : Spells text host) (hport : isPort port = true) (allowLoopback requireHttps : Bool) :
    parseStorefrontOrigin (some ("https://" ++ text ++ .ofList port)) allowLoopback requireHttps =
      some ⟨.https, host⟩ := by
  obtain ⟨raw, hraw⟩ := h.canonical
  exact parse_spelled hraw hspells hport allowLoopback requireHttps

/-- Normalising is a retraction, and what registration accepts is found again in every origin and
every host header that spells it, and in no other hostname's. -/
theorem host_canonicalisation_retracts :
    (∀ (raw : Option String) (allowLoopback : Bool) (host : String),
      normaliseHost raw allowLoopback = some host →
        normaliseHost (some host) allowLoopback = some host) ∧
    ∀ (settings : Settings) (h : String), Accepted settings h → Spells h h ∧
      ∀ (H : String) (allowLoopback requireHttps : Bool), Spells H h →
        normaliseHost (some H) allowLoopback = some h ∧
        parseStorefrontOrigin (some ("https://" ++ H)) allowLoopback requireHttps =
          some ⟨.https, h⟩ ∧
        (∀ p < 65536, parseStorefrontOrigin (some ("https://" ++ H ++ ":" ++ toString p))
          allowLoopback requireHttps = some ⟨.https, h⟩) ∧
        ∀ (h' H' : String) (port port' : List Char), Accepted settings h' → Spells H' h' →
          isPort port = true → isPort port' = true →
            normaliseHost (some H) allowLoopback = normaliseHost (some H') allowLoopback ∨
              parseStorefrontOrigin (some ("https://" ++ H ++ .ofList port)) allowLoopback
                  requireHttps =
                parseStorefrontOrigin (some ("https://" ++ H' ++ .ofList port')) allowLoopback
                  requireHttps →
              h = h' := by
  refine ⟨fun raw allowLoopback host => normaliseHost_idem, fun settings h haccepted =>
    ⟨haccepted.spells_self, fun H allowLoopback requireHttps hspells => ?_⟩⟩
  obtain ⟨raw, hraw⟩ := haccepted.canonical
  have hhost := normaliseHost_spelled hraw hspells allowLoopback
  refine ⟨hhost, ?_, fun p hp => ?_, fun h' H' port port' haccepted' hspells' hport hport' => ?_⟩
  · rw [origin_without_port]
    exact haccepted.parse hspells rfl allowLoopback requireHttps
  · rw [origin_with_port]
    exact haccepted.parse hspells (isPort_toDigits hp) allowLoopback requireHttps
  · rintro (hsame | hsame)
    · obtain ⟨raw', hraw'⟩ := haccepted'.canonical
      rw [hhost, normaliseHost_spelled hraw' hspells' allowLoopback] at hsame
      exact Option.some.inj hsame
    · rw [haccepted.parse hspells hport, haccepted'.parse hspells' hport'] at hsame
      exact (ParsedStorefrontOrigin.mk.inj (Option.some.inj hsame)).2

/-- A merchant's hostname, asked for in capitals and at a port. -/
theorem host_canonicalisation_retracts_shop :
    validateNewHostname ⟨none, [], none⟩ " Shop.Example. " = pure "shop.example" ∧
    parseStorefrontOrigin (some "https://SHOP.example:8443") false true =
      some ⟨.https, "shop.example"⟩ := by
  have hraw : normaliseHost (some " Shop.Example. ") false = some "shop.example" := by
    decide +kernel
  have hvalid : validateNewHostname ⟨none, [], none⟩ " Shop.Example. " = pure "shop.example" := by
    unfold validateNewHostname
    rw [hraw]
    rfl
  have hspells : Spells "SHOP.example" "shop.example" := by
    unfold Spells
    decide +kernel
  have hport := ((host_canonicalisation_retracts.2 ⟨none, [], none⟩ "shop.example"
    (.inl ⟨_, hvalid⟩)).2 "SHOP.example" false true hspells).2.2.1 8443 (by decide)
  have htext : "https://" ++ "SHOP.example" ++ ":" ++ toString 8443 =
      "https://SHOP.example:8443" := by decide +kernel
  rw [htext] at hport
  exact ⟨hvalid, hport⟩

/-! ## Explicit ports -/

/-- The port that the parser finds in an origin and drops. -/
def explicitPort (origin : String) : Option (List Char) :=
  match splitScheme (trim origin).toList with
  | none => none
  | some (_, rest) =>
      match rest.dropWhile isOriginHostChar with
      | [] => none
      | _ :: digits => some digits

/-- In production nothing but the frontend's own origin is admitted with a port. -/
def PortsRefused (origin : String) : Prop :=
  ∀ (frontendUrl : String) (domain : Option String) (w : World),
    ((StorefrontCorsPolicy.production frontendUrl domain).evaluateStorefrontOrigin (some origin)
      w).allowed = true →
    normaliseOrigin origin ≠ (StorefrontCorsPolicy.production frontendUrl domain).frontendOrigin →
    explicitPort origin = none

/-- White space around a secure origin that names a port behind a host name. -/
def PaddedPort (origin : String) : Prop :=
  trim origin ≠ origin ∧ ∃ scheme text digits : List Char,
    scheme.map Char.toLower = "https://".toList ∧
    (trim origin).toList = scheme ++ text ++ ':' :: digits ∧
    (normaliseHost (some (.ofList text)) false).isSome = true ∧
    (∀ c ∈ text, isOriginHostChar c = true) ∧
    isPort (':' :: digits) = true

section Ports

variable {origin : String} {parsed : ParsedStorefrontOrigin} {text rest digits : List Char}
  {scheme : Scheme}

theorem splitScheme_secure (h : splitScheme text = some (.https, rest)) :
    ∃ front, front.map Char.toLower = "https://".toList ∧ text = front ++ rest := by
  unfold splitScheme at h
  dsimp only at h
  split at h
  · next hprefix =>
    cases h
    refine ⟨text.take 8, ?_, (List.take_append_drop 8 text).symm⟩
    obtain ⟨behind, hbehind⟩ := List.isPrefixOf_iff_prefix.mp hprefix
    rw [List.map_take, ← hbehind]
    rfl
  · split at h <;> cases h

theorem splitScheme_of_secure {front : List Char}
    (h : front.map Char.toLower = "https://".toList) :
    splitScheme (front ++ rest) = some (.https, rest) := by
  have hlength : front.length = 8 := by
    have := congrArg List.length h
    rw [List.length_map] at this
    exact this
  have hprefix : "https://".toList.isPrefixOf ((front ++ rest).map Char.toLower) = true := by
    rw [List.isPrefixOf_iff_prefix, List.map_append, h]
    exact List.prefix_append _ _
  unfold splitScheme
  dsimp only
  rw [if_pos hprefix, ← hlength, List.drop_left]

/-- What the parser accepts in production: a secure scheme, a host name and perhaps a port. -/
theorem parse_eq_some (h : parseStorefrontOrigin (some origin) false true = some parsed) :
    ∃ front text port : List Char, front.map Char.toLower = "https://".toList ∧
      (trim origin).toList = front ++ text ++ port ∧
      normaliseHost (some (.ofList text)) false = some parsed.host ∧
      (∀ c ∈ text, isOriginHostChar c = true) ∧ isPort port = true ∧
      explicitPort origin = port.tail? := by
  unfold parseStorefrontOrigin at h
  rw [Option.bind_some] at h
  cases hsplit : splitScheme (trim origin).toList with
  | none =>
      rw [hsplit] at h
      cases h
  | some found =>
      obtain ⟨scheme, rest⟩ := found
      rw [hsplit] at h
      dsimp only at h
      split at h
      · cases h
      · next hshape =>
        split at h
        · cases h
        · next hsecure =>
          obtain rfl : scheme = .https := by simpa using hsecure
          obtain ⟨front, hfront, htext⟩ := splitScheme_secure hsplit
          obtain ⟨host, hhost, rfl⟩ := Option.map_eq_some_iff.mp h
          simp only [Bool.or_eq_true, decide_eq_true_eq, Bool.not_eq_true', not_or,
            Bool.not_eq_false] at hshape
          refine ⟨front, rest.takeWhile isOriginHostChar, rest.dropWhile isOriginHostChar, hfront,
            ?_, hhost, fun c hc => List.mem_takeWhile_imp hc, hshape.2, ?_⟩
          · rw [htext, List.append_assoc, List.takeWhile_append_dropWhile]
          · unfold explicitPort
            rw [hsplit]
            dsimp only
            cases rest.dropWhile isOriginHostChar <;> rfl

/-- The test for a port finds the port of an origin without white space around it. -/
theorem originWithPort_of_port {front : List Char}
    (hfront : front.map Char.toLower = "https://".toList)
    (horigin : origin.toList = front ++ text ++ ':' :: digits)
    (htext : ∀ c ∈ text, isOriginHostChar c = true) (hport : isPort (':' :: digits) = true) :
    originWithPort origin = true := by
  simp only [isPort, Bool.and_eq_true, decide_eq_true_eq, List.all_eq_true] at hport
  obtain ⟨⟨⟨-, hpositive⟩, hlength⟩, hdigits⟩ := hport
  have hback : (text ++ ':' :: digits).reverse = digits.reverse ++ ':' :: text.reverse := by
    rw [List.reverse_append, List.reverse_cons, List.append_assoc]
    rfl
  have hall : ∀ c ∈ digits.reverse, isDigit c = true := fun c hc =>
    hdigits c (List.mem_reverse.mp hc)
  have htake : (text ++ ':' :: digits).reverse.takeWhile isDigit = digits.reverse := by
    rw [hback, List.takeWhile_append_of_pos hall, List.takeWhile_cons_of_neg (by decide),
      List.append_nil]
  have hdrop : (text ++ ':' :: digits).reverse.dropWhile isDigit = ':' :: text.reverse := by
    rw [hback, List.dropWhile_append_of_pos hall, List.dropWhile_cons_of_neg (by decide)]
  have hplain : (text.reverse.all fun c => c ∉ ['/', '?', '#']) = true := by
    rw [List.all_eq_true]
    intro c hc
    have hchar := htext c (List.mem_reverse.mp hc)
    rw [isOriginHostChar, Bool.not_eq_true', Bool.or_eq_false_iff, decide_eq_false_iff_not] at hchar
    refine decide_eq_true fun hmem => hchar.1 ?_
    simp only [List.mem_cons, List.not_mem_nil, or_false] at hmem ⊢
    tauto
  unfold originWithPort
  rw [horigin, List.append_assoc, splitScheme_of_secure hfront]
  dsimp only
  rw [htake, hdrop, List.length_reverse]
  simp only [List.head?_cons, List.tail_cons, hplain, Bool.and_true, Bool.and_eq_true,
    decide_eq_true_eq]
  exact ⟨⟨hpositive, hlength⟩, trivial⟩

/-- A padded origin is parsed, with its port. -/
theorem PaddedPort.parse (h : PaddedPort origin) :
    ∃ host digits, parseStorefrontOrigin (some origin) false true = some ⟨.https, host⟩ ∧
      explicitPort origin = some digits := by
  obtain ⟨-, front, text, digits, hfront, horigin, hhost, htext, hport⟩ := h
  obtain ⟨host, hhost⟩ := Option.isSome_iff_exists.mp hhost
  have hbehind : (':' :: digits).takeWhile isOriginHostChar = [] ∧
      (':' :: digits).dropWhile isOriginHostChar = ':' :: digits :=
    ⟨List.takeWhile_cons_of_neg (by decide), List.dropWhile_cons_of_neg (by decide)⟩
  have hne : ¬ text.length = 0 := by
    intro hzero
    have hnone : normaliseHost (some (.ofList [])) false = none := by decide +kernel
    rw [List.length_eq_zero_iff.mp hzero, hnone] at hhost
    cases hhost
  have hsplit : splitScheme (trim origin).toList = some (.https, text ++ ':' :: digits) := by
    rw [horigin, List.append_assoc, splitScheme_of_secure hfront]
  refine ⟨host, digits, ?_, ?_⟩
  · unfold parseStorefrontOrigin
    rw [Option.bind_some, hsplit]
    dsimp only
    rw [List.takeWhile_append_of_pos htext, List.dropWhile_append_of_pos htext, hbehind.1,
      hbehind.2, List.append_nil, hhost, hport]
    simp [hne]
  · unfold explicitPort
    rw [hsplit]
    dsimp only
    rw [List.dropWhile_append_of_pos htext, hbehind.2]

/-- What neither begins nor ends with white space is left as it is. -/
theorem trim_eq_self_of_ends {s : String} {c d : Char} (hhead : s.toList.head? = some c)
    (hlast : s.toList.getLast? = some d) (hc : isWhiteSpace c = false)
    (hd : isWhiteSpace d = false) : trim s = s := by
  have hfront : s.toList.dropWhile isWhiteSpace = s.toList := by
    obtain ⟨cs, hs⟩ := List.head?_eq_some_iff.mp hhead
    rw [hs, List.dropWhile_cons_of_neg (by simp [hc])]
  have hback : s.toList.reverse.dropWhile isWhiteSpace = s.toList.reverse := by
    obtain ⟨ds, hs⟩ := List.getLast?_eq_some_iff.mp hlast
    rw [hs, List.reverse_append, List.reverse_singleton, List.singleton_append,
      List.dropWhile_cons_of_neg (by simp [hd])]
  rw [trim, hfront, hback, List.reverse_reverse, String.ofList_toList]

theorem splitScheme_append (h : splitScheme text = some (scheme, rest)) :
    ∃ front, text = front ++ rest ∧ text.head?.map Char.toLower = some 'h' := by
  have hhead : ∀ {name : List Char}, ('h' :: name).isPrefixOf (text.map Char.toLower) = true →
      text.head?.map Char.toLower = some 'h' := by
    intro name hprefix
    obtain ⟨behind, hbehind⟩ := List.isPrefixOf_iff_prefix.mp hprefix
    rw [← List.head?_map, ← hbehind]
    rfl
  unfold splitScheme at h
  dsimp only at h
  split at h
  · next hprefix =>
    cases h
    exact ⟨_, (List.take_append_drop 8 text).symm, hhead hprefix⟩
  · split at h
    · next hprefix =>
      cases h
      exact ⟨_, (List.take_append_drop 7 text).symm, hhead hprefix⟩
    · cases h

theorem isWhiteSpace_isDigit {c : Char} (h : isDigit c = true) : isWhiteSpace c = false := by
  refine isWhiteSpace_hostChar ?_
  rw [isHostChar, isAlphanumeric, h, Bool.or_true]
  rfl

/-- The test for a port lets no white space around the origin pass. -/
theorem trim_of_originWithPort (h : originWithPort origin = true) : trim origin = origin := by
  unfold originWithPort at h
  cases hsplit : splitScheme origin.toList with
  | none =>
      rw [hsplit] at h
      cases h
  | some found =>
      obtain ⟨scheme, rest⟩ := found
      rw [hsplit] at h
      dsimp only at h
      simp only [Bool.and_eq_true, decide_eq_true_eq] at h
      obtain ⟨front, htext, hhead⟩ := splitScheme_append hsplit
      obtain ⟨c, hc, hlower⟩ := Option.map_eq_some_iff.mp hhead
      have hcspace : isWhiteSpace c = false := by
        by_cases hupper : 65 ≤ c.toNat ∧ c.toNat ≤ 90
        · simp only [isWhiteSpace, List.mem_cons, List.not_mem_nil, or_false,
            Bool.or_eq_false_iff, decide_eq_false_iff_not, Bool.and_eq_false_iff, not_or]
          omega
        · rw [toLower_of_not_upper hupper] at hlower
          rw [hlower]
          decide
      cases hrest : rest.reverse with
      | nil =>
          rw [hrest] at h
          exact absurd h.1.1.1 (by decide)
      | cons d ds =>
          have hd : isDigit d = true := by
            by_contra hnot
            rw [hrest, List.takeWhile_cons_of_neg hnot] at h
            exact absurd h.1.1.1 (by decide)
          have hlast : origin.toList.getLast? = some d := by
            rw [htext, List.getLast?_append, ← List.head?_reverse, hrest]
            rfl
          exact trim_eq_self_of_ends hc hlast hcspace (isWhiteSpace_isDigit hd)

end Ports

/-! ### The policy -/

/-- A row for the host, as the only one. -/
def onlyRow (row : StoreDomain) : World :=
  ⟨.empty, ⟨[row], row.id + 1, by
    intro r hr
    rw [List.mem_singleton.mp hr]
    exact Nat.lt_succ_self _, List.pairwise_singleton ..⟩, []⟩

/-- An origin that the parser accepts and the test for a port lets pass is admitted if a platform
subdomain has its host. -/
theorem allowed_onlyRow {origin : String} {parsed : ParsedStorefrontOrigin}
    (hparse : parseStorefrontOrigin (some origin) false true = some parsed)
    (hpass : originWithPort origin = false) (frontendUrl : String) :
    ((StorefrontCorsPolicy.production frontendUrl none).evaluateStorefrontOrigin (some origin)
      (onlyRow (servedDomain 0 parsed.host .platformSubdomain true))).allowed = true := by
  have hparse' : parseStorefrontOrigin (some origin)
      (StorefrontCorsPolicy.production frontendUrl none).allowLoopback
      (StorefrontCorsPolicy.production frontendUrl none).requireHttps = some parsed := hparse
  have hfound :
      (onlyRow (servedDomain 0 parsed.host .platformSubdomain true)).storeDomains.findFirst
        (·.hostname = parsed.host) = some (servedDomain 0 parsed.host .platformSubdomain true) := by
    simp [Table.findFirst, onlyRow, servedDomain]
  unfold StorefrontCorsPolicy.evaluateStorefrontOrigin
  rw [hparse']
  dsimp only
  rw [Option.any_some, hpass, Bool.and_false, if_neg Bool.false_ne_true, lookup, hfound]
  rfl

/-- A port gets past the policy exactly behind white space. -/
theorem ports_refused_iff (origin : String) : PortsRefused origin ↔ ¬ PaddedPort origin := by
  constructor
  · intro hrefused hpadded
    obtain ⟨host, digits, hparse, hport⟩ := hpadded.parse
    have hpass : originWithPort origin = false :=
      Bool.eq_false_iff.mpr fun h => hpadded.1 (trim_of_originWithPort h)
    -- the origin of the frontend is one of two at most
    obtain ⟨frontendUrl, hother⟩ :
        ∃ frontendUrl, normaliseOrigin origin ≠ normaliseOrigin frontendUrl := by
      have hapart : normaliseOrigin "" ≠ normaliseOrigin "x" := by decide +kernel
      by_contra hsame
      push Not at hsame
      exact hapart ((hsame "").symm.trans (hsame "x"))
    have hnone := hrefused frontendUrl none _ (allowed_onlyRow hparse hpass frontendUrl) hother
    rw [hport] at hnone
    cases hnone
  · intro hnot frontendUrl domain w hallowed hother
    by_contra hport
    unfold StorefrontCorsPolicy.evaluateStorefrontOrigin at hallowed
    cases hparse : parseStorefrontOrigin (some origin)
        (StorefrontCorsPolicy.production frontendUrl domain).allowLoopback
        (StorefrontCorsPolicy.production frontendUrl domain).requireHttps with
    | none =>
        rw [hparse] at hallowed
        cases hallowed
    | some parsed =>
        rw [hparse] at hallowed
        obtain ⟨front, text, port, hfront, horigin, hhost, htext, hshape, htail⟩ :=
          parse_eq_some hparse
        cases port with
        | nil => exact hport htail
        | cons c digits =>
            obtain rfl : c = ':' := by
              simp only [isPort, Bool.and_eq_true, decide_eq_true_eq] at hshape
              exact hshape.1.1.1
            by_cases htrim : trim origin = origin
            · rw [htrim] at horigin
              have htest := originWithPort_of_port hfront horigin htext hshape
              dsimp only at hallowed
              rw [Option.any_some, htest] at hallowed
              cases hallowed
            · exact hnot ⟨htrim, front, text, digits, hfront, horigin,
                by rw [hhost]; rfl, htext, hshape⟩

/-- A no-break space behind the port, which the server's header parser leaves in place. -/
theorem port_admitted_behind_space :
    ¬ ∀ (origin frontendUrl : String) (domain : Option String) (w : World),
      ((StorefrontCorsPolicy.production frontendUrl domain).evaluateStorefrontOrigin (some origin)
        w).allowed = true →
      normaliseOrigin origin ≠ (StorefrontCorsPolicy.production frontendUrl domain).frontendOrigin →
      explicitPort origin = none := by
  intro hall
  have hnone := hall "https://shop.stores.example:8443\u00a0" "https://www.example"
    (some "stores.example") newStore (by decide +kernel) (by decide +kernel)
  have hport : explicitPort "https://shop.stores.example:8443\u00a0" = some "8443".toList := by
    decide +kernel
  rw [hport] at hnone
  cases hnone

end PrintForge.StoreDomains
