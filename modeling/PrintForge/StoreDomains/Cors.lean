import Mathlib.Data.List.TakeWhile
import PrintForge.StoreDomains.Resolver

/-!
# Which origins a browser may use

The policy decides on an origin from its text and, where that does not settle it, from the row the
resolver would serve. Hosts under the domain of the platform are settled by their text: one label
below it is admitted, and anything deeper is refused, since the certificate of the platform covers
one level only.
-/

namespace PrintForge.StoreDomains

open Relational Concurrent JavaScript

variable {w : World} {host : String}

inductive CorsDecisionReason where
  | noOrigin
  | platformAdminOrigin
  | platformSubdomain
  | customDomainServed
  | malformedOrigin
  | portNotAllowedInProduction
  | platformSubdomainTooDeep
  | unknownHost
  | customDomainNotServed
deriving DecidableEq, Repr

structure CorsDecision where
  allowed : Bool
  reason : CorsDecisionReason
deriving DecidableEq, Repr

/-- Lower case, without trailing slashes. -/
def normaliseOrigin (origin : String) : String :=
  .ofList (((trim origin).toList.map lowerCase).reverse.dropWhile (· = '/')).reverse

/-- A colon and up to five digits at the end, after a scheme and nothing that ends a host. -/
def originWithPort (origin : String) : Bool :=
  match splitScheme origin.toList with
  | none => false
  | some (_, rest) =>
      let digits := rest.reverse.takeWhile isDigit
      let front := rest.reverse.dropWhile isDigit
      1 ≤ digits.length && digits.length ≤ 5 && front.head? = some ':' &&
        front.tail.all fun c => c ∉ ['/', '?', '#']

structure StorefrontCorsPolicy where
  frontendOrigin : String
  platformStorefrontDomain : Option String
  allowLoopback : Bool
  requireHttps : Bool
deriving DecidableEq, Repr

namespace StorefrontCorsPolicy

/-- The policy of a process in production. -/
def production (frontendUrl : String) (platformStorefrontDomain : Option String) :
    StorefrontCorsPolicy where
  frontendOrigin := normaliseOrigin frontendUrl
  platformStorefrontDomain := platformStorefrontDomain
  allowLoopback := false
  requireHttps := true

variable (policy : StorefrontCorsPolicy)

def evaluateOriginIndependentOfMode (origin : Option String) : Option CorsDecision :=
  match truthy origin with
  | none => some ⟨true, .noOrigin⟩
  | some origin =>
      if normaliseOrigin origin = policy.frontendOrigin then some ⟨true, .platformAdminOrigin⟩
      else none

/-- A host under the domain of the platform is settled by the number of labels below it. -/
def evaluatePlatformSubdomain (host : String) : Option CorsDecision :=
  match policy.platformStorefrontDomain with
  | none => none
  | some domain =>
      let suffix := '.' :: domain.toList
      let label := host.toList.take (host.toList.length - suffix.length)
      if !suffix.isSuffixOf host.toList || label.length = 0 then
        none
      else if '.' ∈ label then
        some ⟨false, .platformSubdomainTooDeep⟩
      else
        some ⟨true, .platformSubdomain⟩

def evaluateRow (row : Option StoreDomainLookupRow) : CorsDecision :=
  match row with
  | none => ⟨false, .unknownHost⟩
  | some row =>
      if row.type.getD .custom = .platformSubdomain then
        ⟨true, .platformSubdomain⟩
      else if row.verificationStatus = .verified && row.tlsStatus.getD .pending = .issued then
        ⟨true, .customDomainServed⟩
      else
        ⟨false, .customDomainNotServed⟩

def evaluateStorefrontOrigin (origin : Option String) (w : World) : CorsDecision :=
  match parseStorefrontOrigin origin policy.allowLoopback policy.requireHttps with
  | none => ⟨false, .malformedOrigin⟩
  | some parsed =>
      if policy.requireHttps && origin.any originWithPort then
        ⟨false, .portNotAllowedInProduction⟩
      else
        (policy.evaluatePlatformSubdomain parsed.host).getD (evaluateRow (lookup parsed.host w))

def evaluateAsHostResolution (origin : Option String) (w : World) : CorsDecision :=
  (policy.evaluateOriginIndependentOfMode origin).getD (policy.evaluateStorefrontOrigin origin w)

end StorefrontCorsPolicy

/-! ## The origin of a host -/

/-- The host of a text that is a host all through, after a scheme. -/
theorem splitScheme_https (text : List Char) :
    splitScheme ("https://".toList ++ text) = some (.https, text) := by
  have hprefix : "https://".toList.isPrefixOf (("https://".toList ++ text).map Char.toLower) =
      true := by
    rw [List.isPrefixOf_iff_prefix, List.map_append]
    exact List.prefix_append _ _
  unfold splitScheme
  dsimp only
  rw [if_pos hprefix]
  rfl

theorem originOf_toList (host : String) :
    (originOf .https host).toList = "https://".toList ++ host.toList := by
  rw [originOf, String.toList_append]
  rfl

section Canonical

variable {raw : Option String} (h : normaliseHost raw false = some host)

include h

theorem canonical_chars : ∀ c ∈ host.toList, isHostChar c = true :=
  isName_chars (normaliseHost_eq_some h).2.2

theorem origin_plain : ∀ c ∈ (originOf .https host).toList,
    isWhiteSpace c = false ∧ lowerCase c = c := by
  intro c hc
  rw [originOf_toList host] at hc
  obtain hscheme | hhost := List.mem_append.mp hc
  · have hall : ("https://".toList.all fun c => !isWhiteSpace c && lowerCase c = c) = true := by
      decide
    simpa using List.all_eq_true.mp hall c hscheme
  · have hchar := canonical_chars h c hhost
    exact ⟨isWhiteSpace_hostChar hchar, lowerCase_hostChar hchar⟩

theorem trim_origin : trim (originOf .https host) = originOf .https host :=
  trim_eq_self fun c hc => (origin_plain h c hc).1

/-- The origin of a host in normal form is in normal form. -/
theorem normaliseOrigin_origin : normaliseOrigin (originOf .https host) = originOf .https host := by
  have hlower : (originOf .https host).toList.map lowerCase = (originOf .https host).toList :=
    calc (originOf .https host).toList.map lowerCase
        = (originOf .https host).toList.map id :=
          List.map_congr_left fun c hc => (origin_plain h c hc).2
      _ = (originOf .https host).toList := List.map_id _
  have hback : (originOf .https host).toList.reverse.dropWhile (· = '/') =
      (originOf .https host).toList.reverse := by
    rw [originOf_toList host, List.reverse_append]
    cases hlast : host.toList.reverse with
    | nil => exact absurd (List.reverse_eq_nil_iff.mp hlast) (normaliseHost_eq_some h).1
    | cons c cs =>
        have hmem : c ∈ host.toList :=
          List.mem_reverse.mp (by rw [hlast]; exact List.mem_cons_self ..)
        have hslash : c ≠ '/' := by
          rintro rfl
          have hchar := canonical_chars h _ hmem
          exact absurd hchar (by decide)
        rw [List.cons_append, List.dropWhile_cons, if_neg (by simpa using hslash)]
  rw [normaliseOrigin, trim_origin h, hlower, hback, List.reverse_reverse, String.ofList_toList]

/-- The parser finds the host that the origin was made of. -/
theorem parse_origin : parseStorefrontOrigin (some (originOf .https host)) false true =
    some ⟨.https, host⟩ := by
  have hall : ∀ c ∈ host.toList, isOriginHostChar c = true := by
    intro c hc
    have hchar := canonical_chars h c hc
    have hnat := isHostChar_toNat hchar
    rw [isOriginHostChar, isWhiteSpace_hostChar hchar, Bool.or_false]
    refine Bool.not_eq_true' _ ▸ decide_eq_false fun hmem => ?_
    simp only [List.mem_cons, List.not_mem_nil, or_false] at hmem
    obtain rfl | rfl | rfl | rfl | rfl := hmem <;> exact absurd hchar (by decide)
  have htake : host.toList.takeWhile isOriginHostChar = host.toList :=
    List.takeWhile_eq_self_iff.mpr hall
  have hdrop : host.toList.dropWhile isOriginHostChar = [] := List.dropWhile_eq_nil_iff.mpr hall
  have hnonempty : ¬ host.toList.length = 0 := fun hzero =>
    (normaliseHost_eq_some h).1 (List.length_eq_zero_iff.mp hzero)
  unfold parseStorefrontOrigin
  rw [Option.bind_some, trim_origin h, originOf_toList host, splitScheme_https]
  dsimp only
  rw [htake, hdrop, String.ofList_toList, normaliseHost_idem h]
  simp [hnonempty, isPort]

theorem originWithPort_origin : originWithPort (originOf .https host) = false := by
  have hcolon : (host.toList.reverse.dropWhile isDigit).head? ≠ some ':' := by
    intro hhead
    have hmem := (List.dropWhile_sublist _).mem (List.mem_of_mem_head? hhead)
    have hchar := canonical_chars h ':' (List.mem_reverse.mp hmem)
    exact absurd hchar (by decide)
  unfold originWithPort
  rw [originOf_toList host, splitScheme_https]
  simp [hcolon]

end Canonical

/-! ## Agreement with the resolver -/

/-- The host is under the domain of the platform. -/
def Under (domain : Option String) (host : String) : Prop :=
  ∃ d ∈ domain, '.' :: d.toList <:+ host.toList

/-- The host is under the domain of the platform, by more than one label. -/
def TooDeep (domain : Option String) (host : String) : Prop :=
  ∃ d ∈ domain, ∃ label : List Char, '.' ∈ label ∧ host.toList = label ++ '.' :: d.toList

theorem not_tooDeep_none : ¬ TooDeep none host := by
  rintro ⟨d, hd, -⟩
  cases hd

namespace StorefrontCorsPolicy

variable {policy : StorefrontCorsPolicy}

/-- What the text of a host settles. -/
theorem evaluatePlatformSubdomain_cases (policy : StorefrontCorsPolicy) (host : String) :
    (policy.evaluatePlatformSubdomain host = none ∧ ¬ TooDeep policy.platformStorefrontDomain host)
    ∨ (policy.evaluatePlatformSubdomain host = some ⟨false, .platformSubdomainTooDeep⟩ ∧
      TooDeep policy.platformStorefrontDomain host)
    ∨ (policy.evaluatePlatformSubdomain host = some ⟨true, .platformSubdomain⟩ ∧
      Under policy.platformStorefrontDomain host ∧
      ¬ TooDeep policy.platformStorefrontDomain host) := by
  unfold evaluatePlatformSubdomain
  cases policy.platformStorefrontDomain with
  | none => exact .inl ⟨rfl, not_tooDeep_none⟩
  | some domain =>
      dsimp only
      by_cases hsuffix : '.' :: domain.toList <:+ host.toList
      · obtain ⟨label, hlabel⟩ := hsuffix
        have hdeep : TooDeep (some domain) host ↔ '.' ∈ label := by
          constructor
          · rintro ⟨d, hd, label', hdot, hhost⟩
            cases hd
            rw [List.append_cancel_right (hlabel.trans hhost)]
            exact hdot
          · exact fun hdot => ⟨domain, rfl, label, hdot, hlabel.symm⟩
        have htake : host.toList.take (host.toList.length - ('.' :: domain.toList).length) =
            label := by
          rw [← hlabel, List.length_append, Nat.add_sub_cancel, List.take_left]
        have hsuffix : ('.' :: domain.toList).isSuffixOf host.toList = true :=
          List.isSuffixOf_iff_suffix.mpr ⟨label, hlabel⟩
        rw [htake, hsuffix, hdeep]
        by_cases hempty : label.length = 0
        · refine .inl ⟨by simp [hempty], ?_⟩
          rw [List.length_eq_zero_iff.mp hempty]
          exact List.not_mem_nil
        · rw [if_neg (by simpa using hempty)]
          by_cases hdot : '.' ∈ label
          · exact .inr (.inl ⟨if_pos hdot, hdot⟩)
          · exact .inr (.inr ⟨if_neg hdot, ⟨domain, rfl, label, hlabel⟩, hdot⟩)
      · have hnot : ('.' :: domain.toList).isSuffixOf host.toList = false :=
          Bool.eq_false_iff.mpr fun h => hsuffix (List.isSuffixOf_iff_suffix.mp h)
        refine .inl ⟨by rw [hnot]; rfl, ?_⟩
        rintro ⟨d, hd, label, -, hhost⟩
        cases hd
        exact hsuffix ⟨label, hhost.symm⟩

/-- A row is admitted by the gate of the resolver. -/
theorem evaluateRow_lookup (host : String) (w : World) :
    (evaluateRow (lookup host w)).allowed = serves host w := by
  unfold lookup serves
  cases w.storeDomains.findFirst (·.hostname = host) with
  | none => rfl
  | some found =>
      show (evaluateRow (some (lookupRow w found))).allowed = passesServingGate found
      unfold evaluateRow passesServingGate isCustom
      show (if found.type.getD .custom = .platformSubdomain then _ else _ :
        CorsDecision).allowed = _
      cases found.type.getD .custom with
      | platformSubdomain => rfl
      | custom =>
          rw [if_neg (by decide)]
          show (if (decide (found.verificationStatus = .verified) &&
              decide (found.tlsStatus.getD .pending = .issued)) = true then _ else _ :
            CorsDecision).allowed = (_ && _)
          generalize (decide (found.verificationStatus = .verified) &&
            decide (found.tlsStatus.getD .pending = .issued)) = served
          cases served <;> rfl

/-- The verdict on the origin of a host. -/
def admits (policy : StorefrontCorsPolicy) (host : String) (w : World) : Bool :=
  (policy.evaluateAsHostResolution (some (originOf .https host)) w).allowed

section Canonical

variable {raw : Option String} (h : normaliseHost raw false = some host)

include h

theorem independentOfMode_production (frontendUrl : String) (domain : Option String) :
    (production frontendUrl domain).evaluateOriginIndependentOfMode (some (originOf .https host)) =
      if originOf .https host = normaliseOrigin frontendUrl then some ⟨true, .platformAdminOrigin⟩
      else none := by
  have hne : originOf .https host ≠ "" := fun hempty => by
    have hchars := congrArg String.toList hempty
    rw [originOf_toList host] at hchars
    cases hchars
  have htruthy : truthy (some (originOf .https host)) = some (originOf .https host) := by
    rw [truthy, Option.filter_some, if_pos (decide_eq_true hne)]
  unfold evaluateOriginIndependentOfMode
  rw [htruthy]
  dsimp only
  rw [normaliseOrigin_origin h]
  rfl

theorem storefrontOrigin_production (frontendUrl : String) (domain : Option String) (w : World) :
    (production frontendUrl domain).evaluateStorefrontOrigin (some (originOf .https host)) w =
      ((production frontendUrl domain).evaluatePlatformSubdomain host).getD
        (evaluateRow (lookup host w)) := by
  have hparse : parseStorefrontOrigin (some (originOf .https host))
      (production frontendUrl domain).allowLoopback (production frontendUrl domain).requireHttps =
      some ⟨.https, host⟩ := parse_origin h
  unfold evaluateStorefrontOrigin
  rw [hparse]
  dsimp only
  rw [Option.any_some, originWithPort_origin h, Bool.and_false, if_neg Bool.false_ne_true]

/-- After the origin of the frontend, the text settles what it can and the row settles the rest. -/
theorem admits_production (frontendUrl : String) (domain : Option String) (w : World) :
    (production frontendUrl domain).admits host w =
      if originOf .https host = normaliseOrigin frontendUrl then true
      else (((production frontendUrl domain).evaluatePlatformSubdomain host).getD
        (evaluateRow (lookup host w))).allowed := by
  unfold admits evaluateAsHostResolution
  rw [independentOfMode_production h, storefrontOrigin_production h]
  split <;> rfl

end Canonical

end StorefrontCorsPolicy

/-- What is served may be called from, and outside the domain of the platform nothing else may. -/
def CorsAgrees (policy : StorefrontCorsPolicy) (host : String) (w : World) : Prop :=
  (serves host w = true → policy.admits host w = true) ∧
    (¬ Under policy.platformStorefrontDomain host → policy.frontendOrigin ≠ originOf .https host →
      policy.admits host w = true → serves host w = true)

/-- The policy and the resolver agree on a host, exactly if it is not served from too deep under the
domain of the platform, or is the frontend's own. -/
theorem cors_agrees_iff {raw : Option String} (h : normaliseHost raw false = some host)
    (frontendUrl : String) (domain : Option String) (w : World) :
    CorsAgrees (.production frontendUrl domain) host w ↔
      ∀ d ∈ w.storeDomains, d.hostname = host → passesServingGate d = true →
        TooDeep domain host → normaliseOrigin frontendUrl = originOf .https host := by
  unfold CorsAgrees
  rw [StorefrontCorsPolicy.admits_production h]
  by_cases hfrontend : originOf .https host = normaliseOrigin frontendUrl
  · rw [if_pos hfrontend]
    exact ⟨fun _ _ _ _ _ _ => hfrontend.symm,
      fun _ => ⟨fun _ => rfl, fun _ hother => absurd hfrontend.symm hother⟩⟩
  · rw [if_neg hfrontend]
    obtain ⟨hnone, hshallow⟩ | ⟨hdenied, hdeep⟩ | ⟨hadmitted, hunder, hshallow⟩ :=
      (StorefrontCorsPolicy.production frontendUrl domain).evaluatePlatformSubdomain_cases host
    · rw [hnone, Option.getD_none, StorefrontCorsPolicy.evaluateRow_lookup]
      exact ⟨fun _ _ _ _ _ hdeep => absurd hdeep hshallow, fun _ => ⟨id, fun _ _ => id⟩⟩
    · rw [hdenied, Option.getD_some]
      constructor
      · rintro ⟨hserved, -⟩ d hd rfl hgate -
        cases hserved (serves_of_mem hd hgate)
      · intro hrows
        refine ⟨fun hserved => ?_, fun _ _ hadmitted => by cases hadmitted⟩
        obtain ⟨d, hd, hhost, hgate⟩ := exists_of_serves hserved
        exact absurd (hrows d hd hhost hgate hdeep).symm hfrontend
    · rw [hadmitted, Option.getD_some]
      exact ⟨fun _ _ _ _ _ hdeep => absurd hdeep hshallow,
        fun _ => ⟨fun _ => rfl, fun hout => absurd hunder hout⟩⟩

theorem shop_canonical :
    normaliseHost (some "Shop.Stores.example.") false = some "shop.stores.example" := by
  decide +kernel

/-- A platform subdomain of one label: served, and admitted. -/
theorem cors_agrees_iff_shop :
    ∃ c : DomainConfig, Reaches storefrontSettings (fun _ _ => True) ⟨newStore, []⟩ c ∧
      serves "shop.stores.example" c.state = true ∧
      CorsAgrees (.production "https://www.example" (some "stores.example")) "shop.stores.example"
        c.state := by
  have hrun : (exec (fun _ => handle storefrontSettings) (fun _ _ => True) (fun _ _ => True)
      [.accept (.ensurePlatformSubdomain 0 0 "shop"), .advance 0] ⟨newStore, []⟩).any (fun c =>
        serves "shop.stores.example" c.state) = true := by decide +kernel
  obtain ⟨c, hc, hserved⟩ := exec_any hrun
  refine ⟨c, hc, hserved, (cors_agrees_iff shop_canonical _ _ _).mpr ?_⟩
  rintro d - - - ⟨domain, hdomain, label, hdot, hhost⟩
  cases hdomain
  have hlabel : label = "shop".toList :=
    List.append_cancel_right (hhost.symm.trans
      (by decide +kernel : "shop.stores.example".toList =
        "shop".toList ++ '.' :: "stores.example".toList))
  rw [hlabel] at hdot
  exact absurd hdot (by decide)

/-- A store whose slug has two labels gets a platform subdomain that is served, and whose origin is
denied. -/
theorem cors_denies_served :
    ¬ ∀ (settings : Settings) (stores : Table PaymentAccounts.Store) (c : DomainConfig)
      (raw : Option String) (host frontendUrl : String), normaliseHost raw false = some host →
      Reaches settings (fun _ _ => True) ⟨⟨stores, .empty, []⟩, []⟩ c →
      CorsAgrees (.production frontendUrl settings.platformStorefrontDomain) host c.state := by
  have hrun : (exec (fun _ => handle storefrontSettings) (fun _ _ => True) (fun _ _ => True)
      [.accept (.ensurePlatformSubdomain 0 0 "a.b"), .advance 0] ⟨newStore, []⟩).any (fun c =>
        serves "a.b.stores.example" c.state &&
          !(StorefrontCorsPolicy.production "https://www.example"
            storefrontSettings.platformStorefrontDomain).admits "a.b.stores.example" c.state) =
      true := by decide +kernel
  obtain ⟨c, hc, h⟩ := exec_any hrun
  obtain ⟨hserved, hdenied⟩ := Bool.and_eq_true_iff.mp h
  intro hall
  have hcanonical :
      normaliseHost (some "a.b.stores.example") false = some "a.b.stores.example" := by
    decide +kernel
  have hadmitted := (hall _ _ c _ _ "https://www.example" hcanonical hc).1 hserved
  rw [hadmitted] at hdenied
  cases hdenied

end PrintForge.StoreDomains
