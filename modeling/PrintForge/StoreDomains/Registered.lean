import PrintForge.StoreDomains.Provisioned
import PrintForge.StoreDomains.Origins

/-!
# What the backfill registers

The hostname that the backfill makes for a slug is the one that the resolver looks up, unless the
slug ends in white space or what comes of it is no host name. The last two steps always end: they
mark rows of one store, and insert what is missing.
-/

namespace PrintForge.StoreDomains.Provisioning

open Relational JavaScript

/-! ## Hostnames -/

/-- The text ends in white space. -/
def endsInSpace (s : String) : Bool := s.toList.getLast?.any isWhiteSpace

/-- White space goes at both ends, and no further than to a character that is none. -/
theorem trim_around {s : String} {front back : List Char} {c : Char} (hc : isWhiteSpace c = false)
    (h : s.toList = front ++ c :: back) : (trim s).toList =
      front.dropWhile isWhiteSpace ++ c :: (back.reverse.dropWhile isWhiteSpace).reverse := by
  have hstop : ∀ before after : List Char, (before ++ c :: after).dropWhile isWhiteSpace =
      before.dropWhile isWhiteSpace ++ c :: after := by
    intro before after
    rw [List.dropWhile_append, List.dropWhile_cons_of_neg (by simp [hc])]
    split
    · next hempty => rw [List.isEmpty_iff.mp hempty, List.nil_append]
    · rfl
  rw [trim, String.toList_ofList, h, hstop, List.reverse_append, List.reverse_cons,
    List.append_assoc, List.singleton_append, hstop]
  simp

/-- A text that does not end in white space is trimmed in front alone. -/
theorem trim_front {s : String} (h : endsInSpace s = false) :
    (trim s).toList = s.toList.dropWhile isWhiteSpace := by
  obtain hnil | ⟨front, c, hs⟩ := List.eq_nil_or_concat s.toList
  · rw [trim, String.toList_ofList, hnil]
    rfl
  · rw [List.concat_eq_append] at hs
    have hc : isWhiteSpace c = false := by simpa [endsInSpace, hs] using h
    rw [trim_around hc hs, hs, List.dropWhile_append, List.dropWhile_cons_of_neg (by simp [hc])]
    split
    · next hempty => simp [List.isEmpty_iff.mp hempty]
    · rfl

/-- The normal form is the trimmed text in lower case, less a dot at its end. -/
theorem normaliseHost_toList {raw host : String} {allowLoopback : Bool}
    (h : normaliseHost (some raw) allowLoopback = some host) :
    let text := (trim raw).toList.map lowerCase
    host.toList = if text.getLast? = some '.' then text.dropLast else text := by
  unfold normaliseHost at h
  dsimp only at h ⊢
  generalize (trim raw).toList.map lowerCase = text at h ⊢
  generalize (if text.getLast? = some '.' then text.dropLast else text) = name at h ⊢
  split at h
  · cases h
  · split at h
    · cases h
    · split at h
      · cases h
      · exact (named_eq_some h).1

/-- A name in normal form does not begin with a dot. -/
theorem head_normaliseHost {raw : Option String} {host : String}
    (h : normaliseHost raw false = some host) : host.toList.head? ≠ some '.' := by
  intro hhead
  obtain ⟨rest, hrest⟩ := List.head?_eq_some_iff.mp hhead
  have hname := (normaliseHost_eq_some h).2.2
  have hnil : [] ∈ host.toList.splitOn '.' := by
    rw [hrest, List.splitOn_cons_eq_if_modifyHead, if_pos (by simp)]
    exact List.mem_cons_self
  unfold isName at hname
  split at hname
  · cases hname
  · have hlabel := List.all_eq_true.mp (Bool.and_eq_true_iff.mp hname).2 [] hnil
    rw [nil_not_label] at hlabel
    cases hlabel

section Derived

variable [LowerCasing] {slug platformDomain : String}

theorem toLowerCase_of_host {text : List Char}
    (h : ∀ c ∈ LowerCasing.toLowerCase text, isHostChar c = true) :
    LowerCasing.toLowerCase text = text.map lowerCase :=
  LowerCasing.toLowerCase_host text (.inl h)

theorem derivePlatformHostname_toList :
    (derivePlatformHostname slug platformDomain).toList =
      LowerCasing.toLowerCase (trim slug).toList ++ '.' :: platformDomain.toList := by
  rw [derivePlatformHostname, String.toList_append, String.toList_append, String.toList_ofList,
    List.append_assoc]
  rfl

omit [LowerCasing] in
theorem trim_subdomain (slug platformDomain : String) :
    (trim (slug ++ "." ++ platformDomain)).toList = slug.toList.dropWhile isWhiteSpace ++
      '.' :: (platformDomain.toList.reverse.dropWhile isWhiteSpace).reverse := by
  refine trim_around (by decide) ?_
  rw [String.toList_append, String.toList_append, List.append_assoc]
  rfl

/-- A slug that ends in white space has no subdomain under its own hostname. -/
theorem endsInSpace_derived (h : derivePlatformSubdomain slug platformDomain =
    some (derivePlatformHostname slug platformDomain)) : endsInSpace slug = false := by
  by_contra hspace
  rw [Bool.not_eq_false, endsInSpace, Option.any_eq_true] at hspace
  obtain ⟨c, hlast, hc⟩ := hspace
  have hhost := normaliseHost_toList h
  rw [trim_subdomain] at hhost
  cases hcore : slug.toList.dropWhile isWhiteSpace with
  | nil =>
      -- nothing is left of the slug, and the name begins with the dot
      have htrim : (trim slug).toList = [] := by
        rw [trim, String.toList_ofList, hcore]
        rfl
      have hlower : LowerCasing.toLowerCase [] = [] :=
        LowerCasing.toLowerCase_host [] (.inr fun c hc => absurd hc List.not_mem_nil)
      refine head_normaliseHost h ?_
      rw [derivePlatformHostname_toList, htrim, hlower]
      rfl
  | cons a core =>
      have hmem : c ∈ a :: core := by
        obtain ⟨front, hfront⟩ := List.dropWhile_suffix isWhiteSpace (l := slug.toList)
        rw [← hfront, hcore, List.getLast?_append_of_ne_nil _ (List.cons_ne_nil a core)] at hlast
        exact List.mem_of_getLast? hlast
      have hkept : lowerCase c ∈ (derivePlatformHostname slug platformDomain).toList := by
        rw [hhost, hcore, List.map_append]
        have hin : lowerCase c ∈ (a :: core).map lowerCase := List.mem_map_of_mem hmem
        split
        · rw [List.dropLast_append_of_ne_nil (by simp)]
          exact List.mem_append_left _ hin
        · exact List.mem_append_left _ hin
      have hblank := isWhiteSpace_of_lowerCase (canonical_chars h _ hkept)
      rw [hc] at hblank
      cases hblank

/-- The backfill makes the hostname that the resolver looks up where the slug does not end in white
space and what it makes is a host name in its normal form. -/
theorem derivePlatformSubdomain_eq_iff :
    derivePlatformSubdomain slug platformDomain =
        some (derivePlatformHostname slug platformDomain) ↔
      endsInSpace slug = false ∧
        normaliseHost (some (derivePlatformHostname slug platformDomain)) false =
          some (derivePlatformHostname slug platformDomain) := by
  refine ⟨fun h => ⟨endsInSpace_derived h, normaliseHost_idem h⟩, ?_⟩
  rintro ⟨hspace, hnormal⟩
  have hchars := canonical_chars hnormal
  have hself : (trim (derivePlatformHostname slug platformDomain)).toList.map lowerCase =
      (derivePlatformHostname slug platformDomain).toList := by
    rw [trim_eq_self fun c hc => isWhiteSpace_hostChar (hchars c hc), map_lowerCase hchars]
  have hdomain : ∀ c ∈ platformDomain.toList, isHostChar c = true := by
    intro c hc
    refine hchars c ?_
    rw [derivePlatformHostname_toList]
    exact List.mem_append_right _ (List.mem_cons_of_mem _ hc)
  have hback : (platformDomain.toList.reverse.dropWhile isWhiteSpace).reverse =
      platformDomain.toList := by
    rw [List.dropWhile_eq_self_iff.mpr, List.reverse_reverse]
    intro hpos
    have hmem : platformDomain.toList.reverse[0] ∈ platformDomain.toList :=
      List.mem_reverse.mp (List.getElem_mem hpos)
    rw [isWhiteSpace_hostChar (hdomain _ hmem)]
    exact Bool.false_ne_true
  have hlower : LowerCasing.toLowerCase (trim slug).toList = (trim slug).toList.map lowerCase := by
    refine toLowerCase_of_host fun c hc => hchars c ?_
    rw [derivePlatformHostname_toList]
    exact List.mem_append_left _ hc
  rw [derivePlatformSubdomain, ← hnormal]
  refine normaliseHost_congr false ?_
  calc (trim (slug ++ "." ++ platformDomain)).toList.map lowerCase
      = (trim slug).toList.map lowerCase ++ '.' :: platformDomain.toList.map lowerCase := by
        rw [trim_subdomain, hback, trim_front hspace, List.map_append, List.map_cons]
        rfl
    _ = (derivePlatformHostname slug platformDomain).toList := by
        rw [derivePlatformHostname_toList, hlower, map_lowerCase hdomain]
    _ = (trim (derivePlatformHostname slug platformDomain)).toList.map lowerCase := hself.symm

end Derived

/-! ## The custom domain of one tenant -/

/-- The rows as they are, up to which of one store's rows is the primary one. -/
def Marked (storeId : Nat) (d d' : StoreDomain) : Prop :=
  d' = { d with isPrimary := d'.isPrimary } ∧ (d.storeId ≠ storeId → d' = d)

/-- What registering does: it reports that the tenant has no primary store, or that another store
holds the hostname, or it makes the hostname the primary one of the tenant's primary store. -/
inductive Registers (tenantId : Nat) (target : Option Store) (t : Table StoreDomain) :
    List Anomaly → Table StoreDomain → Prop where
  | noStore (h : target = none) : Registers tenantId target t [.noPrimaryStore tenantId] t
  | held {store : Store} {holderId : Nat} (h : target = some store)
      (holds : Holds t tenant1CustomHostname holderId) (other : holderId ≠ store.id) :
      Registers tenantId target t [.hostnameHeld holderId tenantId store.id] t
  | registered {store : Store} {t' : Table StoreDomain} (h : target = some store)
      (own : ∀ holderId, Holds t tenant1CustomHostname holderId → holderId = store.id)
      (primary : ∃ d ∈ t', d.hostname = tenant1CustomHostname ∧ d.storeId = store.id ∧
        d.isPrimary = true)
      (kept : ∀ d ∈ t, ∃ d' ∈ t', Marked store.id d d')
      (origin : ∀ d' ∈ t', (∃ d ∈ t, Marked store.id d d') ∨
        d' = customRow tenantId store.id t.nextKey) : Registers tenantId target t [] t'

section Custom

variable {w : World}

/-- A row that is no longer primary. -/
def demoted (storeId : Nat) (d : StoreDomain) : StoreDomain :=
  if d.storeId = storeId then { d with isPrimary := false } else d

theorem marked_demoted (storeId : Nat) (d : StoreDomain) :
    Marked storeId d (demoted storeId d) := by
  unfold Marked demoted
  split
  · next h => exact ⟨rfl, fun hne => absurd h hne⟩
  · exact ⟨rfl, fun _ => rfl⟩

theorem Marked.trans {storeId : Nat} {d d₁ d₂ : StoreDomain} (h : Marked storeId d d₁)
    (h' : Marked storeId d₁ d₂) : Marked storeId d d₂ := by
  refine ⟨by rw [h'.1, h.1], fun hne => ?_⟩
  have hsame := h.2 hne
  rw [h'.2 (by rw [hsame]; exact hne), hsame]

theorem Marked.fields {storeId : Nat} {d d' : StoreDomain} (h : Marked storeId d d') :
    d'.id = d.id ∧ d'.storeId = d.storeId ∧ d'.hostname = d.hostname ∧ d'.type = d.type := by
  rw [h.1]
  exact ⟨rfl, rfl, rfl, rfl⟩

/-- The primary row of the store stops being primary. -/
theorem exists_demoteAll (storeId : Nat) (w : World) : ∃ n t,
    demoteAll storeId w = .ok (n, { w with storeDomains := t }) ∧
    t.nextKey = w.storeDomains.nextKey ∧
    ∀ d', d' ∈ t ↔ ∃ d ∈ w.storeDomains, d' = demoted storeId d := by
  let p : StoreDomain → Bool := fun d => d.storeId = storeId && d.isPrimary
  let f : StoreDomain → StoreDomain := fun d => { d with isPrimary := false }
  obtain ⟨t, ht⟩ : ∃ t, w.storeDomains.update p f (fun _ => rfl) = some t := by
    refine Table.exists_update fun a ha b hb hclash => ?_
    by_cases hpa : p a <;> by_cases hpb : p b <;> simp [hpa, hpb, f, Schema.Clash] at hclash <;>
      simp [Schema.Clash, hclash]
  refine ⟨w.storeDomains.count p, t, ?_, Table.nextKey_update ht, fun d' => ?_⟩
  · simp only [demoteAll, Slot.updateMany, Db.storeDomains]
    rw [ht]
  · rw [Table.mem_update ht]
    refine exists_congr fun d => and_congr_right fun _ => ?_
    obtain ⟨id, store, tenant, hostname, isPrimary, status, token, type, method, tls⟩ := d
    by_cases hstore : store = storeId <;> cases isPrimary <;> simp [p, f, demoted, hstore]

/-- The hostname is inserted as the store's primary one. -/
theorem exists_insertCustom (tenantId : Nat) (store : Store) (w : World)
    (hfree : ∀ d ∈ w.storeDomains, d.hostname ≠ tenant1CustomHostname) : ∃ t,
    (do let _ ← demoteAll store.id
        let _ ← Db.storeDomains.create (customRow tenantId store.id)
        return ⟨"B-3", registerAction, 1, []⟩ : Transaction StepResult) w =
      .ok (⟨"B-3", registerAction, 1, []⟩, { w with storeDomains := t }) ∧
    ∀ d', d' ∈ t ↔ (∃ d ∈ w.storeDomains, d' = demoted store.id d) ∨
      d' = customRow tenantId store.id w.storeDomains.nextKey := by
  obtain ⟨n, t, hdemote, hkey, hmem⟩ := exists_demoteAll store.id w
  have hapart : ∀ d ∈ t, ¬ Schema.Clash d (customRow tenantId store.id t.nextKey) := by
    intro d' hd'
    obtain ⟨d, hd, rfl⟩ := (hmem d').mp hd'
    rintro (hhost | ⟨hstore, hprimary, -⟩)
    · exact hfree d hd ((marked_demoted store.id d).fields.2.2.1.symm.trans hhost)
    · have hown : d.storeId = store.id :=
        (marked_demoted store.id d).fields.2.1.symm.trans hstore
      rw [demoted, if_pos hown] at hprimary
      cases hprimary
  obtain ⟨t', ht'⟩ : ∃ t', t.create (customRow tenantId store.id) (fun _ => rfl) = some t' :=
    Table.exists_create hapart
  refine ⟨t', ?_, fun d' => ?_⟩
  · rw [Tx.bind_apply, hdemote]
    dsimp only
    rw [Tx.bind_apply]
    simp only [Slot.create, Db.storeDomains]
    rw [ht']
    rfl
  · rw [Table.mem_create ht', hmem, hkey]

/-- The row that has the hostname becomes the store's primary one. -/
theorem exists_promoteCustom {store : Store} {w : World} {e : StoreDomain}
    (he : e ∈ w.storeDomains) (hown : e.storeId = store.id) : ∃ n t,
    (do let _ ← demoteAll store.id
        let affected ← Db.storeDomains.updateMany
          (fun d => d.id = e.id && !d.isPrimary) fun d => { d with isPrimary := true }
        return ⟨"B-3", registerAction, affected, []⟩ : Transaction StepResult) w =
      .ok (⟨"B-3", registerAction, n, []⟩, { w with storeDomains := t }) ∧
    ∀ d', d' ∈ t ↔ ∃ d ∈ w.storeDomains,
      d' = if d.id = e.id then { d with isPrimary := true } else demoted store.id d := by
  obtain ⟨n, t, hdemote, hkey, hmem⟩ := exists_demoteAll store.id w
  let p : StoreDomain → Bool := fun d => d.id = e.id && !d.isPrimary
  let f : StoreDomain → StoreDomain := fun d => { d with isPrimary := true }
  have hidle : ∀ d ∈ t, d.storeId = store.id → d.isPrimary = false := by
    intro d' hd' hstore
    obtain ⟨d, hd, rfl⟩ := (hmem d').mp hd'
    rw [demoted, if_pos ((marked_demoted store.id d).fields.2.1.symm.trans hstore)]
  have hrow : ∀ d ∈ t, p d = true → d.storeId = store.id := by
    intro d' hd' hp
    obtain ⟨d, hd, rfl⟩ := (hmem d').mp hd'
    rw [Bool.and_eq_true, decide_eq_true_eq, (marked_demoted store.id d).fields.1] at hp
    rw [(marked_demoted store.id d).fields.2.1, Table.eq_of_key hd he hp.1, hown]
  obtain ⟨t', ht'⟩ : ∃ t', t.update p f (fun _ => rfl) = some t' := by
    refine Table.exists_update fun a ha b hb hclash => ?_
    have hsame : ∀ d : StoreDomain, (if p d then f d else d).hostname = d.hostname ∧
        (if p d then f d else d).storeId = d.storeId := fun d => by split <;> exact ⟨rfl, rfl⟩
    obtain hhost | ⟨hstore, hpa, hpb⟩ := hclash
    · rw [(hsame a).1, (hsame b).1] at hhost
      exact .inl hhost
    · rw [(hsame a).2, (hsame b).2] at hstore
      by_cases hstill : p a = true ∨ p b = true
      · -- only one row of the store can be promoted, and none is left beside it
        have ha' : a.storeId = store.id := hstill.elim (hrow a ha) fun h =>
          hstore.trans (hrow b hb h)
        have hp : ∀ d ∈ t, d.storeId = store.id →
            (if p d then f d else d).isPrimary = true → d.id = e.id := by
          intro d hd hown' hprimary
          split at hprimary
          · next hpd => exact of_decide_eq_true (Bool.and_eq_true_iff.mp hpd).1
          · rw [hidle d hd hown'] at hprimary
            cases hprimary
        have hid := (hp a ha ha' hpa).trans (hp b hb (hstore.symm.trans ha') hpb).symm
        exact .inl (congrArg StoreDomain.hostname (Table.eq_of_key ha hb hid))
      · obtain ⟨hna, hnb⟩ := not_or.mp hstill
        rw [if_neg hna] at hpa
        rw [if_neg hnb] at hpb
        exact .inr ⟨hstore, hpa, hpb⟩
  have hstep : ∀ d ∈ w.storeDomains,
      (if p (demoted store.id d) then f (demoted store.id d) else demoted store.id d) =
        if d.id = e.id then { d with isPrimary := true } else demoted store.id d := by
    intro d hd
    by_cases hid : d.id = e.id
    · have hstore : d.storeId = store.id := by rw [Table.eq_of_key hd he hid, hown]
      rw [if_pos hid, demoted, if_pos hstore, if_pos (by simp [p, hid])]
    · have hp : ¬ p (demoted store.id d) = true := by
        rw [Bool.and_eq_true, decide_eq_true_eq, (marked_demoted store.id d).fields.1]
        exact fun h => hid h.1
      rw [if_neg hid, if_neg hp]
  refine ⟨t.count p, t', ?_, fun d' => ?_⟩
  · rw [Tx.bind_apply, hdemote]
    dsimp only
    rw [Tx.bind_apply]
    simp only [Slot.updateMany, Db.storeDomains]
    rw [ht']
    rfl
  · rw [Table.mem_update ht']
    constructor
    · rintro ⟨d₁, hd₁, rfl⟩
      obtain ⟨d, hd, rfl⟩ := (hmem d₁).mp hd₁
      exact ⟨d, hd, hstep d hd⟩
    · rintro ⟨d, hd, rfl⟩
      exact ⟨_, (hmem _).mpr ⟨d, hd, rfl⟩, (hstep d hd).symm⟩

/-- The primary store of the tenant. -/
def target (tenantId : Nat) (w : World) : Option Store :=
  w.stores.findFirst fun s => s.tenantId = tenantId && s.isPrimary

/-- The third step always ends. -/
theorem exists_backfillTenant1CustomDomain (tenantId : Nat) (w : World) : ∃ r t,
    backfillTenant1CustomDomain tenantId w = .ok (r, { w with storeDomains := t }) ∧
    Registers tenantId (target tenantId w) w.storeDomains r.anomalies t := by
  rw [backfillTenant1CustomDomain, Tx.bind_read]
  cases htarget : target tenantId w with
  | none =>
      have hfind : w.stores.findFirst (fun s => s.tenantId = tenantId && s.isPrimary) = none :=
        htarget
      rw [hfind]
      exact ⟨_, w.storeDomains, rfl, .noStore rfl⟩
  | some store =>
      have hfind : w.stores.findFirst (fun s => s.tenantId = tenantId && s.isPrimary) =
        some store := htarget
      rw [hfind]
      dsimp only
      rw [Tx.bind_read]
      cases hexisting : w.storeDomains.findFirst (·.hostname = tenant1CustomHostname) with
      | none =>
          have hfree : ∀ d ∈ w.storeDomains, d.hostname ≠ tenant1CustomHostname := fun d hd =>
            of_decide_eq_false (Table.findFirst_none hexisting d hd)
          obtain ⟨t, hrun, hmem⟩ := exists_insertCustom tenantId store w hfree
          refine ⟨_, t, hrun, .registered rfl ?_ ?_ (fun d hd => ?_) fun d' hd' => ?_⟩
          · rintro holderId ⟨d, hd, hhost, -⟩
            exact absurd hhost (hfree d hd)
          · exact ⟨_, (hmem _).mpr (.inr rfl), rfl, rfl, rfl⟩
          · exact ⟨_, (hmem _).mpr (.inl ⟨d, hd, rfl⟩), marked_demoted store.id d⟩
          · obtain ⟨d, hd, rfl⟩ | hnew := (hmem d').mp hd'
            · exact .inl ⟨d, hd, marked_demoted store.id d⟩
            · exact .inr hnew
      | some e =>
          obtain ⟨he, hhost⟩ := Table.findFirst_some hexisting
          have hhost : e.hostname = tenant1CustomHostname := of_decide_eq_true hhost
          have hholds : Holds w.storeDomains tenant1CustomHostname e.storeId := ⟨e, he, hhost, rfl⟩
          dsimp only
          by_cases hown : e.storeId = store.id
          · have hall : ∀ holderId, Holds w.storeDomains tenant1CustomHostname holderId →
                holderId = store.id := fun holderId h => (h.unique hholds).trans hown
            rw [if_neg (not_not_intro hown)]
            by_cases hprimary : e.isPrimary = true
            · rw [if_pos hprimary]
              exact ⟨_, w.storeDomains, rfl, .registered rfl hall ⟨e, he, hhost, hown, hprimary⟩
                (fun d hd => ⟨d, hd, rfl, fun _ => rfl⟩)
                fun d hd => .inl ⟨d, hd, rfl, fun _ => rfl⟩⟩
            · rw [if_neg hprimary]
              obtain ⟨n, t, hrun, hmem⟩ := exists_promoteCustom he hown
              have hmarked : ∀ d ∈ w.storeDomains, Marked store.id d
                  (if d.id = e.id then { d with isPrimary := true } else demoted store.id d) := by
                intro d hd
                split
                · next hid =>
                  rw [Table.eq_of_key hd he hid]
                  exact ⟨rfl, fun hne => absurd hown hne⟩
                · exact marked_demoted store.id d
              refine ⟨_, t, hrun, .registered rfl hall ?_ (fun d hd => ?_) fun d' hd' => ?_⟩
              · exact ⟨_, (hmem _).mpr ⟨e, he, (if_pos rfl).symm⟩, hhost, hown, rfl⟩
              · exact ⟨_, (hmem _).mpr ⟨d, hd, rfl⟩, hmarked d hd⟩
              · obtain ⟨d, hd, rfl⟩ := (hmem d').mp hd'
                exact .inl ⟨d, hd, hmarked d hd⟩
          · rw [if_pos hown]
            exact ⟨_, w.storeDomains, rfl, .held rfl hholds hown⟩

/-- There is nothing to register: there is no store to register for, or the hostname is another
store's, or it is the primary one of the store already. -/
def Registered (target : Option Store) (t : Table StoreDomain) : Prop :=
  ∀ store, target = some store → (∃ holderId ≠ store.id, Holds t tenant1CustomHostname holderId) ∨
    ∃ d ∈ t, d.hostname = tenant1CustomHostname ∧ d.storeId = store.id ∧ d.isPrimary = true

theorem Registers.done {tenantId : Nat} {goal : Option Store} {t t' : Table StoreDomain}
    {anomalies : List Anomaly} (h : Registers tenantId goal t anomalies t') :
    Registered goal t' := by
  intro store hstore
  cases h with
  | noStore hnone => exact absurd (hnone.symm.trans hstore) nofun
  | held hsome holds other =>
      cases hsome.symm.trans hstore
      exact .inl ⟨_, other, holds⟩
  | registered hsome own primary kept origin =>
      cases hsome.symm.trans hstore
      exact .inr primary

namespace Registers

variable {tenantId : Nat} {goal : Option Store} {t t' : Table StoreDomain}
  {anomalies : List Anomaly} (h : Registers tenantId goal t anomalies t')

include h

/-- Rows are kept, up to which of them are primary. -/
theorem keeps {d : StoreDomain} (hd : d ∈ t) : ∃ d' ∈ t',
    d'.id = d.id ∧ d'.storeId = d.storeId ∧ d'.hostname = d.hostname ∧ d'.type = d.type := by
  cases h with
  | noStore hnone => exact ⟨d, hd, rfl, rfl, rfl, rfl⟩
  | held hsome holds other => exact ⟨d, hd, rfl, rfl, rfl, rfl⟩
  | registered hsome own primary kept origin =>
      obtain ⟨d', hd', hmarked⟩ := kept d hd
      exact ⟨d', hd', hmarked.fields⟩

theorem provisioned {store : Store} (hrow : Provisioning.provisioned t store = true) :
    Provisioning.provisioned t' store = true := by
  obtain ⟨d, hd, hplatform⟩ := provisioned_iff.mp hrow
  obtain ⟨d', hd', -, hstore, -, htype⟩ := h.keeps hd
  rw [isPlatformRowOf_iff] at hplatform
  exact provisioned_iff.mpr ⟨d', hd', isPlatformRowOf_iff.mpr
    ⟨hstore.trans hplatform.1, htype.trans hplatform.2⟩⟩

theorem holds {hostname : String} {storeId : Nat} (hholds : Holds t hostname storeId) :
    Holds t' hostname storeId := by
  obtain ⟨d, hd, hhost, hstore⟩ := hholds
  obtain ⟨d', hd', -, hstore', hhost', -⟩ := h.keeps hd
  exact ⟨d', hd', hhost'.trans hhost, hstore'.trans hstore⟩

/-- A row afterwards was there before, or it is the custom domain. -/
theorem origin_of {d' : StoreDomain} (hd' : d' ∈ t') :
    (∃ d ∈ t, d'.id = d.id ∧ d'.storeId = d.storeId ∧ d'.hostname = d.hostname ∧
      d'.type = d.type) ∨ ∃ store, d' = customRow tenantId store t.nextKey := by
  cases h with
  | noStore hnone => exact .inl ⟨d', hd', rfl, rfl, rfl, rfl⟩
  | held hsome holds other => exact .inl ⟨d', hd', rfl, rfl, rfl, rfl⟩
  | registered hsome own primary kept origin =>
      obtain ⟨d, hd, hmarked⟩ | hnew := origin d' hd'
      · exact .inl ⟨d, hd, hmarked.fields⟩
      · exact .inr ⟨_, hnew⟩

/-- A store that has a primary row keeps one. -/
theorem keepsPrimary {storeId : Nat}
    (hprimary : ∃ d ∈ t, d.storeId = storeId ∧ d.isPrimary = true) :
    ∃ d ∈ t', d.storeId = storeId ∧ d.isPrimary = true := by
  cases h with
  | noStore hnone => exact hprimary
  | held hsome holds other => exact hprimary
  | @registered store _ hsome own primary kept origin =>
      obtain ⟨d, hd, hstore, hd'⟩ := hprimary
      by_cases hid : store.id = storeId
      · obtain ⟨e, he, -, hown, hprimary⟩ := primary
        exact ⟨e, he, hown.trans hid, hprimary⟩
      · obtain ⟨d', hmem, hmarked⟩ := kept d hd
        have hsame : d' = d := hmarked.2 fun hown => hid (hown.symm.trans hstore)
        exact ⟨d', hmem, by rw [hsame]; exact ⟨hstore, hd'⟩⟩

/-- Only the tenant's store gets a primary row. -/
theorem primary_of {storeId : Nat} (hprimary : ∃ d ∈ t', d.storeId = storeId ∧ d.isPrimary = true) :
    (∃ d ∈ t, d.storeId = storeId ∧ d.isPrimary = true) ∨
      ∃ store, goal = some store ∧ store.id = storeId := by
  cases h with
  | noStore hnone => exact .inl hprimary
  | held hsome holds other => exact .inl hprimary
  | @registered store _ hsome own primary kept origin =>
      obtain ⟨d', hd', hstore, hmain⟩ := hprimary
      by_cases hid : store.id = storeId
      · exact .inr ⟨store, hsome, hid⟩
      · obtain ⟨d, hd, hmarked⟩ | rfl := origin d' hd'
        · have hsame : d' = d := hmarked.2 fun hown =>
            hid (hown.symm.trans (hmarked.fields.2.1.symm.trans hstore))
          exact .inl ⟨d, hd, by rw [← hsame]; exact ⟨hstore, hmain⟩⟩
        · exact absurd hstore hid

/-- What is reported is about the tenant's store and the store that holds the hostname. -/
theorem reported {a : Anomaly} {storeId : Nat} (ha : a ∈ anomalies) (hname : storeId ∈ a.names) :
    ∃ store, goal = some store ∧
      (store.id = storeId ∨ Holds t tenant1CustomHostname storeId) := by
  cases h with
  | noStore hnone =>
      rw [List.mem_singleton.mp ha] at hname
      cases hname
  | @held store holderId hsome holds other =>
      rw [List.mem_singleton.mp ha, Anomaly.names, List.mem_cons, List.mem_singleton] at hname
      obtain rfl | rfl := hname
      · exact ⟨store, hsome, .inr holds⟩
      · exact ⟨store, hsome, .inl rfl⟩
  | registered hsome own primary kept origin => cases ha

/-- The tenant's store has a primary row, or it is reported, and so is another store that holds the
hostname. -/
theorem settled {store : Store} (hgoal : goal = some store) :
    (∃ a ∈ anomalies, store.id ∈ a.names ∧
      ∀ holderId, Holds t tenant1CustomHostname holderId → holderId ∈ a.names) ∨
    (∃ d ∈ t', d.storeId = store.id ∧ d.isPrimary = true) ∧
      ∀ holderId, Holds t tenant1CustomHostname holderId → holderId = store.id := by
  cases h with
  | noStore hnone => exact absurd (hnone.symm.trans hgoal) nofun
  | held hsome holds other =>
      cases hsome.symm.trans hgoal
      refine .inl ⟨_, List.mem_singleton_self _, by simp [Anomaly.names], fun holderId hholds => ?_⟩
      rw [hholds.unique holds]
      exact List.mem_cons_self
  | registered hsome own primary kept origin =>
      cases hsome.symm.trans hgoal
      obtain ⟨d, hd, -, hown, hmain⟩ := primary
      exact .inr ⟨⟨d, hd, hown, hmain⟩, own⟩

end Registers

theorem exists_backfillTenant1CustomDomain_idle {tenantId : Nat}
    (h : Registered (target tenantId w) w.storeDomains) :
    ∃ r, backfillTenant1CustomDomain tenantId w = .ok (r, w) := by
  rw [backfillTenant1CustomDomain, Tx.bind_read]
  cases htarget : target tenantId w with
  | none =>
      have hfind : w.stores.findFirst (fun s => s.tenantId = tenantId && s.isPrimary) = none :=
        htarget
      rw [hfind]
      exact ⟨_, rfl⟩
  | some store =>
      have hfind : w.stores.findFirst (fun s => s.tenantId = tenantId && s.isPrimary) =
        some store := htarget
      rw [hfind]
      dsimp only
      rw [Tx.bind_read]
      obtain ⟨holderId, hother, d, hd, hhost, rfl⟩ | ⟨d, hd, hhost, hown, hprimary⟩ :=
        h store htarget
      · rw [← hhost, findFirst_hostname hd]
        dsimp only
        rw [if_pos hother]
        exact ⟨_, rfl⟩
      · rw [← hhost, findFirst_hostname hd]
        dsimp only
        rw [if_neg (not_not_intro hown), if_pos hprimary]
        exact ⟨_, rfl⟩

end Custom

/-! ## The resolution mode -/

/-- The fourth step always ends, says nothing about a store, and leaves a row of the mode. -/
theorem exists_backfillResolutionModeRow (w : World) : ∃ r c,
    backfillResolutionModeRow w = .ok (r, { w with platformConfig := c }) ∧
    (∀ a ∈ r.anomalies, a.names = []) ∧ ∃ row ∈ c, row.key = storefrontResolutionModeKey := by
  rw [backfillResolutionModeRow, Tx.bind_read]
  cases hfind : w.platformConfig.findFirst (·.key = storefrontResolutionModeKey) with
  | some row =>
      obtain ⟨hrow, hkey⟩ := Table.findFirst_some hfind
      refine ⟨_, w.platformConfig, rfl, fun a ha => ?_, row, hrow, of_decide_eq_true hkey⟩
      split at ha
      · cases ha
      · rw [List.mem_singleton.mp ha]
        rfl
  | none =>
      let row : Nat → PlatformConfig := fun id =>
        ⟨id, storefrontResolutionModeKey, defaultStorefrontResolutionMode⟩
      obtain ⟨c, hc⟩ : ∃ c, w.platformConfig.create row (fun _ => rfl) = some c := by
        refine Table.exists_create fun row hrow hclash => ?_
        exact of_decide_eq_false (Table.findFirst_none hfind row hrow) hclash
      let action :=
        "insert " ++ storefrontResolutionModeKey ++ " = " ++ defaultStorefrontResolutionMode
      refine ⟨⟨"B-4", action, 1, []⟩, c, ?_, fun a ha => absurd ha List.not_mem_nil, _,
        (Table.mem_create hc).mpr (.inr rfl), rfl⟩
      dsimp only
      rw [Tx.bind_apply]
      simp only [Slot.create, Db.platformConfig]
      rw [hc]
      rfl

theorem exists_backfillResolutionModeRow_idle {w : World}
    (h : ∃ row ∈ w.platformConfig, row.key = storefrontResolutionModeKey) :
    ∃ r, backfillResolutionModeRow w = .ok (r, w) := by
  rw [backfillResolutionModeRow, Tx.bind_read]
  cases hfind : w.platformConfig.findFirst (·.key = storefrontResolutionModeKey) with
  | some row => exact ⟨_, rfl⟩
  | none =>
      obtain ⟨row, hrow, hkey⟩ := h
      exact absurd hkey (of_decide_eq_false (Table.findFirst_none hfind row hrow))

end PrintForge.StoreDomains.Provisioning
