import PrintForge.Invoices.Service

/-!
# Numbers without gaps

A tenant's counter is raised in the transactions that insert the tenant's invoices and in no
others, so the values its invoices carry are one, two and so on up to the counter, whatever fails
and is rolled back.

The text of a number is less than its value. The next number is refused where an earlier invoice
of the tenant has the same text, and it is put together in another way: with a longer prefix,
which ends in the first digits of the next value, while the rest of its digits are those of the
earlier one. Until a tenant has a million invoices no two numbers have one text, whichever
prefixes it uses. After that the prefix `INV-` brings back what the prefix `INV-1` began with. The
counter is rolled back with the invoice, so every later request is refused in the same way.
-/

namespace PrintForge.Invoices

open Relational Concurrent Proc

variable {w w' : World} {tenantId : Nat} {lead : String}

/-- The values of a tenant's invoices, oldest first. -/
def issuedValues (tenantId : Nat) (invoices : Table Invoice) : List Nat :=
  (invoices.findMany (·.tenantId = tenantId)).map (·.invoiceNumber.value)

/-- Every tenant's invoices are numbered from one up to the counter. -/
def GapFree (w : World) : Prop :=
  ∀ tenantId, issuedValues tenantId w.invoices = List.range' 1 (counterValue tenantId w)

/-- What the numbers of a tenant's invoices are to be, when the next one is to have a prefix. -/
structure NumberingHolds (w : World) (tenantId : Nat) (lead : String) : Prop where
  onePerOrder : ∀ a ∈ w.invoices, ∀ b ∈ w.invoices, a.orderId = b.orderId → a = b
  counted : counterValue tenantId w = w.invoices.count (·.tenantId = tenantId)
  gapFree : issuedValues tenantId w.invoices = List.range' 1 (counterValue tenantId w)
  fresh : ∀ i ∈ w.invoices, i.tenantId = tenantId →
    i.invoiceNumber.text ≠ (InvoiceNumber.mk lead (counterValue tenantId w + 1)).text
  accepted : ∀ (order : Order) (seller : SellerSnapshot), order.tenantId = tenantId →
    (∀ i ∈ w.invoices, i.orderId ≠ order.id) →
    issueInvoice order lead seller none w ≠ .error .uniqueViolation

/-- An invoice of the tenant has a prefix that goes on with the first digits of the next value,
and its own digits are the others. -/
def Ambiguous (w : World) (tenantId : Nat) (lead : String) : Prop :=
  ∃ i ∈ w.invoices, i.tenantId = tenantId ∧ ∃ digits, digits ≠ [] ∧
    i.invoiceNumber.lead.toList = lead.toList ++ digits ∧
    Nat.toDigits 10 (counterValue tenantId w + 1) =
      digits ++ JavaScript.numeral 6 i.invoiceNumber.value

/-! ## Counters -/

theorem counterRow_create {row : Nat → TenantCounter} {hk} {t : Table TenantCounter}
    (h : w.tenantCounters.create row hk = some t)
    (hname : (row w.tenantCounters.nextKey).name = invoiceNumberCounterKey) (tenantId : Nat) :
    counterRow tenantId { w with tenantCounters := t } = (counterRow tenantId w).or
      (if (row w.tenantCounters.nextKey).tenantId = tenantId then
        some (row w.tenantCounters.nextKey) else none) := by
  unfold counterRow Table.findFirst
  rw [Table.rows_create h, List.find?_append]
  congr 1
  by_cases ht : (row w.tenantCounters.nextKey).tenantId = tenantId <;> simp [ht, hname]

theorem counterRow_update {k : Nat} {hf} {t : Table TenantCounter}
    (h : w.tenantCounters.update (Schema.key · = k) (fun c => { c with value := c.value + 1 }) hf =
      some t) (tenantId : Nat) :
    counterRow tenantId { w with tenantCounters := t } = (counterRow tenantId w).map
      fun c => if c.id = k then { c with value := c.value + 1 } else c := by
  unfold counterRow Table.findFirst
  rw [Table.rows_update h, List.find?_map]
  congr 1
  · funext c
    simp [Schema.key]
  · congr 1
    funext c
    by_cases hk : c.id = k <;> simp [Schema.key, hk]

/-- The counter of a tenant is raised by one, and nothing else is written. -/
structure Raised (tenantId : Nat) (w w' : World) : Prop where
  orders : w'.orders = w.orders
  tenantSettings : w'.tenantSettings = w.tenantSettings
  invoices : w'.invoices = w.invoices
  raised : counterValue tenantId w' = counterValue tenantId w + 1
  others : ∀ t, t ≠ tenantId → counterValue t w' = counterValue t w

theorem allocate_ok {number : InvoiceNumber} (h : allocate tenantId lead w = .ok (number, w')) :
    number = ⟨lead, counterValue tenantId w + 1⟩ ∧ Raised tenantId w w' := by
  rw [allocate, Tx.bind_read] at h
  cases hrow : counterRow tenantId w with
  | none =>
      rw [hrow] at h
      obtain ⟨row, w₁, hcreate, hreturn⟩ := Tx.bind_ok.mp h
      obtain ⟨t, ht, rfl, rfl⟩ := Slot.create_ok hcreate
      cases hreturn
      have hnone : counterValue tenantId w = 0 := by rw [counterValue, hrow, Option.map_none,
        Option.getD_none]
      refine ⟨by rw [hnone], rfl, rfl, rfl, ?_, fun t' hne => ?_⟩
      · rw [counterValue, Db.tenantCounters, counterRow_create ht rfl, hrow, Option.none_or,
          if_pos rfl, hnone, Option.map_some, Option.getD_some]
      · rw [counterValue, Db.tenantCounters, counterRow_create ht rfl, if_neg (Ne.symm hne),
          Option.or_none, counterValue]
  | some counter =>
      rw [hrow] at h
      dsimp only at h
      split at h
      · cases h
      · obtain ⟨row, w₁, hupdate, hreturn⟩ := Tx.bind_ok.mp h
        obtain ⟨r₀, t, hget, ht, rfl, rfl⟩ := Slot.update_ok hupdate
        cases hreturn
        obtain ⟨hmem, hfor⟩ := Table.findFirst_some hrow
        have hfor : counter.tenantId = tenantId ∧ counter.name = invoiceNumberCounterKey := by
          simpa using hfor
        obtain rfl : r₀ = counter := by
          have hkey := Table.get_key hmem
          exact Option.some.inj (hget.symm.trans hkey)
        have hvalue : counterValue tenantId w = r₀.value := by
          rw [counterValue, hrow, Option.map_some, Option.getD_some]
        refine ⟨by rw [hvalue], rfl, rfl, rfl, ?_, fun t' hne => ?_⟩
        · rw [counterValue, Db.tenantCounters, counterRow_update ht, hrow, hvalue]
          simp
        · rw [counterValue, Db.tenantCounters, counterRow_update ht, counterValue, Option.map_map]
          congr 1
          refine Option.map_congr fun c hc => ?_
          have hother : c.id ≠ r₀.id := by
            intro heq
            obtain ⟨hc, hcfor⟩ := Table.findFirst_some hc
            have hcfor : c.tenantId = t' ∧ c.name = invoiceNumberCounterKey := by simpa using hcfor
            have hsame : c = r₀ := Table.eq_of_key hc hmem heq
            rw [hsame] at hcfor
            exact hne (hcfor.1.symm.trans hfor.1)
          simp [hother]

/-- A counter is refused only where it has come to the end of its column. -/
theorem allocate_error {e : HttpError} (h : allocate tenantId lead w = .error e) :
    e = .other "integer out of range" ∧ maxValue ≤ counterValue tenantId w := by
  rw [allocate, Tx.bind_read] at h
  cases hrow : counterRow tenantId w with
  | none =>
      rw [hrow] at h
      obtain hcreate | ⟨row, w₁, -, hreturn⟩ := Tx.bind_error.mp h
      · obtain ⟨-, c, hc, ht, hn⟩ := Slot.create_error hcreate
        have hfree := Table.findFirst_none hrow c hc
        rw [ht, hn] at hfree
        simp at hfree
      · cases hreturn
  | some counter =>
      rw [hrow] at h
      dsimp only at h
      split at h
      · next hfull =>
        cases h
        refine ⟨rfl, ?_⟩
        rw [counterValue, hrow, Option.map_some, Option.getD_some]
        omega
      · obtain hupdate | ⟨row, w₁, -, hreturn⟩ := Tx.bind_error.mp h
        · obtain ⟨hnone, -⟩ | ⟨-, a, ha, b, hb, hne, hclash⟩ := Slot.update_error hupdate
          · exact absurd rfl (Table.get_eq_none.mp hnone counter (Table.findFirst_some hrow).1)
          · refine absurd ?_ (Table.apart ha hb hne).2
            have hsame : ∀ c : TenantCounter,
                let c' := if Schema.key c = counter.id then { c with value := c.value + 1 } else c
                c'.tenantId = c.tenantId ∧ c'.name = c.name := by
              intro c
              dsimp only
              split
              · exact ⟨rfl, rfl⟩
              · exact ⟨rfl, rfl⟩
            exact ⟨(hsame a).1.symm.trans (hclash.1.trans (hsame b).1),
              (hsame a).2.symm.trans (hclash.2.trans (hsame b).2)⟩
        · cases hreturn

/-! ## One invoice -/

/-- What the transaction that makes an invoice leaves behind. -/
structure Issued (order : Order) (lead : String) (w w' : World) (i : Invoice) : Prop where
  orders : w'.orders = w.orders
  tenantSettings : w'.tenantSettings = w.tenantSettings
  created : ∃ row hk, w.invoices.create row hk = some w'.invoices ∧ i = row w.invoices.nextKey
  orderId : i.orderId = order.id
  tenantId : i.tenantId = order.tenantId
  invoiceNumber : i.invoiceNumber = ⟨lead, counterValue order.tenantId w + 1⟩
  raised : counterValue order.tenantId w' = counterValue order.tenantId w + 1
  others : ∀ t, t ≠ order.tenantId → counterValue t w' = counterValue t w

theorem reach_ok {fault : Fault} {statement : Statement}
    (h : reach fault statement w = .ok ((), w')) : w' = w := by
  unfold reach at h
  split at h
  · cases h
    rfl
  · split at h <;> cases h
    rfl

theorem issueInvoice_ok {order : Order} {seller : SellerSnapshot} {fault : Fault} {i : Invoice}
    (h : issueInvoice order lead seller fault w = .ok (i, w')) : Issued order lead w w' i := by
  unfold issueInvoice at h
  obtain ⟨_, w₁, hreach, h₁⟩ := Tx.bind_ok.mp h
  rw [reach_ok hreach] at h₁
  obtain ⟨number, w₂, hallocate, h₂⟩ := Tx.bind_ok.mp h₁
  obtain ⟨rfl, hraised⟩ := allocate_ok hallocate
  obtain ⟨_, w₃, hreach', h₃⟩ := Tx.bind_ok.mp h₂
  rw [reach_ok hreach'] at h₃
  obtain ⟨row, w₄, hcreate, h₄⟩ := Tx.bind_ok.mp h₃
  obtain ⟨t, ht, rfl, rfl⟩ := Slot.create_ok hcreate
  obtain ⟨_, w₅, hreach'', hreturn⟩ := Tx.bind_ok.mp h₄
  rw [reach_ok hreach''] at hreturn
  cases hreturn
  have hcreated := ht
  simp only [Db.invoices, hraised.invoices] at hcreated
  exact
    { orders := hraised.orders
      tenantSettings := hraised.tenantSettings
      created := ⟨_, _, hcreated, by simp only [Db.invoices, hraised.invoices]⟩
      orderId := rfl
      tenantId := rfl
      invoiceNumber := rfl
      raised := hraised.raised
      others := hraised.others }

theorem issuedValues_create {row : Nat → Invoice} {hk} {t t' : Table Invoice}
    (h : t.create row hk = some t') (tenantId : Nat) :
    issuedValues tenantId t' = issuedValues tenantId t ++
      if (row t.nextKey).tenantId = tenantId then
        [(row t.nextKey).invoiceNumber.value] else [] := by
  unfold issuedValues Table.findMany
  rw [Table.rows_create h, List.filter_append, List.map_append]
  congr 1
  by_cases ht : (row t.nextKey).tenantId = tenantId <;> simp [ht]

theorem GapFree.issued {order : Order} {i : Invoice} (h : GapFree w)
    (hissued : Issued order lead w w' i) : GapFree w' := by
  intro tenantId
  obtain ⟨row, hk, hcreate, hi⟩ := hissued.created
  rw [issuedValues_create hcreate, ← hi, hissued.tenantId, hissued.invoiceNumber, h tenantId]
  by_cases ht : order.tenantId = tenantId
  · subst ht
    rw [if_pos rfl, hissued.raised, List.range'_1_concat, Nat.add_comm 1]
  · rw [if_neg ht, List.append_nil, hissued.others tenantId (Ne.symm ht)]

/-! ## Runs -/

theorem upsertSetting_ok {name value : String} {s : Checkout.Setting}
    (h : upsertSetting tenantId name value w = .ok (s, w')) :
    w'.invoices = w.invoices ∧ w'.tenantCounters = w.tenantCounters := by
  rw [upsertSetting, Tx.bind_read] at h
  cases hfound : w.tenantSettings.findFirst fun s => s.ownerId = tenantId && s.name = name with
  | none =>
      rw [hfound] at h
      obtain ⟨t, -, -, rfl⟩ := Slot.create_ok h
      exact ⟨rfl, rfl⟩
  | some setting =>
      rw [hfound] at h
      obtain ⟨r, t, -, -, -, rfl⟩ := Slot.update_ok h
      exact ⟨rfl, rfl⟩

/-- The writes that requests make. -/
inductive Write : (World → World) → Prop
  | createInvoice (order : Order) (lead : String) (seller : SellerSnapshot) (fault : Fault) :
      Write (applied (issueInvoice order lead seller fault))
  | upsertSetting (tenantId : Nat) (name value : String) :
      Write (applied (upsertSetting tenantId name value))
  | writeOrders (orders : Table Order) : Write (applied (overwriteOrders orders))

/-- Only these are listed. -/
def Written (_ : Commit) (upd : World → World) : Prop := Write upd

theorem createInvoice_commits (order : Order) (fault : Fault) :
    (createInvoice order fault).Commits Written := by
  unfold createInvoice
  refine (commits_read _).bind fun lead => (commits_read _).bind fun seller => ?_
  refine Commits.tryCatch (commits_transact (Write.createInvoice ..)) fun err => ?_
  split
  · refine (commits_read _).bind fun existing => ?_
    cases existing with
    | some invoice => exact commits_pure _
    | none => exact commits_throw _
  · exact commits_throw _

theorem upsertSetting_commits (tenantId : Nat) (name value : String) :
    (Proc.transact (.updateSetting tenantId name value) (upsertSetting tenantId name value) :
      Operation Checkout.Setting).Commits Written :=
  commits_transact (Write.upsertSetting ..)

theorem updateInvoicePrefix_commits (tenantId : Nat) (raw : String) :
    (updateInvoicePrefix tenantId raw).Commits Written := by
  unfold updateInvoicePrefix
  cases normalizeInvoicePrefix raw with
  | error err => exact commits_throw err
  | ok value => exact (upsertSetting_commits ..).bind fun _ => commits_pure _

theorem serve_commits (i : Nat) (req : Request) : (serve i req).Commits Written := by
  cases req with
  | getInvoiceForOrder orderId actor fault =>
      refine Commits.map ((commits_read _).bind fun found => ?_) some
      cases found with
      | none => exact commits_throw _
      | some found =>
          obtain ⟨order, existing⟩ := found
          dsimp only
          split
          · exact commits_throw _
          · cases existing with
            | some invoice => exact commits_pure _
            | none =>
                dsimp only
                split
                · exact commits_throw _
                · exact createInvoice_commits order fault
  | updateInvoicePrefix tenantId raw =>
      exact (updateInvoicePrefix_commits tenantId raw).map fun _ => none
  | updateSetting tenantId name value h =>
      exact (upsertSetting_commits tenantId name value).map fun _ => none
  | writeOrders orders => exact commits_transact (K := Written) (Write.writeOrders orders)

theorem GapFree.write {upd : World → World} (h : GapFree w) (hwrite : Write upd) :
    GapFree (upd w) := by
  cases hwrite with
  | createInvoice order lead seller fault =>
      cases hissue : issueInvoice order lead seller fault w with
      | error e => rwa [applied_error hissue]
      | ok r =>
          obtain ⟨issued, w'⟩ := r
          rw [applied_ok hissue]
          exact h.issued (issueInvoice_ok hissue)
  | upsertSetting tenantId name value =>
      cases hupsert : upsertSetting tenantId name value w with
      | error e => rwa [applied_error hupsert]
      | ok r =>
          obtain ⟨s, w'⟩ := r
          obtain ⟨hinvoices, hcounters⟩ := upsertSetting_ok hupsert
          rw [applied_ok hupsert]
          intro tenantId
          rw [hinvoices, counterValue, counterRow, hcounters]
          exact h tenantId
  | writeOrders orders => exact h

theorem gapFree_initial (orders : Table Order) (settings : Table Checkout.Setting) :
    GapFree (World.initial orders settings) := fun _ => rfl

theorem gapFree_of_run {orders : Table Order} {settings : Table Checkout.Setting}
    {c : Config World Request Commit HttpError (Option Invoice)}
    (hrun : InvoiceRun ⟨.initial orders settings, []⟩ c) : GapFree c.state :=
  listed_idle.invariant serve_commits (gapFree_initial orders settings)
    (fun _ _ _ hwrite _ h => h.write hwrite) hrun

/-! ## The next number -/

theorem text_toList (number : InvoiceNumber) :
    number.text.toList = number.lead.toList ++ JavaScript.numeral 6 number.value := by
  rw [InvoiceNumber.text, String.toList_append, JavaScript.padStart_toString]

theorem text_eq_iff {a b : InvoiceNumber} (h : b.value < a.value) :
    b.text = a.text ↔ ∃ digits, digits ≠ [] ∧ b.lead.toList = a.lead.toList ++ digits ∧
      Nat.toDigits 10 a.value = digits ++ JavaScript.numeral 6 b.value := by
  rw [← JavaScript.append_numeral_eq_iff h, ← text_toList, ← text_toList, String.toList_inj,
    eq_comm]

theorem GapFree.value_le {i : Invoice} (h : GapFree w) (hi : i ∈ w.invoices) :
    i.invoiceNumber.value ≤ counterValue i.tenantId w := by
  have hvalue : i.invoiceNumber.value ∈ issuedValues i.tenantId w.invoices :=
    List.mem_map_of_mem (List.mem_filter.mpr ⟨hi, by simp⟩)
  rw [h, List.mem_range'_1] at hvalue
  omega

theorem GapFree.counted (h : GapFree w) (tenantId : Nat) :
    counterValue tenantId w = w.invoices.count (·.tenantId = tenantId) := by
  have hlen := congrArg List.length (h tenantId)
  rw [issuedValues, List.length_map, List.length_range'] at hlen
  rw [← hlen, Table.findMany, Table.count, List.countP_eq_length_filter]

/-- The next number is taken where its text is ambiguous, and only there. -/
theorem GapFree.ambiguous_iff (h : GapFree w) (tenantId : Nat) (lead : String) :
    Ambiguous w tenantId lead ↔ ∃ i ∈ w.invoices, i.tenantId = tenantId ∧
      i.invoiceNumber.text = (InvoiceNumber.mk lead (counterValue tenantId w + 1)).text := by
  unfold Ambiguous
  refine exists_congr fun i => and_congr_right fun hi => and_congr_right fun ht => ?_
  have hle := h.value_le hi
  rw [ht] at hle
  exact (text_eq_iff (a := ⟨lead, counterValue tenantId w + 1⟩) (Nat.lt_succ_of_le hle)).symm

/-- The first million numbers are told apart by their last six digits. -/
theorem not_ambiguous_of_le (h : counterValue tenantId w + 1 ≤ 999999) :
    ¬ Ambiguous w tenantId lead := by
  rintro ⟨i, -, -, digits, hne, -, hdigits⟩
  exact JavaScript.not_digits_append_numeral (by decide) (by omega) hne hdigits

/-- What the transaction runs into that has no fault of its own. -/
theorem issueInvoice_error {order : Order} {seller : SellerSnapshot} {e : HttpError}
    (h : issueInvoice order lead seller none w = .error e) :
    maxValue ≤ counterValue order.tenantId w ∧ e = .other "integer out of range" ∨
    e = .uniqueViolation ∧ ((∃ i ∈ w.invoices, i.orderId = order.id) ∨
      ∃ i ∈ w.invoices, i.tenantId = order.tenantId ∧ i.invoiceNumber.text =
        (InvoiceNumber.mk lead (counterValue order.tenantId w + 1)).text) := by
  unfold issueInvoice at h
  simp only [reach, LawfulMonad.pure_bind] at h
  obtain hallocate | ⟨number, w₁, hallocate, hrest⟩ := Tx.bind_error.mp h
  · obtain ⟨he, hfull⟩ := allocate_error hallocate
    exact .inl ⟨hfull, he⟩
  · obtain ⟨rfl, hraised⟩ := allocate_ok hallocate
    obtain hcreate | ⟨i, w₂, -, hreturn⟩ := Tx.bind_error.mp hrest
    · obtain ⟨he, i, hi, hclash⟩ := Slot.create_error hcreate
      simp only [Db.invoices, hraised.invoices] at hi
      refine .inr ⟨he, hclash.imp (fun horder => ⟨i, hi, horder⟩) fun htext => ?_⟩
      exact ⟨i, hi, htext⟩
    · cases hreturn

/-- An order that has been paid for. -/
def paidOrder (id : Nat) : Order where
  id := id
  tenantId := 0
  userId := 0
  status := .paid
  currency := "INR"
  subtotal := ⟨500, 0⟩
  discountAmount := ⟨0, 0⟩
  shippingFee := ⟨0, 0⟩
  taxableAmount := ⟨500, 0⟩
  taxAmount := ⟨0, 0⟩
  total := ⟨500, 0⟩
  taxMode := "INCLUSIVE"
  taxRateSnapshot := none
  taxBreakdown := none

/-- In every state of every run, a tenant's numbers are as they are to be just where the next one
is not ambiguous. Of the tenant's counter and of the invoices of an order this is unconditional. -/
theorem numbering_holds_iff (orders : Table Order) (settings : Table Checkout.Setting)
    {c : Config World Request Commit HttpError (Option Invoice)}
    (hrun : InvoiceRun ⟨.initial orders settings, []⟩ c) (tenantId : Nat) (lead : String) :
    NumberingHolds c.state tenantId lead ↔ ¬ Ambiguous c.state tenantId lead := by
  have hgap := gapFree_of_run hrun
  rw [hgap.ambiguous_iff]
  constructor
  · rintro hholds ⟨i, hi, ht, htext⟩
    exact hholds.fresh i hi ht htext
  · intro hclear
    refine
      { onePerOrder := fun a ha b hb he => Table.eq_of_clash ha hb (.inl he)
        counted := hgap.counted tenantId
        gapFree := hgap tenantId
        fresh := fun i hi ht htext => hclear ⟨i, hi, ht, htext⟩
        accepted := fun order seller ht hnone herror => ?_ }
    subst ht
    obtain ⟨-, he⟩ | ⟨-, ⟨i, hi, horder⟩ | htaken⟩ := issueInvoice_error herror
    · cases he
    · exact hnone i hi horder
    · exact hclear htaken

/-- Two orders are invoiced while the prefix is changed. -/
theorem numbering_holds_interleaved : ∃ orders settings c,
    InvoiceRun ⟨.initial orders settings, []⟩ c ∧
    c.state.invoices.rows.map (·.invoiceNumber.text) = ["INV-000001", "INV-1000002"] ∧
    ∀ lead, NumberingHolds c.state 0 lead := by
  let orders : Table Order := ⟨[paidOrder 0, paidOrder 1], 2, by decide, by decide⟩
  let actor : InvoiceActor := ⟨0, false, none⟩
  -- the first request for the second order is rolled back by a lost connection
  have hexec : (exec serve (fun _ _ => True) (fun _ _ => True)
      [.accept (.getInvoiceForOrder 0 actor none),
        .accept (.getInvoiceForOrder 1 actor (some (.commit, .other "connection lost"))),
        .advance 0, .advance 1, .advance 0, .advance 1, .advance 0, .advance 1, .advance 1,
        .accept (.updateInvoicePrefix 0 "inv-1"), .advance 2,
        .accept (.getInvoiceForOrder 1 actor none), .advance 3, .advance 3, .advance 3,
        .advance 0, .advance 3]
      ⟨.initial orders .empty, []⟩).any (fun c =>
        decide (c.state.invoices.rows.map (·.invoiceNumber.text) =
          ["INV-000001", "INV-1000002"] ∧ counterValue 0 c.state = 2)) = true := by
    decide +kernel
  obtain ⟨c, hrun, hc⟩ := exec_any hexec
  obtain ⟨htexts, hvalue⟩ := of_decide_eq_true hc
  refine ⟨orders, .empty, c, hrun, htexts, fun lead => ?_⟩
  exact (numbering_holds_iff orders .empty hrun 0 lead).mpr (not_ambiguous_of_le (by omega))

/-! ## A million invoices -/

/-- A paid order's request that runs by itself gets an invoice with the next number. -/
theorem getInvoiceForOrder_alone (order : Order) (actor : InvoiceActor)
    (hget : w.orders.get order.id = some order) (hsee : actor.maySee order = true)
    (hstatus : order.status ∈ invoiceableStatuses) (hnone : ∀ i ∈ w.invoices, i.orderId ≠ order.id)
    (hroom : counterValue order.tenantId w < maxValue)
    (hfree : ∀ i ∈ w.invoices, i.tenantId = order.tenantId → i.invoiceNumber.text ≠
      (InvoiceNumber.mk (numberPrefix order.tenantId w) (counterValue order.tenantId w + 1)).text) :
    ∃ i w', (getInvoiceForOrder order.id actor none).alone w = (.ok i, w') ∧
      Issued order (numberPrefix order.tenantId w) w w' i := by
  have hunissued : w.invoices.findFirst (·.orderId = order.id) = none := by
    refine List.find?_eq_none.mpr fun i hi => ?_
    simpa using hnone i hi
  cases hissue : issueInvoice order (numberPrefix order.tenantId w)
      (buildSellerSnapshot order.tenantId w) none w with
  | error e =>
      exfalso
      obtain ⟨hfull, -⟩ | ⟨-, ⟨i, hi, horder⟩ | ⟨i, hi, ht, htext⟩⟩ := issueInvoice_error hissue
      · omega
      · exact hnone i hi horder
      · exact hfree i hi ht htext
  | ok r =>
      refine ⟨r.1, r.2, ?_, issueInvoice_ok hissue⟩
      rw [getInvoiceForOrder, alone_bind (alone_read _ w), hget, Option.map_some, hunissued]
      dsimp only
      rw [if_neg (by simp [hsee]), if_neg (not_not.mpr hstatus), createInvoice,
        alone_bind (alone_read _ w), alone_bind (alone_read _ w)]
      exact alone_tryCatch_ok (alone_transact_ok hissue)

theorem getTenantValue_of_mem {s : Checkout.Setting} (h : s ∈ w.tenantSettings) :
    getTenantValue s.ownerId s.name w = some s.value := by
  have hfound : (w.tenantSettings.findFirst fun x => x.ownerId = s.ownerId && x.name = s.name) =
      some s := by
    refine Table.findFirst_eq_some h (by simp) fun x hx hfor => ?_
    have hfor : x.ownerId = s.ownerId ∧ x.name = s.name := by simpa using hfor
    exact Table.eq_of_clash hx h hfor
  rw [getTenantValue, hfound, Option.map_some]

theorem exists_upsertSetting (tenantId : Nat) (name value : String) (w : World) :
    ∃ s w', upsertSetting tenantId name value w = .ok (s, w') ∧
      getTenantValue tenantId name w' = some value := by
  rw [upsertSetting, Tx.bind_read]
  cases hfound : w.tenantSettings.findFirst fun s => s.ownerId = tenantId && s.name = name with
  | none =>
      dsimp only
      cases hcreate : (Db.tenantSettings.create fun id => { id, ownerId := tenantId, name, value } :
          Transaction Checkout.Setting) w with
      | error e =>
          obtain ⟨-, s, hs, ht, hn⟩ := Slot.create_error hcreate
          have hfree := Table.findFirst_none hfound s hs
          rw [ht, hn] at hfree
          simp at hfree
      | ok r =>
          obtain ⟨s, w'⟩ := r
          obtain ⟨t, ht, rfl, rfl⟩ := Slot.create_ok hcreate
          have hnew := (Table.mem_create ht).mpr (.inr rfl)
          exact ⟨_, _, rfl, getTenantValue_of_mem (w := { w with tenantSettings := t }) hnew⟩
  | some setting =>
      obtain ⟨hmem, hfor⟩ := Table.findFirst_some hfound
      have hfor : setting.ownerId = tenantId ∧ setting.name = name := by simpa using hfor
      obtain ⟨rfl, rfl⟩ := hfor
      dsimp only
      cases hupdate : (Db.tenantSettings.update setting.id fun s => { s with value } :
          Transaction Checkout.Setting) w with
      | error e =>
          obtain ⟨hnone, -⟩ | ⟨-, a, ha, b, hb, hne, ht, hn⟩ := Slot.update_error hupdate
          · exact absurd rfl (Table.get_eq_none.mp hnone setting hmem)
          · refine absurd ⟨?_, ?_⟩ (Table.apart ha hb hne).2
            · split at ht <;> split at ht <;> exact ht
            · split at hn <;> split at hn <;> exact hn
      | ok r =>
          obtain ⟨s, w'⟩ := r
          obtain ⟨r₀, t, hget, ht, rfl, rfl⟩ := Slot.update_ok hupdate
          have hsame : r₀ = setting := Option.some.inj (hget.symm.trans (Table.get_key hmem))
          have hnew := Table.mem_of_update_true ht hmem (decide_eq_true rfl)
          exact ⟨_, _, rfl, getTenantValue_of_mem (w := { w with tenantSettings := t }) hnew⟩

/-- The service can come to this state. -/
def Reached (w : World) : Prop :=
  ∃ orders settings flights, InvoiceRun ⟨.initial orders settings, []⟩ ⟨w, flights⟩

/-- Any request may be served alone. -/
theorem Reached.serve (h : Reached w) (req : Request) : Reached ((serve 0 req).alone w).2 := by
  obtain ⟨orders, settings, flights, hrun⟩ := h
  have haccept : InvoiceRun ⟨w, flights⟩
      ⟨w, flights ++ [(req, Invoices.serve flights.length req)]⟩ :=
    .single (.accept req trivial)
  have hlast : (flights ++ [(req, Invoices.serve flights.length req)])[flights.length]? =
      some (req, Invoices.serve flights.length req) := List.getElem?_concat_length
  exact ⟨orders, settings, _,
    (hrun.trans haccept).trans (run_alone (fun _ _ => trivial) _ hlast)⟩

/-- A change of the prefix that is accepted. -/
theorem Reached.updateInvoicePrefix {raw value : String} (h : Reached w) (tenantId : Nat)
    (hraw : normalizeInvoicePrefix raw = .ok value) :
    ∃ w', Reached w' ∧ w'.invoices = w.invoices ∧ w'.tenantCounters = w.tenantCounters ∧
      getTenantValue tenantId numberPrefixKey w' = some value := by
  obtain ⟨s, w', hupsert, hvalue⟩ := exists_upsertSetting tenantId numberPrefixKey value w
  obtain ⟨hinvoices, hcounters⟩ := upsertSetting_ok hupsert
  refine ⟨w', ?_, hinvoices, hcounters, hvalue⟩
  have hserved := h.serve (.updateInvoicePrefix tenantId raw)
  rw [Invoices.serve, alone_map, Invoices.updateInvoicePrefix, hraw] at hserved
  dsimp only at hserved
  rwa [alone_bind (alone_transact_ok hupsert)] at hserved

/-- The table of one paid order. -/
def onlyOrder (id : Nat) : Table Order where
  rows := [paidOrder id]
  nextKey := id + 1
  key_lt r hr := by
    rw [List.mem_singleton.mp hr]
    exact Nat.lt_succ_self id
  consistent := List.pairwise_singleton _ _

/-- The first `n` invoices of a tenant with the prefix `INV-1`. -/
structure FirstPrefix (n : Nat) (w : World) : Prop where
  gapFree : GapFree w
  count : counterValue 0 w = n
  setting : getTenantValue 0 numberPrefixKey w = some "INV-1"
  leads : ∀ i ∈ w.invoices, i.tenantId = 0 ∧ i.invoiceNumber.lead = "INV-1" ∧ i.orderId < n

/-- With one prefix the next number is always a new one. -/
theorem FirstPrefix.free {n : Nat} (h : FirstPrefix n w) {i : Invoice} (hi : i ∈ w.invoices) :
    i.invoiceNumber.text ≠ (InvoiceNumber.mk "INV-1" (n + 1)).text := by
  intro htext
  have hle := h.gapFree.value_le hi
  obtain ⟨ht, hlead, -⟩ := h.leads i hi
  rw [ht, h.count] at hle
  obtain ⟨digits, hne, hmore, -⟩ :=
    (text_eq_iff (a := ⟨"INV-1", n + 1⟩) (Nat.lt_succ_of_le hle)).mp htext
  rw [hlead] at hmore
  exact hne (List.append_right_eq_self.mp hmore.symm)

theorem FirstPrefix.first {n : Nat} (h : FirstPrefix n w) (hn : 0 < n) :
    ∃ i ∈ w.invoices, i.tenantId = 0 ∧ i.invoiceNumber = ⟨"INV-1", 1⟩ := by
  have hfirst : 1 ∈ issuedValues 0 w.invoices := by
    rw [h.gapFree, h.count]
    exact List.mem_range'_1.mpr (by omega)
  obtain ⟨i, hi, hvalue⟩ := List.mem_map.mp hfirst
  obtain ⟨ht, hlead, -⟩ := h.leads i (List.mem_of_mem_filter hi)
  refine ⟨i, List.mem_of_mem_filter hi, ht, ?_⟩
  rw [← hlead, ← hvalue]

/-- Another order is paid for and its invoice is asked for. -/
theorem FirstPrefix.next {n : Nat} (h : FirstPrefix n w) (hw : Reached w) (hn : n < maxValue) :
    ∃ w', Reached w' ∧ FirstPrefix (n + 1) w' := by
  let paid : World := { w with orders := onlyOrder n }
  have hpaid : Reached paid := hw.serve (.writeOrders (onlyOrder n))
  have hgap : GapFree paid := h.gapFree
  have hsetting : getTenantValue 0 numberPrefixKey paid = some "INV-1" := h.setting
  have hvalue : counterValue 0 paid = n := h.count
  have hseries : numberPrefix 0 paid = "INV-1" := by
    rw [numberPrefix, hsetting]
    decide +kernel
  have hfree : ∀ i ∈ paid.invoices, i.tenantId = 0 → i.invoiceNumber.text ≠
      (InvoiceNumber.mk (numberPrefix 0 paid) (counterValue 0 paid + 1)).text := by
    intro i hi _
    rw [hseries, hvalue]
    exact h.free hi
  have hget : (onlyOrder n).get n = some (paidOrder n) :=
    Table.get_key (t := onlyOrder n) (r := paidOrder n) (List.mem_singleton.mpr rfl)
  have hnone : ∀ i ∈ w.invoices, i.orderId ≠ n := fun i hi => Nat.ne_of_lt (h.leads i hi).2.2
  obtain ⟨i, w', halone, hissued⟩ := getInvoiceForOrder_alone (w := paid) (paidOrder n)
    ⟨0, false, none⟩ hget rfl (List.mem_cons_self ..) hnone (hvalue.trans_lt hn) hfree
  have hserved := hpaid.serve (.getInvoiceForOrder (paidOrder n).id ⟨0, false, none⟩ none)
  rw [Invoices.serve, alone_map, halone] at hserved
  refine ⟨w', hserved, hgap.issued hissued, ?_, ?_, ?_⟩
  · exact hissued.raised.trans (congrArg (· + 1) h.count)
  · rw [getTenantValue, hissued.tenantSettings]
    exact h.setting
  · intro j hj
    obtain ⟨row, hk, hcreate, hi⟩ := hissued.created
    obtain hold | rfl := (Table.mem_create hcreate).mp hj
    · obtain ⟨ht, hlead, horder⟩ := h.leads j hold
      exact ⟨ht, hlead, Nat.lt_succ_of_lt horder⟩
    · rw [← hi, hissued.tenantId, hissued.invoiceNumber, hissued.orderId]
      exact ⟨rfl, hseries, Nat.lt_succ_self n⟩

theorem exists_firstPrefix {n : Nat} (h : n ≤ maxValue) : ∃ w, Reached w ∧ FirstPrefix n w := by
  induction n with
  | zero =>
      have hidle : Reached (.initial .empty .empty) := ⟨.empty, .empty, [], .refl⟩
      have hraw : normalizeInvoicePrefix "INV-1" = .ok "INV-1" := by decide +kernel
      obtain ⟨w, hw, hinvoices, hcounters, hsetting⟩ := hidle.updateInvoicePrefix 0 hraw
      refine ⟨w, hw, fun t => ?_, ?_, hsetting, fun i hi => ?_⟩
      · rw [hinvoices, counterValue, counterRow, hcounters]
        rfl
      · rw [counterValue, counterRow, hcounters]
        rfl
      · rw [hinvoices] at hi
        exact absurd hi (Table.not_mem_empty i)
  | succ n ih =>
      obtain ⟨w, hw, hstage⟩ := ih (by omega)
      exact hstage.next hw (by omega)

/-- A million invoices are numbered under the prefix `INV-1`. Then the prefix is set to `INV-`, and
the first number comes again. -/
theorem invoice_number_repeats :
    ¬ ∀ (orders : Table Order) (settings : Table Checkout.Setting)
      (c : Config World Request Commit HttpError (Option Invoice)),
        InvoiceRun ⟨.initial orders settings, []⟩ c →
          ∀ tenantId, NumberingHolds c.state tenantId (numberPrefix tenantId c.state) := by
  intro hall
  obtain ⟨w, hw, hstage⟩ := exists_firstPrefix (n := 1000000) (by decide)
  have hraw : normalizeInvoicePrefix "INV-" = .ok "INV-" := by decide +kernel
  obtain ⟨w', ⟨orders, settings, flights, hrun⟩, hinvoices, hcounters, hsetting⟩ :=
    hw.updateInvoicePrefix 0 hraw
  have hholds := hall orders settings _ hrun 0
  have hseries : numberPrefix 0 w' = "INV-" := by
    rw [numberPrefix, hsetting]
    decide +kernel
  have hcount : counterValue 0 w' = 1000000 := by
    rw [counterValue, counterRow, hcounters]
    exact hstage.count
  obtain ⟨i, hi, ht, hnumber⟩ := hstage.first (by decide)
  have hfresh := hholds.fresh i (hinvoices ▸ hi) ht
  rw [hseries, hcount, hnumber] at hfresh
  exact hfresh (by decide +kernel)

end PrintForge.Invoices
