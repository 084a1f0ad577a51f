import PrintForge.Backfill.Schema
import PrintForge.Checkout.Service
import PrintForge.Invoices.Guarantees

/-!
# Seeding the counters

The last number given to an order or an invoice is kept as a text in the settings. The backfill
reads the numbers that are on the orders and the invoices, and takes the text over as the tenant's
counter where it is the largest of them.
-/

namespace PrintForge.Backfill

open JavaScript

def parseTrailingNumber (value : String) : Option Number := parseTrailing value.toList

inductive CounterValidationStatus where
  | pass
  | belowMax
  | aboveMax
  | malformed
  | sourceMalformed
  | noSourceRow
deriving DecidableEq, Repr

structure CounterValidation where
  key : String
  sourceValue : Option Int
  actualMax : Option Number
  malformedCount : Nat
  status : CounterValidationStatus
deriving DecidableEq, Repr

/-- The largest number so far, and how many texts have ended in none. -/
def countNumber (seen : Number × Nat) (value : String) : Number × Nat :=
  match parseTrailingNumber value with
  | none => (seen.1, seen.2 + 1)
  | some n => (if seen.1.less n then n else seen.1, seen.2)

/-- An integer is smaller than a number. -/
def below (source : Int) : Number → Bool
  | .finite n => source < n
  | .infinite => true

/-- An integer is larger than a number. -/
def above (source : Int) : Number → Bool
  | .finite n => n < source
  | .infinite => false

def validateCounterAgainstMax (key : String) (table : TableName) (numberColumn : TextColumn)
    (d : Database) : CounterValidation :=
  match (d.appSettings.find? (·.key = key)).map (·.value) with
  | none => ⟨key, none, none, 0, .noSourceRow⟩
  | some text =>
      match parseInt text with
      | none => ⟨key, none, none, 0, .sourceMalformed⟩
      | some sourceValue =>
          let (actualMax, malformedCount) :=
            ((d.rows table).map (·.texts numberColumn)).foldl countNumber (.finite 0, 0)
          if 0 < malformedCount then
            ⟨key, some sourceValue, some actualMax, malformedCount, .malformed⟩
          else if below sourceValue actualMax then
            ⟨key, some sourceValue, some actualMax, 0, .belowMax⟩
          else if above sourceValue actualMax then
            ⟨key, some sourceValue, some actualMax, 0, .aboveMax⟩
          else ⟨key, some sourceValue, some actualMax, 0, .pass⟩

structure CounterSpec where
  key : String
  table : TableName
  tableName : String
  column : TextColumn
  columnName : String

def orderNumberCounter : CounterSpec :=
  ⟨"order_number_counter", .orders, "orders", .orderNumber, "orderNumber"⟩

def invoiceNumberCounter : CounterSpec :=
  ⟨"invoice_number_counter", .invoices, "invoices", .invoiceNumber, "invoiceNumber"⟩

def counterSpecs : List CounterSpec := [orderNumberCounter, invoiceNumberCounter]

def showInt (source : Option Int) : String :=
  match source with
  | some n => toString n
  | none => "null"

def showNumber (max : Option Number) : String :=
  match max with
  | some (.finite n) => toString n
  | some .infinite => "Infinity"
  | none => "null"

/-- Why a counter is not seeded, and what is said of it. -/
def refusal (spec : CounterSpec) (v : CounterValidation) : String × String :=
  let source := showInt v.sourceValue
  let max := showNumber v.actualMax
  let drift (word : String) : String :=
    "source app_settings." ++ spec.key ++ " = " ++ source ++ ", actual MAX(\"" ++
      spec.columnName ++ "\") in \"" ++ spec.tableName ++ "\" = " ++ max ++ " (source is " ++
      word ++ " actual data) — refusing to seed; resolve the drift manually before retrying"
  match v.status with
  | .malformed => ("counter_malformed", toString v.malformedCount ++ " row(s) in \"" ++
      spec.tableName ++ "\".\"" ++ spec.columnName ++
      "\" do not end in a digit run — refusing to seed (source=" ++ source ++ ")")
  | .sourceMalformed => ("counter_source_malformed", "app_settings." ++ spec.key ++
      ".value is not a parseable integer — refusing to seed")
  | .aboveMax => ("counter_above_max", drift "ahead of")
  | .belowMax => ("counter_below_max", drift "BEHIND")
  | .pass | .noSourceRow => ("", "")

/-- The range of an integer column. -/
def inRange (value : Int) : Prop := -2147483648 ≤ value ∧ value ≤ 2147483647

instance (value : Int) : Decidable (inRange value) := inferInstanceAs (Decidable (_ ∧ _))

/-- `INSERT … ON CONFLICT DO NOTHING`, with the number of rows. -/
def insertCounter (tenantId : Nat) (key : String) (value : Int) : Step Nat := fun d =>
  if inRange value then
    if d.tenantCounters.any fun c => c.tenantId = tenantId && c.key = key then .ok (0, d)
    else .ok (1, { d with tenantCounters := d.tenantCounters ++ [⟨tenantId, key, value⟩] })
  else .error .outOfRange

def counterResult (spec : CounterSpec) (affected : Nat) (anomalies : List (String × Nat))
    (detail : Option String) : StepResult :=
  ⟨"tenant_counters (" ++ spec.key ++ ")", "tenant_counters", "value", affected, anomalies, detail⟩

/-- What is done about a counter, given what has been found out about it. -/
def seedValidated (tenantId : Nat) (spec : CounterSpec) (v : CounterValidation) :
    Step StepResult :=
  match v.status, v.sourceValue with
  | .noSourceRow, _ => return counterResult spec 0 [("no_app_settings_row_for_key", 1)] none
  | .pass, some sourceValue => do
      let affected ← insertCounter tenantId spec.key sourceValue
      return counterResult spec affected [] none
  | _, _ =>
      let (anomalyKey, detail) := refusal spec v
      return counterResult spec 0 [(anomalyKey, 1)] (some detail)

def seedCounter (tenantId : Nat) (spec : CounterSpec) : Step StepResult := do
  seedValidated tenantId spec
    (validateCounterAgainstMax spec.key spec.table spec.column (← get))

def seedTenantCounters (tenantId : Nat) : Step (List StepResult) :=
  counterSpecs.mapM (seedCounter tenantId)

/-! ## What is read off the numbers -/

theorem parse_orderNumber_iff (counter : Nat) :
    parseTrailingNumber (Checkout.orderNumberOf counter) = some (.finite counter) ↔
      toNumber counter = .finite counter := by
  rw [parseTrailingNumber, Checkout.toList_orderNumberOf, parseTrailing_numeral_eq_iff]
  refine and_iff_right fun c hc => ?_
  have hnone : trailingDigits "PF-".toList = [] := by decide
  rw [hnone] at hc
  cases hc

theorem parse_invoiceNumber_iff (number : Invoices.InvoiceNumber) :
    parseTrailingNumber number.text = some (.finite number.value) ↔
      (∀ c ∈ trailingDigits number.lead.toList, c = '0') ∧
        toNumber number.value = .finite number.value := by
  rw [parseTrailingNumber, Invoices.text_toList, parseTrailing_numeral_eq_iff]

/-- The largest counter, and 0 where there is none. -/
def largest (counters : List Nat) : Nat := counters.foldl max 0

section Numbers

variable {α : Type}

/-- What is found out about texts whose numbers are read back. -/
theorem foldl_countNumber (text : α → String) (counter : α → Nat) (issued : List α)
    (h : ∀ x ∈ issued, parseTrailingNumber (text x) = some (.finite (counter x)))
    (max₀ count : Nat) :
    (issued.map text).foldl countNumber (.finite max₀, count) =
      (.finite ((issued.map counter).foldl max max₀), count) := by
  induction issued generalizing max₀ with
  | nil => rfl
  | cons x issued ih =>
      have hx := h x List.mem_cons_self
      have hstep : countNumber (.finite max₀, count) (text x) =
          (.finite (max max₀ (counter x)), count) := by
        simp only [countNumber, hx, Number.less]
        by_cases hlt : max₀ < counter x
        · simp [hlt, Nat.max_eq_right (Nat.le_of_lt hlt)]
        · simp [hlt, Nat.max_eq_left (Nat.not_lt.mp hlt)]
      simp only [List.map_cons, List.foldl_cons, hstep]
      exact ih (fun y hy => h y (List.mem_cons_of_mem x hy)) _

theorem foldl_max_mem (counters : List Nat) (max₀ : Nat) :
    counters.foldl max max₀ = max₀ ∨ counters.foldl max max₀ ∈ counters := by
  induction counters generalizing max₀ with
  | nil => exact .inl rfl
  | cons n counters ih =>
      obtain h | h := ih (max max₀ n)
      · obtain hmax | hmax : max max₀ n = max₀ ∨ max max₀ n = n := by omega
        · exact .inl (by rw [List.foldl_cons, h, hmax])
        · exact .inr (by rw [List.foldl_cons, h, hmax]; exact List.mem_cons_self)
      · exact .inr (List.mem_cons_of_mem n h)

/-- The largest of counters that doubles hold is held by one. -/
theorem toNumber_largest {counters : List Nat} (h : ∀ n ∈ counters, toNumber n = .finite n) :
    toNumber (largest counters) = .finite (largest counters) := by
  obtain hzero | hmem := foldl_max_mem counters 0
  · rw [largest, hzero]
    exact toNumber_of_lt (Nat.two_pow_pos 53)
  · exact h _ hmem

end Numbers

/-! ## What a counter is seeded with -/

/-- The stored value for a key. -/
def storedValue (d : Database) (key : String) : Option String :=
  (d.appSettings.find? (·.key = key)).map (·.value)

section Seeding

variable {tenantId : Nat} {spec : CounterSpec} {d d' : Database} {max : Nat} {r : StepResult}

/-- The numbers on the table are read, and the largest is `max`. -/
def Reads (spec : CounterSpec) (max : Nat) (d : Database) : Prop :=
  ((d.rows spec.table).map (·.texts spec.column)).foldl countNumber (.finite 0, 0) =
    (.finite max, 0)

/-- What is found out is a pass just if the stored value is read as the largest number. -/
theorem validate_cases (hreads : Reads spec max d) :
    let v := validateCounterAgainstMax spec.key spec.table spec.column d
    ((storedValue d spec.key).bind parseInt = some (max : Int) ∧ v.status = .pass ∧
        v.sourceValue = some (max : Int)) ∨
      ((storedValue d spec.key).bind parseInt ≠ some (max : Int) ∧ v.status ≠ .pass) := by
  intro v
  have hv : v = validateCounterAgainstMax spec.key spec.table spec.column d := rfl
  unfold validateCounterAgainstMax at hv
  rw [hreads] at hv
  rw [storedValue]
  cases hstored : (d.appSettings.find? (·.key = spec.key)).map (·.value) with
  | none =>
      rw [hstored] at hv
      exact .inr ⟨nofun, by rw [hv]; nofun⟩
  | some text =>
      rw [hstored] at hv
      rw [Option.bind_some]
      dsimp only at hv
      cases hparse : parseInt text with
      | none =>
          rw [hparse] at hv
          exact .inr ⟨nofun, by rw [hv]; nofun⟩
      | some source =>
          rw [hparse] at hv
          simp only [Nat.lt_irrefl, if_false, below, above, decide_eq_true_eq] at hv
          rcases Int.lt_trichotomy source max with hlt | heq | hgt
          · rw [if_pos hlt] at hv
            exact .inr ⟨fun h => by cases h; omega, by rw [hv]; nofun⟩
          · rw [if_neg (by omega), if_neg (by omega)] at hv
            exact .inl ⟨by rw [heq], by rw [hv], by rw [hv, heq]⟩
          · rw [if_neg (by omega), if_pos hgt] at hv
            exact .inr ⟨fun h => by cases h; omega, by rw [hv]; nofun⟩

/-- Where the stored value is read as the largest number, the counter is inserted. -/
theorem seedCounter_pass (hreads : Reads spec max d)
    (hstored : (storedValue d spec.key).bind parseInt = some (max : Int)) :
    seedCounter tenantId spec d = (do
      let affected ← insertCounter tenantId spec.key max
      return counterResult spec affected [] none : Step StepResult) d := by
  obtain ⟨-, hstatus, hsource⟩ | ⟨hother, -⟩ := validate_cases hreads
  · change seedValidated tenantId spec _ d = _
    rw [seedValidated, hstatus, hsource]
  · exact absurd hstored hother

/-- Elsewhere it is not. -/
theorem seedCounter_refuse (tenantId : Nat) (hreads : Reads spec max d)
    (hstored : (storedValue d spec.key).bind parseInt ≠ some (max : Int)) :
    ∃ r, seedCounter tenantId spec d = .ok (r, d) := by
  obtain ⟨hother, -⟩ | ⟨-, hstatus⟩ := validate_cases hreads
  · exact absurd hother hstored
  · change ∃ r, seedValidated tenantId spec (validateCounterAgainstMax _ _ _ d) d = .ok (r, d)
    generalize validateCounterAgainstMax spec.key spec.table spec.column d = v at hstatus ⊢
    unfold seedValidated
    cases hv : v.status with
    | pass => exact absurd hv hstatus
    | _ => exact ⟨_, rfl⟩

/-- The rows that seeding a counter adds. -/
def seeds (tenantId : Nat) (spec : CounterSpec) (max : Nat) (d : Database) : List TenantCounter :=
  if (storedValue d spec.key).bind parseInt = some (max : Int) then [⟨tenantId, spec.key, max⟩]
  else []

theorem seedCounter_ok (tenantId : Nat) (hreads : Reads spec max d)
    (hfree : ∀ c ∈ d.tenantCounters, c.key ≠ spec.key)
    (hrange : (storedValue d spec.key).bind parseInt = some (max : Int) → inRange max) :
    ∃ r, seedCounter tenantId spec d =
      .ok (r, { d with tenantCounters := d.tenantCounters ++ seeds tenantId spec max d }) := by
  by_cases hstored : (storedValue d spec.key).bind parseInt = some (max : Int)
  · have hnone : (d.tenantCounters.any fun c => c.tenantId = tenantId && c.key = spec.key) =
        false := by
      rw [List.any_eq_false]
      intro c hc
      simp [hfree c hc]
    have hinsert : insertCounter tenantId spec.key max d = .ok (1, { d with
        tenantCounters := d.tenantCounters ++ [⟨tenantId, spec.key, max⟩] }) := by
      rw [insertCounter, if_pos (hrange hstored), hnone, if_neg Bool.false_ne_true]
    rw [seedCounter_pass hreads hstored, seeds, if_pos hstored]
    refine ⟨counterResult spec 1 [] none, ?_⟩
    simp only [bind, StateT.bind, Except.bind, hinsert]
    rfl
  · obtain ⟨r, hr⟩ := seedCounter_refuse tenantId hreads hstored
    exact ⟨r, by rw [hr, seeds, if_neg hstored, List.append_nil]⟩

/-- A value that the column cannot hold stops the backfill. -/
theorem inRange_of_seedCounter (hreads : Reads spec max d)
    (hstored : (storedValue d spec.key).bind parseInt = some (max : Int))
    (h : seedCounter tenantId spec d = .ok (r, d')) : inRange max := by
  rw [seedCounter_pass hreads hstored] at h
  by_contra hrange
  have hinsert : insertCounter tenantId spec.key max d = .error .outOfRange := by
    rw [insertCounter, if_neg hrange]
  simp only [bind, StateT.bind, Except.bind, hinsert] at h
  cases h

end Seeding

/-- The orders and the invoices have the numbers that were issued, and nothing is seeded yet. -/
structure Issued (orders : List Nat) (invoices : List Invoices.InvoiceNumber) (d : Database) :
    Prop where
  orderTexts : (d.rows .orders).map (·.texts .orderNumber) = orders.map Checkout.orderNumberOf
  invoiceTexts : (d.rows .invoices).map (·.texts .invoiceNumber) = invoices.map (·.text)
  unseeded : d.tenantCounters = []

/-- The counters, each with the largest value that was issued of it. -/
def issuedCounters (orders : List Nat) (invoices : List Invoices.InvoiceNumber) :
    List (CounterSpec × Nat) :=
  [(orderNumberCounter, largest orders), (invoiceNumberCounter, largest (invoices.map (·.value)))]

/-- Each counter is seeded just if the stored value is the largest that was issued, and with that
value, and every number is read back. -/
structure Recovered (tenantId : Nat) (orders : List Nat) (invoices : List Invoices.InvoiceNumber)
    (d : Database) : Prop where
  seeded : ∃ results d', seedTenantCounters tenantId d = .ok (results, d') ∧
    ∀ counter ∈ issuedCounters orders invoices, ∀ value : Int,
      ⟨tenantId, counter.1.key, value⟩ ∈ d'.tenantCounters ↔
        (storedValue d counter.1.key).bind integerOf = some value ∧ value = counter.2
  orderParsed : ∀ c ∈ orders, parseTrailingNumber (Checkout.orderNumberOf c) = some (.finite c)
  invoiceParsed : ∀ n ∈ invoices, parseTrailingNumber n.text = some (.finite n.value)

/-- No prefix ends in a digit but zeros, doubles hold the counters, and what is read as the largest
counter is that integer and fits into the column. -/
structure Recoverable (orders : List Nat) (invoices : List Invoices.InvoiceNumber) (d : Database) :
    Prop where
  orderDoubles : ∀ c ∈ orders, toNumber c = .finite c
  invoiceDoubles : ∀ n ∈ invoices, toNumber n.value = .finite n.value
  prefixes : ∀ n ∈ invoices, ∀ c ∈ trailingDigits n.lead.toList, c = '0'
  stored : ∀ counter ∈ issuedCounters orders invoices,
    (storedValue d counter.1.key).bind parseInt = some (counter.2 : Int) →
      (storedValue d counter.1.key).bind integerOf = some (counter.2 : Int) ∧ inRange counter.2

section Recovery

theorem ok_bind {α β : Type} {x : Step α} {f : α → Step β} {d d' : Database} {b : β}
    (h : (x >>= f) d = .ok (b, d')) : ∃ a d₁, x d = .ok (a, d₁) ∧ f a d₁ = .ok (b, d') := by
  simp only [bind, StateT.bind, Except.bind] at h
  cases hx : x d with
  | error e =>
      rw [hx] at h
      cases h
  | ok r =>
      rw [hx] at h
      exact ⟨r.1, r.2, rfl, h⟩

theorem error_bind {α β : Type} {x : Step α} {f : α → Step β} {d : Database} {e : BackfillError}
    (h : (x >>= f) d = .error e) :
    x d = .error e ∨ ∃ a d', x d = .ok (a, d') ∧ f a d' = .error e := by
  simp only [bind, StateT.bind, Except.bind] at h
  cases hx : x d with
  | error e' =>
      rw [hx] at h
      cases h
      exact .inl rfl
  | ok r =>
      rw [hx] at h
      exact .inr ⟨r.1, r.2, rfl, h⟩

variable {tenantId : Nat} {orders : List Nat} {invoices : List Invoices.InvoiceNumber}
  {d : Database}

/-- The two counters, one after the other. -/
theorem seedTenantCounters_eq : seedTenantCounters tenantId d = (do
    let order ← seedCounter tenantId orderNumberCounter
    let invoice ← seedCounter tenantId invoiceNumberCounter
    return [order, invoice] : Step (List StepResult)) d := rfl

theorem eq_of_mem_seeds {spec : CounterSpec} {max : Nat} {c : TenantCounter}
    (h : c ∈ seeds tenantId spec max d) :
    (storedValue d spec.key).bind parseInt = some (max : Int) ∧ c = ⟨tenantId, spec.key, max⟩ := by
  rw [seeds] at h
  split at h
  case isTrue hstored => exact ⟨hstored, List.mem_singleton.mp h⟩
  case isFalse => cases h

/-- What is seeded of each of the two counters. -/
theorem mem_seeds_both_iff {counter : CounterSpec × Nat}
    (hcounter : counter ∈ issuedCounters orders invoices) {value : Int} :
    ⟨tenantId, counter.1.key, value⟩ ∈
        seeds tenantId orderNumberCounter (largest orders) d ++
          seeds tenantId invoiceNumberCounter (largest (invoices.map (·.value))) d ↔
      (storedValue d counter.1.key).bind parseInt = some (counter.2 : Int) ∧
        value = counter.2 := by
  have hseeds (spec : CounterSpec) (max : Nat) :
      (⟨tenantId, spec.key, value⟩ ∈ seeds tenantId spec max d ↔
        (storedValue d spec.key).bind parseInt = some (max : Int) ∧ value = max) := by
    constructor
    · intro hmem
      obtain ⟨hstored, heq⟩ := eq_of_mem_seeds hmem
      exact ⟨hstored, congrArg TenantCounter.value heq⟩
    · rintro ⟨hstored, rfl⟩
      rw [seeds, if_pos hstored]
      exact List.mem_cons_self
  have hother {spec spec' : CounterSpec} (hne : spec.key ≠ spec'.key) (max : Nat) :
      ⟨tenantId, spec.key, value⟩ ∉ seeds tenantId spec' max d := fun hmem =>
    hne (congrArg TenantCounter.key (eq_of_mem_seeds hmem).2)
  have hkeys : orderNumberCounter.key ≠ invoiceNumberCounter.key := by decide
  simp only [issuedCounters, List.mem_cons, List.not_mem_nil, or_false] at hcounter
  rw [List.mem_append]
  obtain rfl | rfl := hcounter
  · rw [or_iff_left (hother hkeys _)]
    exact hseeds ..
  · rw [or_iff_right (hother hkeys.symm _)]
    exact hseeds ..

theorem reads_of_parse (h : Issued orders invoices d)
    (horders : ∀ c ∈ orders, parseTrailingNumber (Checkout.orderNumberOf c) = some (.finite c))
    (hinvoices : ∀ n ∈ invoices, parseTrailingNumber n.text = some (.finite n.value)) :
    Reads orderNumberCounter (largest orders) d ∧
      Reads invoiceNumberCounter (largest (invoices.map (·.value))) d := by
  constructor
  · change ((d.rows .orders).map (·.texts .orderNumber)).foldl countNumber _ = _
    rw [h.orderTexts, foldl_countNumber Checkout.orderNumberOf id orders horders, List.map_id,
      largest]
  · change ((d.rows .invoices).map (·.texts .invoiceNumber)).foldl countNumber _ = _
    rw [h.invoiceTexts, foldl_countNumber Invoices.InvoiceNumber.text
      Invoices.InvoiceNumber.value invoices hinvoices, largest]

/-- What is there after both counters have been seeded. -/
theorem seedTenantCounters_ok (tenantId : Nat) {maxOrder maxInvoice : Nat}
    (hunseeded : d.tenantCounters = [])
    (horder : Reads orderNumberCounter maxOrder d)
    (hinvoice : Reads invoiceNumberCounter maxInvoice d)
    (horderRange : (storedValue d orderNumberCounter.key).bind parseInt = some (maxOrder : Int) →
      inRange maxOrder)
    (hinvoiceRange : (storedValue d invoiceNumberCounter.key).bind parseInt =
      some (maxInvoice : Int) → inRange maxInvoice) :
    ∃ results, seedTenantCounters tenantId d = .ok (results, { d with
      tenantCounters := seeds tenantId orderNumberCounter maxOrder d ++
        seeds tenantId invoiceNumberCounter maxInvoice d }) := by
  obtain ⟨order, hfirst⟩ := seedCounter_ok tenantId horder
    (by rw [hunseeded]; exact nofun) horderRange
  rw [hunseeded, List.nil_append] at hfirst
  let seeded := { d with tenantCounters := seeds tenantId orderNumberCounter maxOrder d }
  have hfree : ∀ c ∈ seeded.tenantCounters, c.key ≠ invoiceNumberCounter.key := by
    intro c hc
    rw [(eq_of_mem_seeds hc).2]
    change orderNumberCounter.key ≠ invoiceNumberCounter.key
    decide
  obtain ⟨invoice, hsecond⟩ := seedCounter_ok tenantId (d := seeded) hinvoice hfree
    hinvoiceRange
  refine ⟨[order, invoice], ?_⟩
  rw [seedTenantCounters_eq]
  simp only [bind, StateT.bind, Except.bind, hfirst]
  rw [hsecond]
  rfl

/-- The values that the column cannot hold are not there when the backfill ends. -/
theorem inRange_of_seedTenantCounters {maxOrder maxInvoice : Nat} {results : List StepResult}
    {d' : Database} (hunseeded : d.tenantCounters = [])
    (horder : Reads orderNumberCounter maxOrder d)
    (hinvoice : Reads invoiceNumberCounter maxInvoice d)
    (h : seedTenantCounters tenantId d = .ok (results, d')) :
    ((storedValue d orderNumberCounter.key).bind parseInt = some (maxOrder : Int) →
        inRange maxOrder) ∧
      ((storedValue d invoiceNumberCounter.key).bind parseInt = some (maxInvoice : Int) →
        inRange maxInvoice) := by
  rw [seedTenantCounters_eq] at h
  obtain ⟨order, d₁, hfirst, h⟩ := ok_bind h
  obtain ⟨invoice, d₂, hsecond, -⟩ := ok_bind h
  have hrange := fun hstored => inRange_of_seedCounter horder hstored hfirst
  obtain ⟨order', hfirst'⟩ := seedCounter_ok tenantId horder
    (by rw [hunseeded]; exact nofun) hrange
  rw [hfirst'] at hfirst
  cases hfirst
  let seeded := { d with
    tenantCounters := d.tenantCounters ++ seeds tenantId orderNumberCounter maxOrder d }
  exact ⟨hrange, fun hstored =>
    inRange_of_seedCounter (d := seeded) hinvoice hstored hsecond⟩

/-- **The counters are recovered just if they can be.** -/
theorem counters_recovered_iff (h : Issued orders invoices d) :
    Recovered tenantId orders invoices d ↔ Recoverable orders invoices d := by
  constructor
  · rintro ⟨⟨results, d', hrun, hseeded⟩, horders, hinvoices⟩
    obtain ⟨horder, hinvoice⟩ := reads_of_parse h horders hinvoices
    obtain ⟨horderRange, hinvoiceRange⟩ :=
      inRange_of_seedTenantCounters h.unseeded horder hinvoice hrun
    obtain ⟨results', hrun'⟩ := seedTenantCounters_ok tenantId h.unseeded horder
      hinvoice horderRange hinvoiceRange
    rw [hrun'] at hrun
    cases hrun
    refine ⟨fun c hc => (parse_orderNumber_iff c).mp (horders c hc),
      fun n hn => ((parse_invoiceNumber_iff n).mp (hinvoices n hn)).2,
      fun n hn => ((parse_invoiceNumber_iff n).mp (hinvoices n hn)).1, fun counter hc hstored => ?_⟩
    refine ⟨((hseeded counter hc counter.2).mp
      ((mem_seeds_both_iff hc).mpr ⟨hstored, rfl⟩)).1, ?_⟩
    simp only [issuedCounters, List.mem_cons, List.not_mem_nil, or_false] at hc
    obtain rfl | rfl := hc
    · exact horderRange hstored
    · exact hinvoiceRange hstored
  · rintro ⟨horders, hinvoices, hprefixes, hstored⟩
    have hparsed :
        (∀ c ∈ orders, parseTrailingNumber (Checkout.orderNumberOf c) = some (.finite c)) ∧
          ∀ n ∈ invoices, parseTrailingNumber n.text = some (.finite n.value) :=
      ⟨fun c hc => (parse_orderNumber_iff c).mpr (horders c hc),
        fun n hn => (parse_invoiceNumber_iff n).mpr ⟨hprefixes n hn, hinvoices n hn⟩⟩
    have hdoubles : ∀ counter ∈ issuedCounters orders invoices,
        toNumber counter.2 = .finite counter.2 := by
      intro counter hc
      simp only [issuedCounters, List.mem_cons, List.not_mem_nil, or_false] at hc
      obtain rfl | rfl := hc
      · exact toNumber_largest horders
      · exact toNumber_largest (List.forall_mem_map.mpr hinvoices)
    obtain ⟨horder, hinvoice⟩ := reads_of_parse h hparsed.1 hparsed.2
    obtain ⟨results, hrun⟩ := seedTenantCounters_ok tenantId h.unseeded horder
      hinvoice (fun hs => (hstored _ (List.mem_cons_self ..) hs).2)
      (fun hs => (hstored _ (List.mem_cons_of_mem _ (List.mem_cons_self ..)) hs).2)
    refine ⟨⟨results, _, hrun, fun counter hc value => ?_⟩, hparsed.1, hparsed.2⟩
    constructor
    · intro hmem
      obtain ⟨hread, rfl⟩ := (mem_seeds_both_iff hc).mp hmem
      exact ⟨(hstored counter hc hread).1, rfl⟩
    · rintro ⟨hinteger, rfl⟩
      obtain ⟨text, htext, hvalue⟩ := Option.bind_eq_some_iff.mp hinteger
      refine (mem_seeds_both_iff hc).mpr ⟨?_, rfl⟩
      rw [htext, Option.bind_some]
      exact parseInt_eq_of_integerOf hvalue (hdoubles counter hc)

end Recovery

/-- Numbers that were issued, and the stored counters. -/
def numbered (orderNumbers invoiceNumbers : List String) (orderCounter invoiceCounter : String) :
    Database where
  tenants := [0]
  stores := [⟨0, 0, true⟩]
  users := []
  customers := []
  appSettings := [⟨"order_number_counter", orderCounter⟩,
    ⟨"invoice_number_counter", invoiceCounter⟩]
  tenantCounters := []
  rows table :=
    match table with
    | .orders => orderNumbers.map fun number =>
        ⟨0, none, none, fun _ => none, fun _ => none, fun _ => number⟩
    | .invoices => invoiceNumbers.map fun number =>
        ⟨0, none, none, fun _ => none, fun _ => none, fun _ => number⟩
    | _ => []
  customers_distinct := List.nodup_nil

theorem counters_recovered_after_two_orders :
    Recovered 0 [1, 2] [⟨"INV-", 1⟩] (numbered ["PF-000001", "PF-000002"] ["INV-000001"] "2" "1") :=
  (counters_recovered_iff ⟨by decide +kernel, by decide +kernel, rfl⟩).mpr
    { orderDoubles := fun c hc => toNumber_of_lt (by
        simp only [List.mem_cons, List.not_mem_nil, or_false] at hc
        omega)
      invoiceDoubles := fun n hn => by
        rw [List.mem_singleton.mp hn]
        exact toNumber_of_lt (by decide)
      prefixes := fun n hn => by
        rw [List.mem_singleton.mp hn]
        simp [trailingDigits]
      stored := by decide +kernel }

/-- Behind a prefix that ends in a year, the first number of all is read as a far larger one: the
counter, which is right, is refused. -/
theorem year_in_prefix : Invoices.normalizeInvoicePrefix "INV2024" = .ok "INV2024" ∧
    Issued [] [⟨"INV2024", 1⟩] (numbered [] ["INV2024000001"] "0" "1") ∧
    parseTrailingNumber "INV2024000001" = some (.finite 2024000001) ∧
    (∃ results d', seedTenantCounters 0 (numbered [] ["INV2024000001"] "0" "1") =
      .ok (results, d') ∧ ∀ c ∈ d'.tenantCounters, c.key ≠ "invoice_number_counter") ∧
    ¬ Recovered 0 [] [⟨"INV2024", 1⟩] (numbered [] ["INV2024000001"] "0" "1") := by
  have hissued : Issued [] [⟨"INV2024", 1⟩] (numbered [] ["INV2024000001"] "0" "1") :=
    ⟨rfl, by decide +kernel, rfl⟩
  have hparse : parseTrailingNumber "INV2024000001" = some (.finite 2024000001) := by
    rw [← toNumber_of_lt (n := 2024000001) (by decide)]
    rfl
  have horder : Reads orderNumberCounter 0 (numbered [] ["INV2024000001"] "0" "1") := rfl
  have hinvoice : Reads invoiceNumberCounter 2024000001
      (numbered [] ["INV2024000001"] "0" "1") :=
    foldl_countNumber id (fun _ => 2024000001) ["INV2024000001"]
      (fun x hx => by
        rw [List.mem_singleton.mp hx]
        exact hparse) 0 0
  have hstored : (storedValue (numbered [] ["INV2024000001"] "0" "1")
      invoiceNumberCounter.key).bind parseInt ≠ some (2024000001 : Nat) := by
    intro h
    have hone : parseInt "1" = some ((1 : Nat) : Int) :=
      parseInt_eq_of_integerOf (by decide +kernel) (toNumber_of_lt (by decide))
    exact absurd (hone.symm.trans h) (by decide)
  refine ⟨by decide +kernel, hissued, hparse, ?_, fun h => ?_⟩
  · obtain ⟨results, hrun⟩ := seedTenantCounters_ok 0 rfl horder hinvoice
      (fun _ => by decide) (fun h => absurd h hstored)
    refine ⟨results, _, hrun, fun c hc => ?_⟩
    rw [List.mem_append] at hc
    obtain hc | hc := hc
    · rw [(eq_of_mem_seeds hc).2]
      change orderNumberCounter.key ≠ "invoice_number_counter"
      decide
    · exact absurd (eq_of_mem_seeds hc).1 hstored
  · have htext := h.invoiceParsed _ List.mem_cons_self
    rw [parse_invoiceNumber_iff] at htext
    exact absurd htext.1 (by simp [trailingDigits])

end PrintForge.Backfill
