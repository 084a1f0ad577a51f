import PrintForge.Payments.Isolation
import Std.Data.String.ToNat

/-!
# Which deliveries share a row

The provider sends an event to one of two routes, possibly several times, and the deliveries
that are accepted are stored under an event id. The id is the header of the delivery, which
nobody signs, and where there is none it is put together from fields of the payload.

Two deliveries share a row exactly when their ids agree. Whether they should is a matter of
which event of the provider they carry and to which route, which the ids know nothing about.
-/

namespace PrintForge

open Relational Concurrent Proc JavaScript

variable {E : Type} {gateway : Gateway} {w w' : World}

/-- An event of the provider on its way to the route of an account, or to the one route that
names none. -/
structure Delivery (E : Type) where
  event : E
  endpoint : Option Nat
  header : Option String
deriving DecidableEq

namespace Delivery

section

variable (sent : E → RazorpayWebhookPayload) (a b : Delivery E)

/-- The same event of the provider, to the same route. -/
def Same : Prop := a.event = b.event ∧ a.endpoint = b.endpoint

instance [DecidableEq E] : Decidable (a.Same b) :=
  inferInstanceAs (Decidable (a.event = b.event ∧ a.endpoint = b.endpoint))

/-- The event id that comes with the delivery, if one does. -/
def headerId : Option String := truthy (a.header.map trim)

/-- The kind of the event, behind the account that the route names. -/
def kind : String :=
  ((a.endpoint.map fun n => toString n ++ ":").getD "") ++ (sent a.event).event

def paymentId : String := ((sent a.event).payment.map (·.id)).getD "unknown"

def second : Option Nat := (sent a.event).createdAt

/-- The id that is put together where no event id comes with the delivery. -/
def fallbackId : String :=
  a.kind sent ++ ":" ++ a.paymentId sent ++ ":" ++ ((a.second sent).map toString).getD ""

/-- The event id a delivery is stored under. -/
def eventId : String :=
  extractWebhookEventId a.header (sent a.event) (a.endpoint.map toString)

/-- Both are of one second, and kind and payment are the same, or a piece of one that stands
between two colons has changed sides. -/
def Alike : Prop :=
  a.second sent = b.second sent ∧
    (a.kind sent = b.kind sent ∧ a.paymentId sent = b.paymentId sent ∨
      MovedBack ':' (a.kind sent).toList (a.paymentId sent).toList (b.kind sent).toList
        (b.paymentId sent).toList ∨
      MovedBack ':' (b.kind sent).toList (b.paymentId sent).toList (a.kind sent).toList
        (a.paymentId sent).toList)

/-- Neither the kind of the event nor the id of its payment has a colon. -/
def Plain : Prop := ':' ∉ (sent a.event).event.toList ∧ ':' ∉ (a.paymentId sent).toList

/-- Two headers agree on redeliveries and on nothing else, a header spells out the fields of a
delivery without one only if it is a redelivery, and deliveries without headers are not alike
unless they are. -/
def KeptApart : Prop :=
  match a.headerId, b.headerId with
  | some id, some id' => id = id' ↔ a.Same b
  | some id, none => id = b.fallbackId sent ↔ a.Same b
  | none, some id' => id' = a.fallbackId sent ↔ a.Same b
  | none, none => a.Alike sent b → a.Same b

end

variable {sent : E → RazorpayWebhookPayload} {a b : Delivery E}

theorem eventId_of_header {id : String} (h : a.headerId = some id) : a.eventId sent = id := by
  unfold headerId at h
  unfold eventId extractWebhookEventId
  rw [h]

theorem eventId_of_fields (h : a.headerId = none) : a.eventId sent = a.fallbackId sent := by
  unfold headerId at h
  unfold eventId extractWebhookEventId fallbackId kind paymentId second
  rw [h]
  have hid (s : String) : toString s = s := rfl
  cases a.endpoint with
  | none => simp [truthy, hid, String.append_assoc]
  | some n => simp [truthy, hid, Option.filter_some, Nat.repr_ne_empty, String.append_assoc]

/-! The second is behind the last colon, and the account in front of the first one. -/

theorem colon_not_mem_toString (n : Nat) : ':' ∉ (toString n).toList := by
  intro hc
  have hdigits : ':' ∈ Nat.toDigits 10 n := by simpa [Nat.repr] using hc
  have hdigit := Nat.isDigit_of_mem_toDigits (by decide) (by decide) hdigits
  revert hdigit
  decide

theorem colon_not_mem_second (second : Option Nat) :
    ':' ∉ ((second.map toString).getD "").toList := by
  cases second with
  | none => simp
  | some n => exact colon_not_mem_toString n

theorem second_injective {m n : Option Nat}
    (h : (m.map toString).getD "" = (n.map toString).getD "") : m = n := by
  cases m with
  | none =>
      cases n with
      | none => rfl
      | some n => exact absurd h.symm Nat.repr_ne_empty
  | some m =>
      cases n with
      | none => exact absurd h Nat.repr_ne_empty
      | some n => exact congrArg some (Nat.repr_injective h)

theorem fallbackId_toList : (a.fallbackId sent).toList =
    ((a.kind sent).toList ++ ':' :: (a.paymentId sent).toList) ++
      ':' :: (((a.second sent).map toString).getD "").toList := by
  simp [fallbackId, String.toList_append]

/-- Ids that are put together are the same for deliveries that are alike, and for no others. -/
theorem fallbackId_eq_iff : a.fallbackId sent = b.fallbackId sent ↔ a.Alike sent b := by
  rw [← String.toList_inj, fallbackId_toList, fallbackId_toList,
    append_cons_inj_right (colon_not_mem_second _) (colon_not_mem_second _), append_cons_eq_iff,
    String.toList_inj, String.toList_inj, String.toList_inj, Alike, and_comm]
  exact and_congr_left' ⟨second_injective, fun h => by rw [h]⟩

theorem kind_toList_some {n : Nat} (h : a.endpoint = some n) :
    (a.kind sent).toList = (toString n).toList ++ ':' :: (sent a.event).event.toList := by
  rw [kind, h]
  simp

theorem kind_none (h : a.endpoint = none) : a.kind sent = (sent a.event).event := by
  rw [kind, h]
  simp

/-- A kind without a colon does not run into the account. -/
theorem kind_eq_iff (ha : ':' ∉ (sent a.event).event.toList)
    (hb : ':' ∉ (sent b.event).event.toList) :
    a.kind sent = b.kind sent ↔
      a.endpoint = b.endpoint ∧ (sent a.event).event = (sent b.event).event := by
  cases hm : a.endpoint with
  | none =>
      cases hn : b.endpoint with
      | none => simp [kind_none hm, kind_none hn]
      | some n =>
          simp only [reduceCtorEq, false_and, iff_false]
          intro h
          have hlist := congrArg String.toList h
          rw [kind_none hm, kind_toList_some hn] at hlist
          exact ha (hlist ▸ by simp)
  | some m =>
      cases hn : b.endpoint with
      | none =>
          simp only [reduceCtorEq, false_and, iff_false]
          intro h
          have hlist := congrArg String.toList h
          rw [kind_toList_some hm, kind_none hn] at hlist
          exact hb (hlist ▸ by simp)
      | some n =>
          rw [← String.toList_inj, kind_toList_some hm, kind_toList_some hn,
            append_cons_inj_left (colon_not_mem_toString m) (colon_not_mem_toString n),
            String.toList_inj, String.toList_inj, Option.some.injEq]
          exact and_congr_left' ⟨fun h => Nat.repr_injective h, fun h => by rw [h]⟩

/-- Without colons of their own, deliveries are alike that name the same account, kind, payment
and second. -/
theorem alike_iff_of_plain (ha : a.Plain sent) (hb : b.Plain sent) : a.Alike sent b ↔
    a.endpoint = b.endpoint ∧ (sent a.event).event = (sent b.event).event ∧
      a.paymentId sent = b.paymentId sent ∧ a.second sent = b.second sent := by
  have hmoved {x y : Delivery E} (hx : x.Plain sent) : ¬ MovedBack ':' (x.kind sent).toList
      (x.paymentId sent).toList (y.kind sent).toList (y.paymentId sent).toList := by
    rintro ⟨m, -, hm⟩
    exact hx.2 (hm ▸ by simp)
  unfold Alike
  rw [or_iff_left (not_or.mpr ⟨hmoved ha, hmoved hb⟩), kind_eq_iff ha.1 hb.1, and_comm,
    and_assoc, and_assoc]

/-- Deliveries to the routes of two accounts are never alike in kind. -/
theorem Alike.account {m n : Nat} (h : a.Alike sent b) (hm : a.endpoint = some m)
    (hn : b.endpoint = some n) : m = n := by
  have hjoined := congrArg String.toList (fallbackId_eq_iff.mpr h)
  rw [fallbackId_toList, fallbackId_toList, kind_toList_some hm, kind_toList_some hn] at hjoined
  simp only [List.append_assoc, List.cons_append] at hjoined
  have haccount := (append_cons_inj_left (colon_not_mem_toString m)
    (colon_not_mem_toString n)).mp hjoined
  exact Nat.repr_injective (String.toList_inj.mp haccount.1)

theorem Same.alike (h : a.Same b) : a.Alike sent b := by
  refine fallbackId_eq_iff.mp ?_
  unfold fallbackId kind paymentId second
  rw [h.1, h.2]

/-- The ids of two deliveries say whether they are redeliveries just in the cases listed. -/
theorem eventId_eq_iff_same :
    (a.eventId sent = b.eventId sent ↔ a.Same b) ↔ a.KeptApart sent b := by
  unfold KeptApart
  cases ha : a.headerId with
  | some id =>
      rw [eventId_of_header ha]
      cases hb : b.headerId with
      | some id' => rw [eventId_of_header hb]
      | none => rw [eventId_of_fields hb]
  | none =>
      rw [eventId_of_fields ha]
      cases hb : b.headerId with
      | some id' => rw [eventId_of_header hb, eq_comm]
      | none =>
          rw [eventId_of_fields hb, fallbackId_eq_iff]
          exact ⟨fun h => h.mp, fun h => ⟨h, Same.alike⟩⟩

end Delivery

/-! ## Storing a delivery -/

/-- What a request brings in: an accepted body on one of the two routes, or a body that an
account has signed for itself, whatever it says. -/
inductive Carries (gateway : Gateway) :
    AnyRequest → Option Nat → Option String → RazorpayWebhookPayload → Prop
  | global {rawBody signature : String} {header : Option String} {now : Nat}
      {payload : RazorpayWebhookPayload} (h : gateway.parse rawBody = some payload) :
      Carries gateway (.service (.receiveWebhook rawBody signature header now)) none header payload
  | merchant {paymentAccountId : Nat} {rawBody signature : String} {header : Option String}
      {now : Nat} {payload : RazorpayWebhookPayload} (h : gateway.parse rawBody = some payload) :
      Carries gateway
        (.service (.receiveMerchantWebhook paymentAccountId rawBody signature header now))
        (some paymentAccountId) header payload
  | signed {paymentAccountId now : Nat} {header : Option String}
      {payload : RazorpayWebhookPayload} :
      Carries gateway
        (.store (extractWebhookEventId header payload (some (toString paymentAccountId))) payload
          (some paymentAccountId) now)
        (some paymentAccountId) header payload

/-- An event is stored under an id. -/
def Stored (razorpayEventId : String) (w : World) : Prop :=
  ∃ e ∈ w.webhookEvents, e.razorpayEventId = razorpayEventId

theorem Stored.evolves {razorpayEventId : String} (h : Stored razorpayEventId w)
    (hw : RowsEvolve w w') : Stored razorpayEventId w' := by
  obtain ⟨e, he, hid⟩ := h
  obtain ⟨e', hget, hsame⟩ := hw.events.get (Table.get_key he)
  exact ⟨e', (Table.get_eq_some.mp hget).1, hsame.1.trans hid⟩

/-- Every stored event stays, under its id. -/
def evolving : Discipline World Commit where
  inv _ := True
  ok _ _ := True
  rely _ := RowsEvolve
  guar _ _ := RowsEvolve
  rely_refl _ := Std.Refl.refl
  rely_trans h h' := IsTrans.trans _ _ _ h h'
  inv_guar _ _ _ := trivial
  rely_guar _ _ _ h := h

/-- Either the row is new, or another has its id. -/
theorem insertWebhookEvent_stored {razorpayEventId : String} {payload : RazorpayWebhookPayload}
    {paymentAccountId : Option Nat} {now : Nat} {u : Unit}
    (h : insertWebhookEvent razorpayEventId payload paymentAccountId now w = .ok (u, w')) :
    Stored razorpayEventId w' := by
  obtain ⟨row, w₁, hrow, hrest⟩ := Tx.bind_ok.mp h
  cases hrest
  unfold Slot.createOrIgnore at hrow
  split at hrow
  · next t ht =>
    cases hrow
    exact ⟨_, Table.mem_create ht |>.mpr (.inr rfl), rfl⟩
  · next ht =>
    cases hrow
    obtain ⟨e, he, hclash⟩ := Table.create_none ht
    exact ⟨e, he, hclash⟩

section Served

variable {i : Nat} {header : Option String} {payload : RazorpayWebhookPayload}

open Discipline

/-- What an answered request has stored, if it brought in a delivery. -/
def Ingests (gateway : Gateway) (req : AnyRequest) (_ : Response) (w : World) : Prop :=
  ∀ endpoint header payload, Carries gateway req endpoint header payload →
    Stored (extractWebhookEventId header payload (endpoint.map toString)) w

theorem safe_of_commits {α : Type} {p : Service α} (h : Commits Written p) :
    evolving.Safe i (fun _ _ => True) p w := by
  refine safe_of_within (G := fun _ => RowsEvolve) (h.within ?_) fun _ _ _ _ _ hG => hG
  intro ℓ upd s hwritten
  exact hwritten.rowsEvolve s

theorem safe_insertWebhookEvent (razorpayEventId : String) (paymentAccountId : Option Nat)
    (now : Nat) : evolving.Safe i (Returns fun _ => Stored razorpayEventId)
      (execute (insertWebhookEvent razorpayEventId payload paymentAccountId now) : Service Unit)
      w := by
  rw [← Proc.finish_done (execute _ : Service Unit)]
  apply safe_transact
  · intro w₁ u w₂ _ _ _ h
    refine ⟨rowsEvolve_insertWebhookEvent _ _ _ _ h, fun _ => ?_⟩
    exact safe_pure fun w₃ hl => (insertWebhookEvent_stored h).evolves hl
  · intro w₁ e _ _ _ _
    exact ⟨evolving.rely_refl i w₁, safe_throw e⟩

theorem safe_receiveWebhook {rawBody signature : String} {now : Nat}
    (h : gateway.parse rawBody = some payload) :
    evolving.Safe i (Returns fun _ => Stored (extractWebhookEventId header payload none))
      (receiveWebhook gateway rawBody signature header now) w := by
  unfold receiveWebhook
  split
  · exact safe_throw _
  · rw [h]
    exact safe_insertWebhookEvent _ _ _

theorem safe_resolveForWebhook (paymentAccountId : Nat) :
    evolving.Safe i (Returns fun r _ => r.1.paymentAccountId = paymentAccountId)
      (resolveForWebhook paymentAccountId : Service (ResolvedPaymentAccount × Nat)) w := by
  unfold resolveForWebhook
  apply safe_read
  intro w₁ _ _
  dsimp only [Proc.onResult]
  cases hfound : w₁.paymentAccounts.get paymentAccountId with
  | none => exact safe_throw _
  | some account => exact safe_pure fun _ _ => (Table.get_eq_some.mp hfound).2

theorem safe_receiveMerchantWebhook {paymentAccountId : Nat} {rawBody signature : String}
    {now : Nat} (h : gateway.parse rawBody = some payload) :
    evolving.Safe i (Returns fun _ => Stored
        (extractWebhookEventId header payload (some (toString paymentAccountId))))
      (receiveMerchantWebhook gateway paymentAccountId rawBody signature header now) w := by
  unfold receiveMerchantWebhook
  apply Safe.bind_returns (P := fun r _ => r.1.paymentAccountId = paymentAccountId) _ trivial
  · intro w₁ r _ hr
    obtain ⟨resolved, tenantId⟩ := r
    subst hr
    apply Safe.bind_returns (P := fun _ _ => True) _ trivial
    · intro w₂ credentials _ _
      dsimp only
      split
      · exact safe_throw _
      · rw [h]
        exact safe_insertWebhookEvent _ _ _
    · exact (safe_of_commits (commits_getEncryptedCredentials _ _)).mono_post
        fun _ _ _ _ _ => trivial
  · apply Safe.tryCatch_returns (safe_resolveForWebhook _) trivial
    · intro _ _ _ _ hr
      exact hr
    · intro w₁ err _
      split
      · exact safe_throw _
      · exact safe_throw _

/-- Whatever a request is, its answer means that what it brought in has a row. -/
theorem safe_handleAny (n : Nat) (req : AnyRequest) :
    evolving.Safe n (Returns (Ingests gateway req)) (handleAny gateway n req) w := by
  by_cases hcarries : ∃ endpoint header payload, Carries gateway req endpoint header payload
  · obtain ⟨endpoint, header, payload, hcarries⟩ := hcarries
    cases hcarries with
    | @global rawBody signature header now payload h =>
        change evolving.Safe n _
          (receiveWebhook gateway rawBody signature header now >>= fun _ => pure Response.unit) w
        refine Safe.bind_returns (safe_receiveWebhook h) trivial fun w₁ _ _ hstored => ?_
        refine safe_pure fun w₂ hl endpoint' header' payload' hcarries' => ?_
        cases hcarries' with
        | global h' =>
            cases h.symm.trans h'
            exact hstored.evolves hl
    | @merchant paymentAccountId rawBody signature header now payload h =>
        change evolving.Safe n _ (receiveMerchantWebhook gateway paymentAccountId rawBody
          signature header now >>= fun _ => pure Response.unit) w
        refine Safe.bind_returns (safe_receiveMerchantWebhook h) trivial
          fun w₁ _ _ hstored => ?_
        refine safe_pure fun w₂ hl endpoint' header' payload' hcarries' => ?_
        cases hcarries' with
        | merchant h' =>
            cases h.symm.trans h'
            exact hstored.evolves hl
    | @signed paymentAccountId now header payload =>
        change evolving.Safe n _ ((execute (insertWebhookEvent
          (extractWebhookEventId header payload (some (toString paymentAccountId))) payload
          (some paymentAccountId) now) : Service Unit) >>= fun _ => pure Response.unit) w
        refine Safe.bind_returns (safe_insertWebhookEvent _ _ _) trivial
          fun w₁ _ _ hstored => ?_
        refine safe_pure fun w₂ hl endpoint' header' payload' hcarries' => ?_
        generalize hid : extractWebhookEventId header payload (some (toString paymentAccountId))
          = id at hcarries' hstored
        cases hcarries' with
        | signed => exact hstored.evolves hl
  · refine (safe_of_commits (commits_handleAny n req)).mono_post fun w₁ r _ a _ => ?_
    intro endpoint header payload h
    exact absurd ⟨endpoint, header, payload, h⟩ hcarries

end Served

/-! ## Lost and doubled events -/

/-- The run has accepted the delivery and answered it. -/
def Accepted (gateway : Gateway) (sent : E → RazorpayWebhookPayload) (c : HostileConfig)
    (d : Delivery E) : Prop :=
  ∃ f ∈ c.flights, (∃ response, f.2 = .done (.ok response)) ∧
    Carries gateway f.1 d.endpoint d.header (sent d.event)

/-- A row stands for the delivery, and no other one does. -/
def HasRow (sent : E → RazorpayWebhookPayload) (w : World) (d : Delivery E) : Prop :=
  ∃! e, e ∈ w.webhookEvents ∧ e.razorpayEventId = d.eventId sent

/-- One row stands for both deliveries. -/
def OneRow (sent : E → RazorpayWebhookPayload) (w : World) (a b : Delivery E) : Prop :=
  ∃ e ∈ w.webhookEvents, e.razorpayEventId = a.eventId sent ∧ e.razorpayEventId = b.eventId sent

variable {sent : E → RazorpayWebhookPayload} {c : HostileConfig} {a b : Delivery E}
variable {paymentAccounts : Table PaymentAccount} {stores : Table Store} {users : Table User}

theorem accepted_stored
    (hrun : ReachesAny gateway (.initial paymentAccounts stores users) c)
    (h : Accepted gateway sent c a) : Stored (a.eventId sent) c.state := by
  obtain ⟨f, hf, ⟨response, hdone⟩, hcarries⟩ := h
  obtain ⟨i, hi, rfl⟩ := List.mem_iff_getElem.mp hf
  have hidle : evolving.Holds (fun _ req => Discipline.Returns (Ingests gateway req))
      (HostileConfig.initial paymentAccounts stores users) := Discipline.holds_idle trivial
  have hholds := hidle.run (Nat.zero_le _) (fun i req w _ _ _ => safe_handleAny i req) hrun
  have hanswer : c.flights[i]? = some (c.flights[i].1, .done (.ok response)) := by
    rw [List.getElem?_eq_getElem hi, ← hdone]
  exact hholds.outcome hanswer response rfl _ _ _ hcarries

theorem Stored.hasRow (h : Stored (a.eventId sent) w) : HasRow sent w a := by
  obtain ⟨e, he, hid⟩ := h
  refine ⟨e, ⟨he, hid⟩, fun e' ⟨he', hid'⟩ => ?_⟩
  exact Table.eq_of_clash he' he (hid'.trans hid.symm)

/-- Rows that stand for both are rows of one id. -/
theorem oneRow_iff (h : Stored (a.eventId sent) w) :
    OneRow sent w a b ↔ a.eventId sent = b.eventId sent := by
  constructor
  · rintro ⟨e, -, hea, heb⟩
    exact hea.symm.trans heb
  · intro hab
    obtain ⟨e, he, hid⟩ := h
    exact ⟨e, he, hid, hid.trans hab⟩

/-- An accepted delivery has one row, for ever; two of them share it exactly if they are
deliveries of one event to one route, provided that their headers say so, and that without
headers they are not alike unless they are. Without headers those are alike that name the same
account, kind, payment and second, as long as no colon is in kind or payment; and no delivery
takes the row of another account. -/
theorem deliveries_kept_apart (gateway : Gateway) (sent : E → RazorpayWebhookPayload)
    (paymentAccounts : Table PaymentAccount) (stores : Table Store) (users : Table User)
    (c : HostileConfig) (hrun : ReachesAny gateway (.initial paymentAccounts stores users) c)
    (a b : Delivery E) (ha : Accepted gateway sent c a) (hb : Accepted gateway sent c b) :
    HasRow sent c.state a ∧ HasRow sent c.state b ∧
      ((OneRow sent c.state a b ↔ a.Same b) ↔ a.KeptApart sent b) ∧
      (a.headerId = none → b.headerId = none → a.Plain sent → b.Plain sent →
        (OneRow sent c.state a b ↔ a.endpoint = b.endpoint ∧
          (sent a.event).event = (sent b.event).event ∧
          a.paymentId sent = b.paymentId sent ∧ a.second sent = b.second sent)) ∧
      (a.headerId = none → b.headerId = none → ∀ m n, a.endpoint = some m →
        b.endpoint = some n → m ≠ n → ¬ OneRow sent c.state a b) := by
  have hstored := accepted_stored hrun ha
  refine ⟨hstored.hasRow, (accepted_stored hrun hb).hasRow, ?_, ?_, ?_⟩
  · rw [oneRow_iff hstored]
    exact Delivery.eventId_eq_iff_same
  · intro hna hnb hpa hpb
    rw [oneRow_iff hstored, Delivery.eventId_of_fields hna, Delivery.eventId_of_fields hnb,
      Delivery.fallbackId_eq_iff, Delivery.alike_iff_of_plain hpa hpb]
  · intro hna hnb m n hm hn hne hrow
    have hids := (oneRow_iff hstored).mp hrow
    rw [Delivery.eventId_of_fields hna, Delivery.eventId_of_fields hnb] at hids
    exact hne ((Delivery.fallbackId_eq_iff.mp hids).account hm hn)

/-- What Razorpay sends once a part of the payment `pay_1` has been refunded. -/
def refundedPayload (refund : Nat) : RazorpayWebhookPayload where
  event := "refund.processed"
  payment := some ⟨"pay_1", "order_1", some 10000, none, none, none, none⟩
  refund := some ⟨s!"rfnd_{refund}", some 5000, none⟩
  createdAt := some 1700000000

def refundParse (rawBody : String) : Option RazorpayWebhookPayload :=
  if rawBody = "rfnd_1" then some (refundedPayload 1)
  else if rawBody = "rfnd_2" then some (refundedPayload 2)
  else none

theorem refundParse_genuine {rawBody : String} {payload : RazorpayWebhookPayload}
    {payment : RazorpayPaymentEntity} (h : refundParse rawBody = some payload)
    (hp : payload.payment = some payment) : "order_1" = payment.orderId := by
  unfold refundParse at h
  split at h
  · cases h
    cases hp
    rfl
  · split at h
    · cases h
      cases hp
      rfl
    · cases h

def refundGateway : Gateway :=
  { exampleGateway with
    parse := refundParse
    parse_genuine := fun _ h hp => refundParse_genuine h hp
    parse_genuine_global := fun _ h hp => refundParse_genuine h hp }

/-- A delivery that has been answered, to the route that names account 0. -/
def answeredDelivery (body : String) (header : Option String) :
    AnyRequest × Service Response → Bool
  | (.service (.receiveMerchantWebhook 0 rawBody _ headerEventId _), .done (.ok _)) =>
      rawBody = body && headerEventId = header
  | _ => false

theorem accepted_of_answered {body : String} {d : Delivery E} (hd : d.endpoint = some 0)
    (hbody : gateway.parse body = some (sent d.event))
    (h : c.flights.any (answeredDelivery body d.header) = true) : Accepted gateway sent c d := by
  obtain ⟨f, hf, h⟩ := List.any_eq_true.mp h
  unfold answeredDelivery at h
  split at h
  · next rawBody signature headerEventId now response =>
    obtain ⟨hr, hh⟩ := Bool.and_eq_true_iff.mp h
    obtain rfl := of_decide_eq_true hr
    obtain hh := of_decide_eq_true hh
    refine ⟨_, hf, ⟨response, rfl⟩, ?_⟩
    rw [hd, ← hh]
    exact .merchant hbody
  · cases h

/-- Two deliveries to account 0, of the two refunds. -/
def refundDeliveries (header header' : Option String) : List (Action AnyRequest) :=
  serveAny 0 (.service (.receiveMerchantWebhook 0 "rfnd_1" "signature" header 0)) 3 ++
    serveAny 1 (.service (.receiveMerchantWebhook 0 "rfnd_2" "signature" header' 0)) 3

/-- With a header of its own, each refund has a row of its own. Without, they name the same
account, kind, payment and second. -/
theorem deliveries_kept_apart_refunds :
    (∃ c : HostileConfig, ReachesAny refundGateway hostileStart c ∧
      HasRow refundedPayload c.state ⟨1, some 0, some "evt_1"⟩ ∧
      HasRow refundedPayload c.state ⟨2, some 0, some "evt_2"⟩ ∧
      ¬ OneRow refundedPayload c.state ⟨1, some 0, some "evt_1"⟩ ⟨2, some 0, some "evt_2"⟩) ∧
    ∃ c : HostileConfig, ReachesAny refundGateway hostileStart c ∧
      OneRow (E := Nat) refundedPayload c.state ⟨1, some 0, none⟩ ⟨2, some 0, none⟩ := by
  constructor
  · have hrun : (exec (handleAny refundGateway) (fun _ _ => True) (fun _ _ => True)
        (refundDeliveries (some "evt_1") (some "evt_2")) hostileStart).any (fun c =>
          c.flights.any (answeredDelivery "rfnd_1" (some "evt_1")) &&
            c.flights.any (answeredDelivery "rfnd_2" (some "evt_2"))) = true := by
      decide +kernel
    obtain ⟨c, hc, h⟩ := exec_any hrun
    obtain ⟨h₁, h₂⟩ := Bool.and_eq_true_iff.mp h
    obtain ⟨ha, hb, hkept, -, -⟩ := deliveries_kept_apart refundGateway refundedPayload _ _ _ c hc
      ⟨1, some 0, some "evt_1"⟩ ⟨2, some 0, some "evt_2"⟩
      (accepted_of_answered rfl (by decide) h₁) (accepted_of_answered rfl (by decide) h₂)
    refine ⟨c, hc, ha, hb, fun hrow => ?_⟩
    have happly : Delivery.KeptApart refundedPayload (E := Nat) ⟨1, some 0, some "evt_1"⟩
        ⟨2, some 0, some "evt_2"⟩ := by
      change "evt_1" = "evt_2" ↔ _
      decide
    exact absurd ((hkept.mpr happly).mp hrow) (by decide)
  · have hrun : (exec (handleAny refundGateway) (fun _ _ => True) (fun _ _ => True)
        (refundDeliveries none none) hostileStart).any (fun c =>
          c.flights.any (answeredDelivery "rfnd_1" none) &&
            c.flights.any (answeredDelivery "rfnd_2" none)) = true := by
      decide +kernel
    obtain ⟨c, hc, h⟩ := exec_any hrun
    obtain ⟨h₁, h₂⟩ := Bool.and_eq_true_iff.mp h
    obtain ⟨-, -, -, hplain, -⟩ := deliveries_kept_apart refundGateway (E := Nat) refundedPayload
      _ _ _ c hc ⟨1, some 0, none⟩ ⟨2, some 0, none⟩
      (accepted_of_answered rfl (by decide) h₁) (accepted_of_answered rfl (by decide) h₂)
    refine ⟨c, hc, (hplain rfl rfl ?_ ?_).mpr ⟨rfl, rfl, rfl, rfl⟩⟩
    · exact ⟨by decide, by decide⟩
    · exact ⟨by decide, by decide⟩

/-- Without headers, two refunds of one payment in one second share a row. -/
theorem refund_event_lost :
    ∃ (c : HostileConfig) (a b : Delivery Nat), ReachesAny refundGateway hostileStart c ∧
      Accepted refundGateway refundedPayload c a ∧ Accepted refundGateway refundedPayload c b ∧
      a.endpoint = b.endpoint ∧ ¬ a.Same b ∧ OneRow refundedPayload c.state a b := by
  have hrun : (exec (handleAny refundGateway) (fun _ _ => True) (fun _ _ => True)
      (refundDeliveries none none) hostileStart).any (fun c =>
        c.flights.any (answeredDelivery "rfnd_1" none) &&
          c.flights.any (answeredDelivery "rfnd_2" none)) = true := by
    decide +kernel
  obtain ⟨c, hc, h⟩ := exec_any hrun
  obtain ⟨h₁, h₂⟩ := Bool.and_eq_true_iff.mp h
  have ha : Accepted refundGateway refundedPayload c ⟨1, some 0, none⟩ :=
    accepted_of_answered rfl (by decide) h₁
  have hb : Accepted refundGateway refundedPayload c ⟨2, some 0, none⟩ :=
    accepted_of_answered rfl (by decide) h₂
  refine ⟨c, _, _, hc, ha, hb, rfl, by decide, ?_⟩
  exact (oneRow_iff (accepted_stored hc ha)).mpr (by decide +kernel)

end PrintForge
