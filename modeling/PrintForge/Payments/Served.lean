import PrintForge.Payments.Bookkeeping

/-!
# Payment requests keep the discipline

Each payment service is served by a process that gives the guarantee with every commit.
Most commits give it in whatever state they are made; those that rely on what the service
has read before carry that knowledge along, since it survives what the others do.
-/

namespace PrintForge

open Relational Concurrent Function JavaScript

variable {gateway : Gateway} {ok : Commit → World → Prop} {i : Nat} {w w' : World}
variable {α β : Type}

/-- The guarantee as a property of single commits. -/
def Guaranteed (gateway : Gateway) (ok : Commit → World → Prop) (i : Nat) (ℓ : Commit)
    (w w' : World) : Prop :=
  BooksInv gateway w → ok ℓ w → Guarantee gateway ok i ℓ w w'

/-- A service that keeps the discipline. -/
abbrev Served (gateway : Gateway) (ok : Commit → World → Prop) (i : Nat) (p : Service α)
    (w : World) : Prop :=
  (bookkeeping gateway ok).Safe i (fun _ _ => True) p w

theorem served_of_within {p : Service α} (h : p.Within (Guaranteed gateway ok i)) :
    Served gateway ok i p w :=
  Discipline.safe_of_within h fun _ _ _ hinv hok hg => hg hinv hok

theorem Served.bind {p : Service α} {f : α → Service β} (h : Served gateway ok i p w)
    (hinv : BooksInv gateway w) (hf : ∀ w a, BooksInv gateway w → Served gateway ok i (f a) w) :
    Served gateway ok i (p >>= f) w :=
  Discipline.Safe.bind (K := fun _ => True) h hinv fun w a hinv _ => hf w a hinv

theorem within_statement {tx : Transaction α}
    (h : ∀ w a w', BooksInv gateway w → tx w = .ok (a, w') →
      Guarantee gateway ok i .statement w w') :
    Proc.Within (Guaranteed gateway ok i) (execute tx : Service α) :=
  Proc.within_transact (fun _ hinv _ => .refl hinv) fun w a w' htx hinv _ => h w a w' hinv htx

/-! ## Lookups -/

section Lookups

variable {G : Commit → World → World → Prop}

theorem within_query (f : World → α) : Proc.Within G (query f : Service α) :=
  Proc.within_read f

theorem within_findUniqueOrderOrThrow (id : Nat) :
    Proc.Within G (findUniqueOrderOrThrow id) := by
  refine Proc.Within.bind (within_query _) fun found => ?_
  cases found with
  | none => exact Proc.within_throw _
  | some order => exact Proc.within_pure _

theorem within_resolveForBoundAccount (tenantId id : Nat) :
    Proc.Within G (resolveForBoundAccount tenantId id : Service ResolvedPaymentAccount) := by
  refine Proc.Within.bind (within_query _) fun account => ?_
  cases account with
  | none => exact Proc.within_throw _
  | some account =>
      dsimp only
      split
      · exact Proc.within_throw _
      · exact Proc.within_pure _

theorem within_resolveBoundAccountOrFail (tenantId id : Nat) :
    Proc.Within G (resolveBoundAccountOrFail tenantId id : Service ResolvedPaymentAccount) := by
  refine Proc.Within.tryCatch (within_resolveForBoundAccount _ _) fun err => ?_
  split
  · exact Proc.within_throw _
  · exact Proc.within_throw _

theorem within_resolveForStore (tenantId storeId : Nat) (provider : PaymentProviderType) :
    Proc.Within G (resolveForStore tenantId storeId provider :
      Service ResolvedPaymentAccount) := by
  refine Proc.Within.bind ?_ fun _ => Proc.Within.bind (within_query _) fun account => ?_
  · refine Proc.Within.bind (within_query _) fun store => ?_
    split
    · exact Proc.within_throw _
    · exact Proc.within_pure _
  · cases account with
    | none => exact Proc.within_throw _
    | some account =>
        dsimp only
        split
        · exact Proc.within_throw _
        · split
          · exact Proc.within_throw _
          · exact Proc.within_pure _

theorem within_getEncryptedCredentials (tenantId id : Nat) :
    Proc.Within G (getEncryptedCredentials tenantId id : Service (Option String)) := by
  refine Proc.Within.bind (within_query _) fun row => ?_
  cases row with
  | none => exact Proc.within_throw _
  | some row =>
      dsimp only
      split
      · exact Proc.within_throw _
      · exact Proc.within_pure _

end Lookups

/-! ## What a service knows of an order it has read -/

/-- The order is still there, and has only changed as orders may. -/
def KnownOrder (order : Order) (w : World) : Prop :=
  ∃ o, w.orders.get order.id = some o ∧ order.Le o

theorem knownOrder_of_mem {order : Order} (h : order ∈ w.orders) : KnownOrder order w :=
  ⟨order, Table.get_key h, Std.Refl.refl order⟩

theorem KnownOrder.later {order : Order} (h : KnownOrder order w) (hp : Persist w w') :
    KnownOrder order w' := by
  obtain ⟨o, hget, hle⟩ := h
  obtain ⟨o', hget', hle'⟩ := hp.orders.get hget
  exact ⟨o', hget', IsTrans.trans _ _ _ hle hle'⟩

theorem KnownOrder.placed {order : Order} (h : KnownOrder order w) :
    (ledger w order.id).status ≠ none := by
  obtain ⟨o, hget, -⟩ := h
  simp [ledger_status_of_get hget]

theorem KnownOrder.rzp {order : Order} {id : String} (h : KnownOrder order w)
    (hid : order.razorpayOrderId = some id) :
    ∃ o, w.orders.get order.id = some o ∧ o.razorpayOrderId = some id := by
  obtain ⟨o, hget, hle⟩ := h
  exact ⟨o, hget, (hle.razorpayOrderId (by simp [hid])).trans hid⟩

/-! ## Starting a payment -/

theorem served_reopenOrder {order : Order} {userId : Nat} (hknown : KnownOrder order w) :
    Served gateway ok i (reopenOrder order userId) w := by
  unfold reopenOrder
  split
  · next hfailed =>
    -- the status and its history row are statements of their own
    unfold transitionOrder
    rw [if_neg (by rw [hfailed]; decide), Proc.bind_def, Proc.bind_def, Proc.finish_assoc]
    refine Discipline.safe_transact (fun w₁ n w₂ hl hinv _ hcas => ?_)
      (fun w₁ e _ hinv _ _ => ⟨.refl hinv, Discipline.safe_done fun _ _ _ => trivial⟩)
    have hknown : KnownOrder order w₁ := hknown.later hl.1
    obtain ⟨t, ht, -, hw₂⟩ := Slot.updateMany_ok hcas
    have hkeeps : Keeps {} w₁ w₂ := by
      rw [hw₂]
      exact keeps_setOrders (Table.evolves_update ht fun o _ _ => o.le_status _)
    have hsame : RefundsSame w₁ w₂ := by
      rw [hw₂]
      rfl
    obtain ⟨hn, hs, hledger⟩ | ⟨hn, -, rfl⟩ := casStatus_ok hcas
    · refine ⟨.plain hinv hkeeps (posts_of_update hledger (.reopen (by rw [hs, hfailed])))
        trivial (.same hsame), fun hinv₂ => ?_⟩
      simp only [Proc.onResult]
      rw [if_neg (by simp [hn]), Proc.bind_def, Proc.finish_assoc]
      refine Discipline.safe_transact (fun w₃ row w₄ hl₃ hinv₃ _ hhist => ?_)
        (fun w₃ e _ hinv₃ _ _ => ⟨.refl hinv₃, Discipline.safe_done fun _ _ _ => trivial⟩)
      obtain ⟨t, ht, hrow, hw₄⟩ := Slot.create_ok hhist
      have hledger := createHistory_ok hhist
      simp only [hrow, hfailed] at hledger
      refine ⟨.plain hinv₃ ?_ (posts_of_update hledger
        (.log ((hknown.later hkeeps.toPersist).later hl₃.1).placed)) trivial (.same ?_),
        fun _ => served_of_within (Proc.within_pure _)⟩
      · rw [hw₄]
        exact keeps_of_eq rfl rfl rfl
      · rw [hw₄]
        rfl
    · refine ⟨.refl hinv, fun _ => ?_⟩
      simp only [Proc.onResult]
      rw [if_pos hn]
      exact served_of_within (within_findUniqueOrderOrThrow order.id)
  · exact served_of_within (Proc.within_pure _)

/-- Columns of an order that are written at most once. -/
theorem guarantee_updateOrder {p : Order → Bool} {f : Order → Order} {hf} {n : Nat}
    {ℓ : Commit} (hinv : BooksInv gateway w)
    (h : (Db.orders.updateMany p f hf : Transaction Nat) w = .ok (n, w'))
    (hle : ∀ o, p o → o.Le (f o)) (hstatus : ∀ o, (f o).status = o.status) :
    Guarantee gateway ok i ℓ w w' := by
  have hledger := updateOrder_ok h hstatus
  obtain ⟨t, ht, -, rfl⟩ := Slot.updateMany_ok h
  exact .quiet hinv (keeps_setOrders (Table.evolves_update ht fun o _ hp => hle o hp)) hledger
    (.same rfl)

theorem within_bindPaymentAccount (order : Order) :
    Proc.Within (Guaranteed gateway ok i) (bindPaymentAccount order) := by
  unfold bindPaymentAccount
  split
  · exact Proc.Within.bind (within_resolveBoundAccountOrFail _ _) fun _ => Proc.within_pure _
  · exact Proc.within_throw _
  · refine Proc.Within.tryCatch ?_ fun err => ?_
    · refine Proc.Within.bind (within_resolveForStore _ _ _) fun resolved => ?_
      refine Proc.Within.bind (within_statement fun w n w' hinv h => ?_) fun n => ?_
      · refine guarantee_updateOrder hinv h (fun o hp => ?_) fun _ => rfl
        simp only [Bool.and_eq_true, decide_eq_true_eq] at hp
        exact ⟨rfl, rfl, rfl, rfl, fun _ => rfl, fun hne => absurd hp.2 hne⟩
      · split
        · exact Proc.within_pure _
        · refine Proc.Within.bind (within_findUniqueOrderOrThrow _) fun fresh => ?_
          split
          · exact Proc.within_throw _
          · exact Proc.Within.bind (within_resolveBoundAccountOrFail _ _)
              fun _ => Proc.within_pure _
    · split
      · exact Proc.within_throw _
      · exact Proc.within_throw _

theorem within_associateRazorpayOrder (order : Order) (created : Except ServiceError String) :
    Proc.Within (Guaranteed gateway ok i) (associateRazorpayOrder order created) := by
  unfold associateRazorpayOrder
  split
  · exact Proc.within_pure _
  · split
    · exact Proc.within_throw _
    · refine Proc.Within.bind (within_statement fun w n w' hinv h => ?_) fun n => ?_
      · refine guarantee_updateOrder hinv h (fun o hp => ?_) fun _ => rfl
        simp only [Bool.and_eq_true, decide_eq_true_eq] at hp
        exact ⟨rfl, rfl, rfl, rfl, fun hne => absurd hp.2 hne, fun _ => rfl⟩
      · split
        · exact Proc.within_pure _
        · refine Proc.Within.bind (within_findUniqueOrderOrThrow _) fun fresh => ?_
          split
          · exact Proc.within_pure _
          · exact Proc.within_throw _

theorem served_initiatePayment {userId orderId : Nat} {created : Except ServiceError String} :
    Served gateway ok i (initiatePayment gateway userId orderId created) w := by
  unfold initiatePayment
  refine Discipline.safe_read fun w₁ _ hinv₁ => ?_
  generalize hfound : (w₁.orders.get orderId).filter _ = found
  cases found with
  | none => exact served_of_within (Proc.within_throw _)
  | some found =>
      have hmem := (Table.get_eq_some.mp (Option.filter_eq_some_iff.mp hfound).1).1
      refine Served.bind (served_reopenOrder (knownOrder_of_mem hmem)) hinv₁
        fun w₂ order _ => served_of_within ?_
      split
      · exact Proc.within_throw _
      · refine Proc.Within.bind (within_bindPaymentAccount _) fun bound => ?_
        refine Proc.Within.bind (within_getEncryptedCredentials _ _) fun credentials => ?_
        split
        · exact Proc.within_throw _
        · refine Proc.Within.bind (within_associateRazorpayOrder _ _) fun razorpayOrderId => ?_
          refine Proc.Within.bind (within_statement fun w a w' hinv h => ?_)
            fun _ => Proc.within_pure _
          have hledger := createAttempt_ok h
          obtain ⟨t, ht, rfl, rfl⟩ := Slot.create_ok h
          exact .quiet hinv (keeps_createAttempt ht fun _ p hp => by cases hp)
            (hledger (by simp)) (.same rfl)

/-! ## The verify callback -/

/-- What the verify callback knows when its transaction begins: the order it has read, and
that an attempt it has found for the payment belongs to that order. -/
def VerifyKnows (order : Order) (existingByPaymentId : Option PaymentAttempt) (w : World) :
    Prop :=
  KnownOrder order w ∧ ∀ a, existingByPaymentId = some a →
    ∃ a', w.paymentAttempts.get a.id = some a' ∧ a'.orderId = order.id

theorem VerifyKnows.later {order : Order} {existing : Option PaymentAttempt}
    (h : VerifyKnows order existing w) (hp : Persist w w') : VerifyKnows order existing w' := by
  refine ⟨h.1.later hp, fun a ha => ?_⟩
  obtain ⟨a', hget, hao⟩ := h.2 a ha
  obtain ⟨a'', hget', hle⟩ := hp.attempts.get hget
  exact ⟨a'', hget', hle.orderId.trans hao⟩

theorem served_verifyPayment {userId : Nat} {dto : VerifyPaymentDto} :
    Served gateway ok i (verifyPayment gateway userId dto) w := by
  unfold verifyPayment
  refine Discipline.safe_read fun w₁ _ hinv₁ => ?_
  generalize hfound : ((w₁.orders.findFirst _).filter _) = found
  cases found with
  | none => exact served_of_within (Proc.within_throw _)
  | some order =>
      obtain ⟨hmem, hrzp⟩ := Table.findFirst_some (Option.filter_eq_some_iff.mp hfound).1
      have hrzp : order.razorpayOrderId = some dto.razorpayOrderId := by simpa using hrzp
      have hlater : ∀ w w', (bookkeeping gateway ok).rely i w w' → KnownOrder order w →
          KnownOrder order w' := fun w w' hl hk => hk.later hl.1
      simp only [Proc.onResult]
      split
      · exact served_of_within (Proc.within_throw _)
      · refine Discipline.Safe.bind (Discipline.safe_of_readOnly
          (within_resolveBoundAccountOrFail _ _) hlater (knownOrder_of_mem hmem)) hinv₁
          fun w₂ resolved hinv₂ hknown₂ => ?_
        refine Discipline.Safe.bind (Discipline.safe_of_readOnly
          (within_getEncryptedCredentials _ _) hlater hknown₂) hinv₂
          fun w₃ credentials hinv₃ hknown₃ => ?_
        split
        · exact served_of_within (Proc.within_throw _)
        · split
          · exact served_of_within (Proc.within_throw _)
          · next encryptedCredentials hvalid =>
            have hsigned : gateway.orderOf dto.razorpayPaymentId = dto.razorpayOrderId :=
              gateway.orderOf_eq (by simpa using hvalid)
            refine Discipline.safe_read fun w₄ hl₄ hinv₄ => ?_
            have hknown₄ := hknown₃.later hl₄.1
            generalize hexisting : w₄.paymentAttempts.findFirst _ = existing
            simp only [Proc.onResult]
            split
            · exact served_of_within (Proc.Within.bind (within_findUniqueOrderOrThrow _)
                fun _ => Proc.within_pure _)
            · -- an attempt that carries the payment id is one of this order
              have hknows : VerifyKnows order existing w₄ := by
                refine ⟨hknown₄, fun a ha => ?_⟩
                obtain ⟨hamem, hid⟩ := Table.findFirst_some (ha ▸ hexisting)
                obtain ⟨o, hget, horzp⟩ := hinv₄.attributed a hamem _ (by simpa using hid)
                obtain ⟨o', hget', ho'⟩ := hknown₄.rzp hrzp
                obtain ⟨homem, hokey⟩ := Table.get_eq_some.mp hget
                obtain ⟨homem', hokey'⟩ := Table.get_eq_some.mp hget'
                have heq : o = o' := Table.eq_of_clash homem homem'
                  ⟨by rw [horzp, ho', hsigned], by simp [horzp]⟩
                exact ⟨a, Table.get_key hamem, by rw [← hokey, heq]; exact hokey'⟩
              rw [Proc.tryCatch_def]
              refine Discipline.safe_transact (fun w₅ view w₆ hl₅ hinv₅ _ hcap => ?_)
                (fun w₅ e _ hinv₅ _ _ => ⟨.refl hinv₅, ?_⟩)
              · have hknows₅ := hknows.later hl₅.1
                obtain ⟨hposts, hkeeps, hsame⟩ :=
                  capturePayment_ok hknows₅.1.placed hrzp hknows₅.2 hcap
                refine ⟨?_, fun _ => served_of_within (Proc.within_pure _)⟩
                have hguar : ∀ {k}, Posts k order.id w₅ w₆ →
                    Admits (.verifyPayment order existing dto.razorpayPaymentId) w₅ order.id k →
                      Guarantee gateway ok i
                        (.verifyPayment order existing dto.razorpayPaymentId) w₅ w₆ := by
                  refine fun hp ha => .of_keeps hinv₅ hkeeps hp ha (.same hsame) ?_
                    fun _ => False.elim
                  rintro _ _ _ ⟨rfl, rfl⟩
                  rw [hsigned]
                  exact hknows₅.1.rzp hrzp
                obtain hp | hp | ⟨hcaptures, -, hp⟩ := hposts
                · exact hguar hp trivial
                · exact hguar hp trivial
                · exact hguar hp ⟨⟨rfl, hcaptures⟩, order, existing, _, rfl⟩
              · refine served_of_within ?_
                simp only [Proc.onError]
                split
                · exact Proc.Within.bind (within_findUniqueOrderOrThrow _)
                    fun _ => Proc.within_pure _
                · exact Proc.within_throw _

/-! ## Webhooks -/

theorem within_insertWebhookEvent {razorpayEventId : String} {payload : RazorpayWebhookPayload}
    {paymentAccountId : Option Nat} {now : Nat} (hgenuine : payload.Genuine gateway) :
    Proc.Within (Guaranteed gateway ok i)
      (execute (insertWebhookEvent razorpayEventId payload paymentAccountId now) :
        Service Unit) := by
  refine within_statement fun w _ w' hinv h => ?_
  unfold insertWebhookEvent at h
  obtain ⟨row, w₁, hcreate, hret⟩ := Tx.bind_ok.mp h
  cases hret
  unfold Slot.createOrIgnore at hcreate
  split at hcreate
  · next t ht =>
    cases hcreate
    refine .of_keeps hinv (g := { payload := (· = payload) })
      (keeps_createEvent ht fun _ => rfl) (posts_still 0 rfl) trivial
      (.same rfl) (fun _ _ _ => False.elim) fun q hq => hq ▸ hgenuine
  · cases hcreate
    exact .refl hinv

theorem within_receiveWebhook (rawBody signature : String) (headerEventId : Option String)
    (now : Nat) : Proc.Within (Guaranteed gateway ok i)
      (receiveWebhook gateway rawBody signature headerEventId now) := by
  unfold receiveWebhook
  split
  · exact Proc.within_throw _
  · next hvalid =>
    split
    · exact Proc.within_throw _
    · next payload hparse =>
      exact within_insertWebhookEvent fun payment hp =>
        gateway.parse_genuine_global (by simpa using hvalid) hparse hp

theorem within_resolveForWebhook {G : Commit → World → World → Prop} (id : Nat) :
    Proc.Within G (resolveForWebhook id : Service (ResolvedPaymentAccount × Nat)) := by
  refine Proc.Within.bind (within_query _) fun account => ?_
  cases account with
  | none => exact Proc.within_throw _
  | some account => exact Proc.within_pure _

theorem within_receiveMerchantWebhook (paymentAccountId : Nat) (rawBody signature : String)
    (headerEventId : Option String) (now : Nat) : Proc.Within (Guaranteed gateway ok i)
      (receiveMerchantWebhook gateway paymentAccountId rawBody signature headerEventId now) := by
  unfold receiveMerchantWebhook
  refine Proc.Within.bind (Proc.Within.tryCatch (within_resolveForWebhook _) fun err => ?_)
    fun resolved => Proc.Within.bind (within_getEncryptedCredentials _ _) fun credentials => ?_
  · split
    · exact Proc.within_throw _
    · exact Proc.within_throw _
  · cases credentials with
    | none => exact Proc.within_throw _
    | some credentials =>
        simp only [Option.any_some]
        split
        · exact Proc.within_throw _
        · next hvalid =>
          split
          · exact Proc.within_throw _
          · next payload hparse =>
            exact within_insertWebhookEvent fun payment hp =>
              gateway.parse_genuine (by simpa using hvalid) hparse hp

/-- Recording what has become of an event. -/
theorem within_safeUpdate {id : Nat} {data : WebhookEvent → WebhookEvent} {hdata}
    (hpayload : ∀ e, (data e).payload = e.payload) :
    Proc.Within (Guaranteed gateway ok i) (safeUpdate id data hdata) := by
  unfold safeUpdate
  refine Proc.Within.tryCatch (Proc.Within.bind (within_statement fun w e w' hinv h => ?_)
    fun _ => Proc.within_pure _) fun _ => Proc.within_pure _
  obtain ⟨e₀, t, -, ht, -, rfl⟩ := Slot.update_ok h
  exact .quiet hinv (keeps_updateEvents ht hpayload) rfl (.same rfl)

/-- A capture that has been seen stays. -/
theorem OrderCaptured.later {o : Nat} (h : OrderCaptured w o) (hp : Persist w w') :
    OrderCaptured w' o := by
  obtain ⟨a, ha, hao, hs⟩ := h
  obtain ⟨a', ha', -, hle⟩ := hp.attempts a ha
  exact ⟨a', ha', hle.orderId.trans hao, (hle.captured hs).1⟩

/-- An order is found under its Razorpay order for ever. -/
theorem orderId_of_rzp {order : Order} {id : String} (hknown : KnownOrder order w)
    (hrzp : order.razorpayOrderId = some id) :
    ∀ o ∈ w.orders, o.razorpayOrderId = some id → o.id = order.id := by
  intro o ho hid
  obtain ⟨o', hget, hrzp'⟩ := hknown.rzp hrzp
  obtain ⟨hmem, hkey⟩ := Table.get_eq_some.mp hget
  rw [Table.eq_of_clash ho hmem ⟨hid.trans hrzp'.symm, by simp [hid]⟩]
  exact hkey

theorem lockedEvent_mem {id : Nat} {e : WebhookEvent} (h : lockedEvent id w = some e) :
    e ∈ w.webhookEvents :=
  (Table.get_eq_some.mp (Option.filter_eq_some_iff.mp h).1).1

/-- Applying a stored event gives the guarantee. -/
theorem guarantee_processEvent {id : Nat} (hinv : BooksInv gateway w)
    (hok : ok (.processWebhook id) w) (h : processEvent id w = .ok ((), w')) :
    Guarantee gateway ok i (.processWebhook id) w w' := by
  have hown : ∀ e order paymentEntity, lockedEvent id w = some e →
      eventTarget w e.paymentAccountId e.payload = some (order, paymentEntity) →
        OwnPayment w order paymentEntity :=
    fun e order p he ht => (hinv.ownPayment (lockedEvent_mem he) ht).2.2
  obtain ⟨-, rfl⟩ | ⟨e, he, houtcome⟩ := processEvent_ok hown h
  · exact .refl hinv
  have hlaw : ∀ hhonest : ∀ ℓ w, ok ℓ w → ProviderLaw w ℓ ∧ Reported ℓ,
      RefundEventGenuine w e.payload := fun hhonest => (hhonest _ w hok).1 e he
  cases houtcome with
  | untouched ht hledger hk hr => exact .quiet hinv hk hledger (hr _ i hlaw)
  | acted order p ht hposts happlied hk hr =>
      obtain ⟨hmem, hrzp, -⟩ := hinv.ownPayment (lockedEvent_mem he) ht
      have hguar : ∀ {k}, Posts k order.id w w' → Admits (.processWebhook id) w order.id k →
          Guarantee gateway ok i (.processWebhook id) w w' := by
        refine fun hp' ha => .of_keeps hinv hk hp' ha (.same hr) ?_ fun _ => False.elim
        rintro _ _ _ ⟨rfl, rfl⟩
        exact (knownOrder_of_mem hmem).rzp hrzp
      cases hposts with
      | duplicate h _ _ _ => exact hguar h trivial
      | late hev hm h => exact hguar h ⟨e, he, hev, _, ht, rfl, hm⟩
      | paid hev hm h => exact hguar h trivial
      | failed hev hc hf h => exact hguar h ⟨e, he, hev, _, ht, rfl, hc, hf⟩

theorem served_processOne {id now : Nat} : Served gateway ok i (processOne id now) w := by
  unfold processOne
  rw [Proc.bind_def]
  refine Discipline.safe_attempt (fun w₁ _ w₂ _ hinv₁ hok h => ?_)
    (fun w₁ err _ hinv₁ hok h => ⟨.refl hinv₁, served_of_within ?_⟩)
  · exact ⟨guarantee_processEvent hinv₁ hok h, fun _ => Discipline.safe_done fun _ _ _ => trivial⟩
  · simp only [Proc.onResult]
    split
    · exact within_safeUpdate fun _ => rfl
    · split
      · exact within_safeUpdate fun _ => rfl
      · split
        · exact within_safeUpdate fun _ => rfl
        · exact within_safeUpdate fun _ => rfl

/-! ## Reconciliation -/

theorem within_failStalePendingOrder (order : Order) :
    Proc.Within (Guaranteed gateway ok i) (failStalePendingOrder order) := by
  unfold failStalePendingOrder
  refine Proc.Within.tryCatch (Proc.within_transact (fun _ hinv _ => .refl hinv)
    fun w b w' h hinv _ => ?_) fun err => ?_
  · have hkeeps : Keeps {} w w' := within_expirePendingOrder (keeps_frame _).whole _ h
    have hsame : RefundsSame w w' := within_expirePendingOrder refundsSame_frame.whole _ h
    obtain hp | ⟨hempty, hp⟩ := expirePendingOrder_ok h
    · exact .plain hinv hkeeps hp trivial (.same hsame)
    · refine .plain hinv hkeeps hp ⟨rfl, fun hc => ?_⟩ (.same hsame)
      exact Set.not_nonempty_iff_eq_empty.mpr hempty (captured_nonempty.mpr hc)
  · split
    · exact Proc.within_pure _
    · exact Proc.within_throw _

theorem within_maybeFailStale (order : Order) (ageMinutes : Nat) :
    Proc.Within (Guaranteed gateway ok i) (maybeFailStale order ageMinutes) := by
  unfold maybeFailStale
  split
  · exact Proc.within_pure _
  · exact Proc.Within.bind (within_failStalePendingOrder _) fun _ => Proc.within_pure _

theorem within_failStaleOrderWithoutRazorpayOrder (orderId ageMinutes : Nat) :
    Proc.Within (Guaranteed gateway ok i)
      (failStaleOrderWithoutRazorpayOrder orderId ageMinutes) := by
  refine Proc.Within.bind (within_query _) fun candidate => ?_
  cases candidate with
  | none => exact Proc.within_pure _
  | some order => exact within_maybeFailStale _ _

theorem rzp_of_not_mismatch {order : Order} {captured : CapturedPayment}
    (hsome : (truthy order.razorpayOrderId).isSome)
    (h : capturedPaymentMismatch order captured = none) :
    order.razorpayOrderId = some captured.razorpayOrderId := by
  obtain ⟨id, hid⟩ := Option.isSome_iff_exists.mp hsome
  have horder : order.razorpayOrderId = some id := (Option.filter_eq_some_iff.mp hid).1
  rw [horder]
  by_contra hne
  have hne : captured.razorpayOrderId ≠ id := fun he => hne (by rw [he])
  simp [capturedPaymentMismatch, hid, Option.filter_some, hne] at h

theorem served_reconcileCapturedPayment {order : Order} {captured : RazorpayOrderPayment}
    (hknown : KnownOrder order w) (hsome : (truthy order.razorpayOrderId).isSome)
    (hgenuine : gateway.orderOf captured.id = captured.razorpayOrderId) :
    Served gateway ok i (reconcileCapturedPayment order captured) w := by
  unfold reconcileCapturedPayment
  split
  · exact served_of_within (Proc.within_pure _)
  · next hmatch =>
    rw [Proc.tryCatch_def]
    refine Discipline.safe_transact (fun w₁ r w₂ hl hinv₁ _ h => ⟨?_, fun _ =>
      Discipline.safe_done fun _ _ _ => trivial⟩) (fun w₁ err _ hinv₁ _ _ => ⟨.refl hinv₁, ?_⟩)
    · obtain ⟨hposts, hkeeps, hsame⟩ := recordReconciled_ok h
      have hguar : ∀ {k}, Posts k order.id w₁ w₂ →
          Admits (.reconcileCapturedPayment order) w₁ order.id k →
            Guarantee gateway ok i (.reconcileCapturedPayment order) w₁ w₂ := by
        refine fun hp ha => .of_keeps hinv₁ hkeeps hp ha (.same hsame) ?_
          fun _ => False.elim
        rintro _ _ _ ⟨rfl, rfl⟩
        rw [hgenuine]
        exact (hknown.later hl.1).rzp (rzp_of_not_mismatch hsome hmatch)
      exact hposts.elim (hguar · trivial) (hguar · trivial)
    · refine served_of_within ?_
      simp only [Proc.onError]
      split
      · exact Proc.within_pure _
      · exact Proc.within_throw _

theorem served_reconcileOne {orderId ageMinutes : Nat}
    {payments : Option (List RazorpayOrderPayment)}
    (hgenuine : ∀ ps ∈ payments, ∀ p ∈ ps, gateway.orderOf p.id = p.razorpayOrderId) :
    Served gateway ok i (reconcileOne orderId ageMinutes payments) w := by
  unfold reconcileOne
  refine Discipline.safe_read fun w₁ _ hinv₁ => ?_
  simp only [Proc.onResult]
  split
  · next order payments' horder =>
    obtain ⟨hcandidate, hsome⟩ := Option.filter_eq_some_iff.mp horder
    have hmem := (Table.get_eq_some.mp (Option.filter_eq_some_iff.mp hcandidate).1).1
    split
    · next captured hfind =>
      refine Served.bind (served_reconcileCapturedPayment (knownOrder_of_mem hmem)
        (by simpa using hsome) ?_) hinv₁ fun _ _ _ => served_of_within (Proc.within_pure _)
      exact hgenuine payments' rfl captured (List.mem_of_find?_eq_some hfind)
    · refine served_of_within ?_
      split
      · exact Proc.within_pure _
      · exact within_maybeFailStale _ _
  · exact served_of_within (Proc.within_pure _)

end PrintForge
