import PrintForge.Subscriptions.Outcomes

/-!
# Local changes and the provider's

The operations ask the provider first, and a subscription is to become active, or to change its
plan, on the provider's word only. A request to Razorpay may be lost, and then nothing is known of
what has become of it. The orchestration reads the provider's subscription instead. An upgrade
compares its plan; a resumption compares nothing, since the status is not among what is read.
-/

namespace PrintForge.Subscriptions

open Relational Concurrent JavaScript RazorpayBillingProvider

/-- The operations that have something changed at Razorpay. The two others change a local flag
only. -/
def Operation.mutates : Operation → Bool
  | .upgrade _ | .downgrade _ | .cancel false | .resume => true
  | .cancel true | .unscheduleCancellation => false

/-- The request came to nothing at Razorpay, and Razorpay has not refused it. -/
def RazorpayBillingProvider.SdkAnswers.Lost (answers : SdkAnswers) : Prop :=
  answers.applied = false ∧ ∀ statusCode description,
    answers.change = .error (.status statusCode description) → 500 ≤ statusCode

/-- What an operation takes for a confirmation. -/
def Operation.takes : Operation → RazorpaySubscriptionRecord → Prop
  | .upgrade toPlanId, sub => sub.planId = toPlanId
  | .resume, _ => True
  | .downgrade _, _ | .cancel _, _ | .unscheduleCancellation, _ => False

/-- A request over the adapter. -/
def overRazorpay (op : Operation) (tenantId userId : Nat) (idempotencyKey : String)
    (answers : SdkAnswers) : OperationRequest :=
  ⟨op, tenantId, userId, idempotencyKey, RazorpayBillingProvider.call answers⟩

section Adapter

variable {planExists : String → Bool} {answers : SdkAnswers}

theorem translateSdkError_timeout (op : String) (e : ProviderError) :
    (∃ message, translateSdkError op e = .timeout message) ↔
      ∀ statusCode description, e = .status statusCode description → 500 ≤ statusCode := by
  cases e with
  | status statusCode description =>
      simp only [translateSdkError]
      split
      · next hge =>
        refine iff_of_true ⟨_, rfl⟩ fun code desc h => ?_
        cases h
        exact hge
      · next hlt =>
        refine iff_of_false (fun h => ?_) fun h => hlt (h statusCode description rfl)
        obtain ⟨message, hmessage⟩ := h
        cases hmessage
  | rejected message | timeout message | error message =>
      refine iff_of_true ⟨_, rfl⟩ fun code desc h => ?_
      cases h

/-- A request that has come to nothing has failed, and the adapter's answer translates this
failure. -/
theorem call_answer {op : Operation} (hop : op.mutates = true) (s : Subscription)
    (happlied : answers.applied = false) :
    ∃ name e, answers.change = .error e ∧
      (RazorpayBillingProvider.call answers (op.change planExists s)).answer
        = .error (translateSdkError name e) := by
  cases hchange : answers.change with
  | ok sub => exact absurd (answers.applied_of_ok sub hchange) (by simp [happlied])
  | error e =>
      cases op with
      | upgrade toPlanId | downgrade toPlanId =>
          refine ⟨"changeSubscription", e, rfl, ?_⟩
          change (RazorpayBillingProvider.changeSubscription answers).map _ = _
          rw [RazorpayBillingProvider.changeSubscription, hchange]
          rfl
      | cancel atPeriodEnd =>
          cases atPeriodEnd with
          | true => cases hop
          | false =>
              refine ⟨"cancelSubscription", e, rfl, ?_⟩
              change RazorpayBillingProvider.cancelSubscription answers .immediate = _
              rw [RazorpayBillingProvider.cancelSubscription, hchange]
              rfl
      | unscheduleCancellation => cases hop
      | resume =>
          refine ⟨"resumeSubscription", e, rfl, ?_⟩
          change (RazorpayBillingProvider.resumeSubscription answers).map _ = _
          rw [RazorpayBillingProvider.resumeSubscription, hchange]
          rfl

theorem call_applied {op : Operation} (hop : op.mutates = true) (s : Subscription) :
    (RazorpayBillingProvider.call answers (op.change planExists s)).applied = answers.applied ∧
      (RazorpayBillingProvider.call answers (op.change planExists s)).read
        = getSubscription answers := by
  cases op with
  | upgrade | downgrade | resume => exact ⟨rfl, rfl⟩
  | cancel atPeriodEnd =>
      cases atPeriodEnd with
      | true => cases hop
      | false => exact ⟨rfl, rfl⟩
  | unscheduleCancellation => cases hop

theorem toProviderSubscription_ok {sub : RazorpaySubscriptionRecord} {start stop : Int}
    (hstart : sub.currentStart = some start) (hstop : sub.currentEnd = some stop) :
    toProviderSubscription sub
      = .ok ⟨⟨start * 1000, stop * 1000⟩, sub.id, sub.planId, none⟩ := by
  obtain ⟨id, planId, status, currentStart, currentEnd⟩ := sub
  cases hstart
  cases hstop
  rfl

/-- A subscription without a period cannot be read. -/
theorem getSubscription_any (confirms : BillingProviderSubscription → Bool) :
    (getSubscription answers).toOption.any confirms = true ↔
      ∃ sub, answers.fetch = .ok sub ∧ ∃ start stop, sub.currentStart = some start ∧
        sub.currentEnd = some stop ∧
        confirms ⟨⟨start * 1000, stop * 1000⟩, sub.id, sub.planId, none⟩ = true := by
  have hread : (getSubscription answers).toOption
      = (answers.fetch.bind toProviderSubscription).toOption := by
    unfold getSubscription
    cases answers.fetch.bind toProviderSubscription <;> rfl
  rw [hread]
  constructor
  · intro h
    cases hfetch : answers.fetch with
    | error e =>
        rw [hfetch] at h
        cases h
    | ok sub =>
        rw [hfetch] at h
        obtain ⟨id, planId, status, currentStart, currentEnd⟩ := sub
        cases currentStart with
        | none => cases h
        | some start =>
            cases currentEnd with
            | none => cases h
            | some stop => exact ⟨_, rfl, start, stop, rfl, rfl, h⟩
  · rintro ⟨sub, hfetch, start, stop, hstart, hstop, h⟩
    rw [hfetch]
    change (toProviderSubscription sub).toOption.any confirms = true
    rw [toProviderSubscription_ok hstart hstop]
    exact h

/-- The operation goes on without a change at Razorpay. -/
structure Mistaken (op : Operation) (answers : SdkAnswers) : Prop where
  lost : answers.Lost
  read : ∃ sub, answers.fetch = .ok sub ∧ sub.currentStart.isSome ∧ sub.currentEnd.isSome ∧
    op.takes sub

theorem flow_confirms (op : Operation) {start stop : Int} (sub : RazorpaySubscriptionRecord) :
    (op.flow planExists).confirms ⟨⟨start, stop⟩, sub.id, sub.planId, none⟩ = true ↔
      op.takes sub := by
  cases op with
  | upgrade toPlanId => exact decide_eq_true_iff
  | downgrade | unscheduleCancellation => exact iff_of_false Bool.false_ne_true id
  | cancel atPeriodEnd => cases atPeriodEnd <;> exact iff_of_false Bool.false_ne_true id
  | resume => exact iff_of_true rfl trivial

theorem confirmed_iff {op : Operation} (hop : op.mutates = true) {s : Subscription}
    (happlied : answers.applied = false) (hcheck : (op.flow planExists).check s = none) :
    (op.flow planExists).confirmed
        (RazorpayBillingProvider.call answers (op.change planExists s)) s = true ↔
      Mistaken op answers := by
  obtain ⟨name, e, hchange, hanswer⟩ : ∃ name e, answers.change = .error e ∧
      (RazorpayBillingProvider.call answers (op.change planExists s)).answer
        = .error (translateSdkError name e) := call_answer hop s happlied
  have hlost : answers.Lost ↔ ∃ message, translateSdkError name e = .timeout message := by
    rw [translateSdkError_timeout]
    constructor
    · exact fun h statusCode description he => h.2 statusCode description (hchange.trans (he ▸ rfl))
    · refine fun h => ⟨happlied, fun statusCode description he => h statusCode description ?_⟩
      exact Except.error.inj (hchange.symm.trans he)
  have hread : (RazorpayBillingProvider.call answers (op.change planExists s)).read.toOption.any
      (op.flow planExists).confirms = true ↔
        ∃ sub, answers.fetch = .ok sub ∧ sub.currentStart.isSome ∧ sub.currentEnd.isSome ∧
          op.takes sub := by
    rw [(call_applied hop s).2, getSubscription_any]
    refine exists_congr fun sub => and_congr_right fun _ => ?_
    simp only [flow_confirms, Option.isSome_iff_exists]
    constructor
    · rintro ⟨start, stop, hstart, hstop, h⟩
      exact ⟨⟨start, hstart⟩, ⟨stop, hstop⟩, h⟩
    · rintro ⟨⟨start, hstart⟩, ⟨stop, hstop⟩, h⟩
      exact ⟨start, stop, hstart, hstop, h⟩
  unfold Flow.confirmed
  rw [hanswer]
  cases he : translateSdkError name e with
  | timeout message =>
      simp only [flow_linked op hcheck, Bool.true_and]
      rw [hread]
      exact ⟨fun h => ⟨hlost.mpr ⟨message, he⟩, h⟩, fun h => h.read⟩
  | status | rejected | error =>
      refine iff_of_false Bool.false_ne_true fun h => ?_
      obtain ⟨message, hmessage⟩ := hlost.mp h.lost
      rw [he] at hmessage
      cases hmessage

end Adapter

section Requests

variable (planExists : String → Bool)

/-- The subscriptions are as they were, or Razorpay has made the change that was asked for. -/
def Covered (op : Operation) (tenantId : Nat) (w w' : World) : Prop :=
  w'.subscriptions = w.subscriptions ∨
    ∃ s ∈ ownSubscription tenantId w,
      w'.providerChanges = w.providerChanges ++ [op.change planExists s]

/-- The operation finds something to do and may do it, Razorpay does not do it, and the
orchestration takes it to have been done. -/
structure Guesses (req : OperationRequest) (answers : SdkAnswers) (w : World) : Prop where
  fresh : findExisting req.idempotencyKey w = none
  due : ∃ s ∈ ownSubscription req.tenantId w, (req.operation.flow planExists).settled s = false ∧
    (req.operation.flow planExists).check s = none
  mistaken : Mistaken req.operation answers

variable {planExists}

/-- An operation changes the subscription without Razorpay exactly where its request is lost and
what is then read of Razorpay is taken for a confirmation. -/
theorem local_change_confirmed {op : Operation} (hop : op.mutates = true)
    (tenantId userId : Nat) (idempotencyKey : String) (answers : SdkAnswers) (w : World) :
    Covered planExists op tenantId w ((orchestrate planExists
        (overRazorpay op tenantId userId idempotencyKey answers)).alone w).2 ↔
      ¬ Guesses planExists (overRazorpay op tenantId userId idempotencyKey answers) answers w := by
  have houtcome := orchestrate_answered planExists
    (overRazorpay op tenantId userId idempotencyKey answers) w
  generalize (orchestrate planExists
    (overRazorpay op tenantId userId idempotencyKey answers)).alone w = out at houtcome
  cases houtcome with
  | foreign hkey | missing hkey | replayed hkey =>
      refine iff_of_true (.inl rfl) fun h => ?_
      cases hkey.symm.trans h.fresh
  | @worked w₁ out hkey hclaim hout =>
      have hown : ownSubscription tenantId w₁ = ownSubscription tenantId w := by
        simp only [ownSubscription, hclaim.subscriptions]
      have hkept : ∀ {s}, ownSubscription tenantId w₁ = some s →
          ∀ r, r ∈ ownSubscription tenantId w → s = r := by
        intro s hs r hr
        exact Option.some.inj (hs.symm.trans (hown.trans hr))
      cases hout with
      | missing hnone =>
          refine iff_of_true (.inl hclaim.subscriptions) fun h => ?_
          obtain ⟨r, hr, -⟩ := h.due
          cases hnone.symm.trans (hown.trans hr)
      | settled hs hsettled =>
          refine iff_of_true (.inl hclaim.subscriptions) fun h => ?_
          obtain ⟨r, hr, hnot, -⟩ := h.due
          rw [← hkept hs r hr] at hnot
          cases hsettled.symm.trans hnot
      | refused hs hsettled hcheck =>
          refine iff_of_true (.inl hclaim.subscriptions) fun h => ?_
          obtain ⟨r, hr, -, hnone⟩ := h.due
          rw [← hkept hs r hr] at hnone
          cases hcheck.symm.trans hnone
      | @unconfirmed s err hs hsettled hcheck hprovider =>
          refine iff_of_true (.inl ?_) fun h => ?_
          · exact (requested_subscriptions ..).trans hclaim.subscriptions
          · have hconfirmed := (confirmed_iff hop h.mistaken.lost.1 hcheck).mpr h.mistaken
            cases hprovider.symm.trans hconfirmed
      | @changed s s' w' hs hsettled hcheck hprovider hs' hw' =>
          have hmade : (RazorpayBillingProvider.call answers (op.change planExists s)).applied
              = answers.applied := (call_applied hop s).1
          have hchanges := hw'.providerChanges
          simp only [requested, overRazorpay, hmade] at hchanges
          cases happlied : answers.applied with
          | true =>
              rw [happlied] at hchanges
              refine iff_of_true (.inr ⟨s, hown.symm.trans hs, ?_⟩) fun h => ?_
              · rw [hchanges, ← hclaim.providerChanges]
                rfl
              · cases happlied.symm.trans h.mistaken.lost.1
          | false =>
              rw [happlied] at hchanges
              have hmistaken : Mistaken op answers :=
                (confirmed_iff hop happlied hcheck).mp hprovider
              refine iff_of_false ?_ (not_not.mpr ⟨hkey, ⟨s, hown.symm.trans hs, hsettled, hcheck⟩,
                hmistaken⟩)
              rintro (hsame | ⟨r, -, happended⟩)
              · -- the row has got what the operation is for
                have hget := hw'.get s.id
                have hid : s'.id = s.id := by
                  rw [hs']
                  exact congrArg Identity.id (Transition.row_identity ..)
                rw [hsame, if_pos hid.symm, ← hclaim.subscriptions, ownSubscription_get hs] at hget
                have heffect : (op.flow planExists).settled s' = true := by
                  rw [hs']
                  exact flow_effect op w₁.now s s
                rw [← Option.some.inj hget] at heffect
                cases hsettled.symm.trans heffect
              · rw [hchanges, ← hclaim.providerChanges] at happended
                exact absurd (congrArg List.length happended) (by simp)

end Requests

/-! A charge has failed, and the tenant asks for the subscription to be resumed. -/

def behind : Subscription where
  id := 0
  tenantId := 0
  providerCustomerId := some "cust_1"
  providerSubscriptionId := some "sub_1"
  planId := "pro"
  pendingPlanId := none
  status := .pastDue
  currentPeriodStart := some 0
  currentPeriodEnd := some 1000
  cancelAtPeriodEnd := none
  graceEndsAt := some 2000
  retentionEndsAt := none
  updatedAt := some 0

def fallenBehind : World where
  now := 100
  subscriptions := ⟨[behind], 1, by simp [behind, Schema.key], List.pairwise_singleton ..⟩
  subscriptionEvents := .empty
  billingWebhookEvents := .empty

def halted : RazorpaySubscriptionRecord := ⟨"sub_1", "pro", "halted", some 0, some 1⟩

/-- Razorpay does as it is asked. -/
def resumedThere : SdkAnswers where
  applied := true
  change := .ok halted
  confirm := .ok halted
  fetch := .ok halted
  applied_of_ok _ _ := rfl
  not_applied_of_refused _ _ h := by cases h

/-- The request never arrives, and the subscription can still be read. -/
def neverArrived : SdkAnswers where
  applied := false
  change := .error (.error "ETIMEDOUT")
  confirm := .ok halted
  fetch := .ok halted
  applied_of_ok _ h := by cases h
  not_applied_of_refused _ _ h := by cases h

theorem local_change_confirmed_resumed :
    Covered (fun _ => true) .resume 0 fallenBehind ((orchestrate (fun _ => true)
      (overRazorpay .resume 0 0 "k1" resumedThere)).alone fallenBehind).2 :=
  (local_change_confirmed rfl 0 0 "k1" resumedThere fallenBehind).mpr
    fun h => by cases h.mistaken.lost.1

/-- The subscription becomes active although Razorpay has not heard of it. -/
theorem lost_resumption_activates :
    ∃ w', w' = ((orchestrate (fun _ => true)
        (overRazorpay .resume 0 0 "k1" neverArrived)).alone fallenBehind).2 ∧
      (w'.subscriptions.get 0).map (·.status) = some .active ∧
      ¬ Covered (fun _ => true) .resume 0 fallenBehind w' := by
  refine ⟨_, rfl, by decide +kernel, ?_⟩
  rintro (hsame | ⟨s, -, happended⟩)
  · have hstatus := congrArg (fun t => (t.get 0).map (·.status)) hsame
    revert hstatus
    decide +kernel
  · have hlength := congrArg List.length happended
    rw [List.length_append, List.length_singleton] at hlength
    revert hlength
    decide +kernel

end PrintForge.Subscriptions
