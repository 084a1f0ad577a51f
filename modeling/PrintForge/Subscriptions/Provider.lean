import PrintForge.Subscriptions.Orchestration

/-!
# The billing provider

What a call of the provider comes back with, and the adapter over the Razorpay SDK. The adapter
turns whatever a call throws into one of the two errors the orchestration tells apart: the
provider has refused, or nothing is known of what it did. A second request that follows a change
fails inside the same handler, so that its refusal is one more case of the latter.

The SDK's answers are data: each request may be answered in any way.
-/

namespace PrintForge.Subscriptions

/-- A subscription as the provider reports it, with the plan it is on. -/
structure BillingProviderSubscription extends ProviderSubscription where
  providerSubscriptionId : String
  planRef : String
  trialEndsAt : Option Int := none
deriving DecidableEq, Repr

/-- What may be thrown: an answer with an HTTP status, one of the errors of the orchestration's
contract, or any other error. -/
inductive ProviderError where
  | status (statusCode : Nat) (description : Option String)
  | rejected (message : String)
  | timeout (message : String)
  | error (message : String)
deriving DecidableEq, Repr

/-- The provider in one operation: whether the change that is asked for takes place there, what
the call comes back with, and what a read of the subscription comes back with afterwards. -/
structure ProviderCall where
  applied : Bool
  answer : Except ProviderError Unit
  read : Except ProviderError BillingProviderSubscription

/-- An error that reaches this point is a refusal, or not known at all. -/
def classifyProviderError : ProviderError → HttpError
  | .rejected message => .conflict message
  | .status _ _ | .timeout _ | .error _ =>
      .other "Billing provider is currently unavailable; please retry shortly"

namespace RazorpayBillingProvider

/-- A subscription as the SDK returns it, with instants in seconds. -/
structure RazorpaySubscriptionRecord where
  id : String
  planId : String
  status : String
  currentStart : Option Int
  currentEnd : Option Int
deriving DecidableEq, Repr

abbrev Fetched := Except ProviderError RazorpaySubscriptionRecord

/-- What the SDK comes back with in one operation: from the request for the change, from the
fetch the adapter makes for the same call, and from the fetch of a later read. A request that
succeeds has made the change, and one that is refused has not. -/
structure SdkAnswers where
  applied : Bool
  change : Fetched
  confirm : Fetched
  fetch : Fetched
  applied_of_ok : ∀ sub, change = .ok sub → applied = true
  not_applied_of_refused : ∀ statusCode description,
    change = .error (.status statusCode description) → statusCode < 500 → applied = false

def translateSdkError (op : String) : ProviderError → ProviderError
  | .status statusCode description =>
      if 500 ≤ statusCode then
        .timeout s!"Razorpay SaaS billing {op}: server error HTTP {statusCode} — outcome unknown"
      else .rejected (description.getD "no description")
  | .rejected detail | .timeout detail | .error detail =>
      .timeout s!"Razorpay SaaS billing {op} failed: could not reach Razorpay ({detail})"

/-- Without a period the subscription is fetched again. -/
def ensureConfirmedPeriod (confirm : Fetched) (sub : RazorpaySubscriptionRecord) : Fetched :=
  if sub.currentStart.isSome && sub.currentEnd.isSome then .ok sub
  else confirm.mapError (translateSdkError "ensureConfirmedPeriod")

/-- A period is never made up. -/
def toProviderSubscription (sub : RazorpaySubscriptionRecord) :
    Except ProviderError BillingProviderSubscription :=
  match sub.currentStart, sub.currentEnd with
  | some currentStart, some currentEnd => .ok
      { providerSubscriptionId := sub.id
        currentPeriodStart := currentStart * 1000
        currentPeriodEnd := currentEnd * 1000
        planRef := sub.planId }
  | _, _ => .error (.error
      (s!"Razorpay subscription {sub.id} has no provider-confirmed billing period yet " ++
        s!"(status={sub.status}) — cannot report currentPeriodStart/End without inventing one."))

section

variable (answers : SdkAnswers)

/-- A period that is missing at last is no failure of the request. -/
def changeSubscription : Except ProviderError BillingProviderSubscription :=
  ((answers.change.bind (ensureConfirmedPeriod answers.confirm)).mapError
    (translateSdkError "changeSubscription")).bind toProviderSubscription

/-- A cancellation at the end of the period is not sent. -/
def cancelSubscription : ChangeMode → Except ProviderError Unit
  | .atPeriodEnd => .ok ()
  | .immediate =>
      (answers.change.map fun _ => ()).mapError (translateSdkError "cancelSubscription")

/-- A read: there is nothing to undo. -/
def unscheduleCancellation : Except ProviderError BillingProviderSubscription :=
  (answers.confirm.bind toProviderSubscription).mapError
    (translateSdkError "unscheduleCancellation")

def resumeSubscription : Except ProviderError BillingProviderSubscription :=
  ((answers.change.bind (ensureConfirmedPeriod answers.confirm)).bind
    toProviderSubscription).mapError (translateSdkError "resumeSubscription")

def getSubscription : Except ProviderError BillingProviderSubscription :=
  (answers.fetch.bind toProviderSubscription).mapError (translateSdkError "getSubscription")

/-- What the orchestration sees of a call. -/
def call : ProviderChange → ProviderCall
  | .changeSubscription _ _ _ =>
      { applied := answers.applied
        answer := (changeSubscription answers).map fun _ => ()
        read := getSubscription answers }
  | .cancelSubscription _ .atPeriodEnd =>
      { applied := false
        answer := cancelSubscription answers .atPeriodEnd
        read := getSubscription answers }
  | .cancelSubscription _ .immediate =>
      { applied := answers.applied
        answer := cancelSubscription answers .immediate
        read := getSubscription answers }
  | .unscheduleCancellation _ =>
      { applied := false
        answer := (unscheduleCancellation answers).map fun _ => ()
        read := getSubscription answers }
  | .resumeSubscription _ =>
      { applied := answers.applied
        answer := (resumeSubscription answers).map fun _ => ()
        read := getSubscription answers }

end

end RazorpayBillingProvider

end PrintForge.Subscriptions
