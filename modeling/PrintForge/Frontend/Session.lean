import Mathlib.Logic.Relation
import Mathlib.Tactic.Common

/-!
# The session of a browser page

One store holds who is signed in. The API client sends every call with the token of the store; on
a 401 it asks for a new token and sends the call once more. All calls that fail meanwhile, and the
page itself when it is loaded, wait for the same request. The forms for signing in and out write
to the store when their own calls have come back.

A page runs one piece of code at a time; what happens is listed as events between which any other
may come: a call is begun, handed to the network, answered, taken up again after a refresh, or
completed; a refresh is asked for, answered, or forgotten. What the server answers comes with
the event.
-/

namespace PrintForge.Frontend

/-! ## The store -/

structure PublicUser where
  id : String
  email : String
  role : String
  createdAt : String
deriving DecidableEq, Repr

structure AuthTokenResult where
  accessToken : String
  user : PublicUser
deriving DecidableEq, Repr

inductive AuthStatus where
  | loading
  | authenticated
  | unauthenticated
deriving DecidableEq, Repr

structure AuthState where
  accessToken : Option String
  user : Option PublicUser
  status : AuthStatus
deriving DecidableEq, Repr

namespace AuthState

def initial : AuthState := ⟨none, none, .loading⟩

def setAuthenticated (result : AuthTokenResult) : AuthState :=
  ⟨some result.accessToken, some result.user, .authenticated⟩

def clearAuth : AuthState := ⟨none, none, .unauthenticated⟩

end AuthState

/-! ## Calls and refreshes -/

/-- What a call is made for. -/
inductive Kind where
  | other
  | login
  | register
  | logout
deriving DecidableEq, Repr

inductive Response where
  | ok (data : Option AuthTokenResult)
  | unauthorized
  | failed
deriving DecidableEq, Repr

inductive CallPhase where
  | created
  | inFlight
  | waiting (refresh : Nat)
  | resolved (data : Option AuthTokenResult)
  | rejected
  | ended
deriving DecidableEq, Repr

/-- The call has come back. -/
def CallPhase.isOver : CallPhase → Bool
  | .resolved _ | .rejected => true
  | .created | .inFlight | .waiting _ | .ended => false

/-- A call, with its header, whether it has been through a refresh, and how often it was sent. -/
structure Call where
  kind : Kind
  authorization : Option String
  retry : Bool
  sent : Nat
  phase : CallPhase
deriving DecidableEq, Repr

/-- A refresh request. Its promise is settled before the page forgets it, and comes to a token or
to none. -/
inductive Refresh where
  | inFlight
  | settled (token : Option String)
  | finished (token : Option String)
deriving DecidableEq, Repr

structure Page where
  auth : AuthState
  refreshPromise : Option Nat
  refreshes : List Refresh
  calls : List Call
deriving DecidableEq, Repr

def Page.start : Page := ⟨.initial, none, [], []⟩

inductive Event where
  | mount
  | call (kind : Kind)
  | send (i : Nat)
  | respond (i : Nat) (response : Response)
  | refreshResponse (k : Nat) (result : Option AuthTokenResult)
  | refreshFinally (k : Nat)
  | resume (i : Nat)
  | complete (i : Nat)
deriving DecidableEq, Repr

/-! ## The client -/

namespace Page

def setCall (p : Page) (i : Nat) (call : Call) : Page := { p with calls := p.calls.set i call }

/-- The refresh that is under way, or a new one. -/
def refreshSession (p : Page) : Nat × Page :=
  match p.refreshPromise with
  | some k => (k, p)
  | none => (p.refreshes.length, { p with
      refreshPromise := some p.refreshes.length
      refreshes := p.refreshes ++ [.inFlight] })

/-- An empty token is as good as none. -/
def truthy (token : Option String) : Option String := token.filter (· ≠ "")

/-- The request interceptor, and the request. -/
def send (p : Page) (i : Nat) (call : Call) : Page :=
  p.setCall i { call with
    authorization := (truthy p.auth.accessToken).or call.authorization
    sent := call.sent + 1
    phase := .inFlight }

/-- The response interceptor, up to the point where it waits. -/
def respond (p : Page) (i : Nat) (call : Call) : Response → Page
  | .ok data => p.setCall i { call with phase := .resolved data }
  | .failed => p.setCall i { call with phase := .rejected }
  | .unauthorized =>
      if call.retry then p.setCall i { call with phase := .rejected }
      else
        let (k, p) := p.refreshSession
        p.setCall i { call with retry := true, phase := .waiting k }

/-- The rest of `performRefresh`. -/
def refreshResponse (p : Page) (k : Nat) : Option AuthTokenResult → Page
  | some result => { p with
      auth := .setAuthenticated result
      refreshes := p.refreshes.set k (.settled (some result.accessToken)) }
  | none => { p with auth := .clearAuth, refreshes := p.refreshes.set k (.settled none) }

def refreshFinally (p : Page) (k : Nat) (token : Option String) : Page :=
  { p with refreshPromise := none, refreshes := p.refreshes.set k (.finished token) }

/-- The response interceptor, once the refresh has come to a token or none. -/
def resume (p : Page) (i : Nat) (call : Call) (newToken : Option String) : Page :=
  match truthy newToken with
  | none => p.setCall i { call with phase := .rejected }
  | some token => p.setCall i { call with authorization := some token, phase := .created }

/-- What whoever made the call does with its outcome: `none` where the store is left alone. -/
def signs (call : Call) : Option AuthState :=
  match call.kind, call.phase with
  | .login, .resolved (some result) => some (.setAuthenticated result)
  | .register, .resolved (some result) => some (.setAuthenticated result)
  | .logout, .resolved _ => some .clearAuth
  | .logout, .rejected => some .clearAuth
  | _, _ => none

def complete (p : Page) (i : Nat) (call : Call) : Page :=
  { p with auth := (signs call).getD p.auth }.setCall i { call with phase := .ended }

/-- The page after an event, if the event can happen. -/
def step (p : Page) : Event → Option Page
  | .mount => some p.refreshSession.2
  | .call kind => some { p with calls := p.calls ++ [⟨kind, none, false, 0, .created⟩] }
  | .send i => do
      let call ← p.calls[i]?
      if call.phase = .created then some (p.send i call) else none
  | .respond i response => do
      let call ← p.calls[i]?
      if call.phase = .inFlight then some (p.respond i call response) else none
  | .refreshResponse k result =>
      if p.refreshes[k]? = some .inFlight then some (p.refreshResponse k result) else none
  | .refreshFinally k =>
      match p.refreshes[k]? with
      | some (.settled token) => some (p.refreshFinally k token)
      | _ => none
  | .resume i => do
      let call ← p.calls[i]?
      match call.phase with
      | .waiting k =>
          match p.refreshes[k]? with
          | some (.finished token) => some (p.resume i call token)
          | _ => none
      | _ => none
  | .complete i => do
      let call ← p.calls[i]?
      if call.phase.isOver then some (p.complete i call) else none

end Page

/-- The page is in the state `p'` some events after `p`. -/
abbrev Reaches : Page → Page → Prop := Relation.ReflTransGen fun p p' => ∃ e, p.step e = some p'

/-! ## What an event can do -/

/-- What an event does to the refreshes. -/
inductive RefreshMove (p p' : Page) : Prop
  | same (hpromise : p'.refreshPromise = p.refreshPromise) (hrefreshes : p'.refreshes = p.refreshes)
  | start (hnone : p.refreshPromise = none) (hpromise : p'.refreshPromise = some p.refreshes.length)
      (hrefreshes : p'.refreshes = p.refreshes ++ [.inFlight])
  | settle (k : Nat) (token : Option String) (hk : p.refreshes[k]? = some .inFlight)
      (hpromise : p'.refreshPromise = p.refreshPromise)
      (hrefreshes : p'.refreshes = p.refreshes.set k (.settled token))
  | finish (k : Nat) (token : Option String) (hk : p.refreshes[k]? = some (.settled token))
      (hpromise : p'.refreshPromise = none)
      (hrefreshes : p'.refreshes = p.refreshes.set k (.finished token))

/-- What an event does to a call. -/
inductive CallMove : Call → Call → Prop
  | send {call : Call} (authorization : Option String) (hphase : call.phase = .created) :
      CallMove call { call with authorization, sent := call.sent + 1, phase := .inFlight }
  | wait {call : Call} (k : Nat) (hphase : call.phase = .inFlight) (hretry : call.retry = false) :
      CallMove call { call with retry := true, phase := .waiting k }
  | again {call : Call} (authorization : Option String) {k : Nat}
      (hphase : call.phase = .waiting k) :
      CallMove call { call with authorization, phase := .created }
  | leave {call : Call} (phase : CallPhase)
      (hphase : phase = .rejected ∨ phase = .ended ∨ ∃ data, phase = .resolved data) :
      CallMove call { call with phase }

variable {p p' : Page} {e : Event}

theorem refreshSession_move (p : Page) : RefreshMove p p.refreshSession.2 := by
  unfold Page.refreshSession
  split
  · exact .same rfl rfl
  · next hnone => exact .start hnone rfl rfl

theorem refreshSession_calls (p : Page) : p.refreshSession.2.calls = p.calls := by
  unfold Page.refreshSession
  split <;> rfl

theorem RefreshMove.setCall (h : RefreshMove p p') (i : Nat) (call : Call) :
    RefreshMove p (p'.setCall i call) := by
  cases h with
  | same hpromise hrefreshes => exact .same hpromise hrefreshes
  | start hnone hpromise hrefreshes => exact .start hnone hpromise hrefreshes
  | settle k token hk hpromise hrefreshes => exact .settle k token hk hpromise hrefreshes
  | finish k token hk hpromise hrefreshes => exact .finish k token hk hpromise hrefreshes

theorem respond_moves (p : Page) (i : Nat) {call : Call} (hphase : call.phase = .inFlight)
    (response : Response) : RefreshMove p (p.respond i call response) ∧
      ∃ call', CallMove call call' ∧ (p.respond i call response).calls = p.calls.set i call' := by
  cases response with
  | ok data => exact ⟨.same rfl rfl, _, .leave _ (.inr (.inr ⟨data, rfl⟩)), rfl⟩
  | failed => exact ⟨.same rfl rfl, _, .leave _ (.inl rfl), rfl⟩
  | unauthorized =>
      rw [Page.respond]
      split
      · exact ⟨.same rfl rfl, _, .leave _ (.inl rfl), rfl⟩
      · next hretry =>
        refine ⟨(refreshSession_move p).setCall i _, _,
          .wait p.refreshSession.1 hphase (Bool.eq_false_iff.mpr hretry), ?_⟩
        exact congrArg (List.set · i _) (refreshSession_calls p)

theorem resume_moves (p : Page) (i : Nat) {call : Call} {k : Nat} (hphase : call.phase = .waiting k)
    (token : Option String) : RefreshMove p (p.resume i call token) ∧
      ∃ call', CallMove call call' ∧ (p.resume i call token).calls = p.calls.set i call' := by
  rw [Page.resume]
  split
  · exact ⟨.same rfl rfl, _, .leave _ (.inl rfl), rfl⟩
  · exact ⟨.same rfl rfl, _, .again _ hphase, rfl⟩

/-- An event moves the refreshes, and at most one call, or begins one. -/
theorem step_moves (h : p.step e = some p') : RefreshMove p p' ∧
    (p'.calls = p.calls ∨ (∃ kind, p'.calls = p.calls ++ [⟨kind, none, false, 0, .created⟩]) ∨
      ∃ i call call', p.calls[i]? = some call ∧ CallMove call call' ∧
        p'.calls = p.calls.set i call') := by
  cases e with
  | mount =>
      cases h
      exact ⟨refreshSession_move p, .inl (refreshSession_calls p)⟩
  | call kind =>
      cases h
      exact ⟨.same rfl rfl, .inr (.inl ⟨kind, rfl⟩)⟩
  | send i =>
      obtain ⟨call, hcall, h⟩ := Option.bind_eq_some_iff.mp h
      split at h
      · next hphase =>
        cases h
        exact ⟨.same rfl rfl, .inr (.inr ⟨i, call, _, hcall, .send _ hphase, rfl⟩)⟩
      · cases h
  | respond i response =>
      obtain ⟨call, hcall, h⟩ := Option.bind_eq_some_iff.mp h
      split at h
      · next hphase =>
        cases h
        obtain ⟨hmove, call', hcall', hcalls⟩ := respond_moves p i hphase response
        exact ⟨hmove, .inr (.inr ⟨i, call, call', hcall, hcall', hcalls⟩)⟩
      · cases h
  | refreshResponse k result =>
      rw [Page.step] at h
      split at h
      · next hk =>
        cases h
        cases result with
        | none => exact ⟨.settle k none hk rfl rfl, .inl rfl⟩
        | some result => exact ⟨.settle k _ hk rfl rfl, .inl rfl⟩
      · cases h
  | refreshFinally k =>
      rw [Page.step] at h
      split at h
      · next token hk =>
        cases h
        exact ⟨.finish k token hk rfl rfl, .inl rfl⟩
      · cases h
  | resume i =>
      obtain ⟨call, hcall, h⟩ := Option.bind_eq_some_iff.mp h
      split at h
      · next k hphase =>
        split at h
        · next token _ =>
          cases h
          obtain ⟨hmove, call', hcall', hcalls⟩ := resume_moves p i hphase token
          exact ⟨hmove, .inr (.inr ⟨i, call, call', hcall, hcall', hcalls⟩)⟩
        · cases h
      · cases h
  | complete i =>
      obtain ⟨call, hcall, h⟩ := Option.bind_eq_some_iff.mp h
      split at h
      · cases h
        exact ⟨.same rfl rfl, .inr (.inr ⟨i, call, _, hcall, .leave _ (.inr (.inl rfl)), rfl⟩)⟩
      · cases h

/-! ## One refresh at a time, two requests a call -/

/-- The page knows every refresh that it has not forgotten, so there is one at most. -/
def Single (p : Page) : Prop :=
  ∀ (k : Nat) (r : Refresh), p.refreshes[k]? = some r → (∀ token, r ≠ .finished token) →
    p.refreshPromise = some k

/-- How often a call may still be sent. -/
def left (call : Call) : Nat :=
  match call.phase with
  | .created => if call.retry then 1 else 2
  | .inFlight => if call.retry then 0 else 1
  | .waiting _ => 1
  | .resolved _ | .rejected | .ended => 0

/-- No call is sent more than twice, and one that waits for a refresh has been marked. -/
structure Sparing (call : Call) : Prop where
  sent : call.sent + left call ≤ 2
  marked : ∀ k, call.phase = .waiting k → call.retry = true

theorem Single.move (h : Single p) (hmove : RefreshMove p p') : Single p' := by
  intro k r hk hr
  cases hmove with
  | same hpromise hrefreshes =>
      rw [hrefreshes] at hk
      rw [hpromise]
      exact h k r hk hr
  | start hnone hpromise hrefreshes =>
      rw [hrefreshes] at hk
      rw [hpromise]
      by_cases hlt : k < p.refreshes.length
      · rw [List.getElem?_append_left hlt] at hk
        have := h k r hk hr
        rw [hnone] at this
        cases this
      · have hle := (List.getElem?_eq_some_iff.mp hk).1
        rw [List.length_append, List.length_singleton] at hle
        exact congrArg some (by omega)
  | settle j token hj hpromise hrefreshes =>
      rw [hrefreshes] at hk
      rw [hpromise]
      by_cases hjk : j = k
      · subst hjk
        exact h j .inFlight hj nofun
      · rw [List.getElem?_set_ne hjk] at hk
        exact h k r hk hr
  | finish j token hj hpromise hrefreshes =>
      rw [hrefreshes] at hk
      by_cases hjk : j = k
      · subst hjk
        rw [List.getElem?_set_self (List.getElem?_eq_some_iff.mp hj).1] at hk
        exact absurd (Option.some.inj hk).symm (hr token)
      · rw [List.getElem?_set_ne hjk] at hk
        have hsame := (h j _ hj nofun).symm.trans (h k r hk hr)
        exact absurd (Option.some.inj hsame) hjk

theorem Sparing.move {call call' : Call} (h : Sparing call) (hmove : CallMove call call') :
    Sparing call' := by
  have hsent := h.sent
  cases hmove with
  | send authorization hphase =>
      refine ⟨?_, nofun⟩
      simp only [left, hphase] at hsent ⊢
      cases hretry : call.retry with
      | false =>
          rw [hretry, if_neg Bool.false_ne_true] at hsent
          rw [if_neg Bool.false_ne_true]
          omega
      | true =>
          rw [hretry, if_pos rfl] at hsent
          rw [if_pos rfl]
          omega
  | wait k hphase hretry =>
      refine ⟨?_, fun _ _ => rfl⟩
      simp only [left, hphase, hretry] at hsent ⊢
      simpa using hsent
  | again authorization hphase =>
      refine ⟨?_, nofun⟩
      simp only [left, hphase, h.marked _ hphase] at hsent ⊢
      simpa using hsent
  | leave phase hphase =>
      obtain rfl | rfl | ⟨data, rfl⟩ := hphase
      · exact ⟨Nat.le_trans (Nat.le_add_right _ _) hsent, nofun⟩
      · exact ⟨Nat.le_trans (Nat.le_add_right _ _) hsent, nofun⟩
      · exact ⟨Nat.le_trans (Nat.le_add_right _ _) hsent, nofun⟩

/-- Both hold of every page. -/
theorem reached_from_start (h : Reaches .start p) : Single p ∧ ∀ call ∈ p.calls, Sparing call := by
  induction h with
  | refl => exact ⟨fun k r hk => by simp [Page.start] at hk, fun call hcall => by cases hcall⟩
  | tail _ hstep ih =>
      obtain ⟨e, hstep⟩ := hstep
      obtain ⟨hrefreshes, hcalls⟩ := step_moves hstep
      refine ⟨ih.1.move hrefreshes, fun call hcall => ?_⟩
      obtain hsame | ⟨kind, hnew⟩ | ⟨i, before, after, hbefore, hmove, hset⟩ := hcalls
      · exact ih.2 call (hsame ▸ hcall)
      · rw [hnew] at hcall
        obtain hcall | hcall := List.mem_append.mp hcall
        · exact ih.2 call hcall
        · rw [List.mem_singleton.mp hcall]
          exact ⟨Nat.le_refl 2, nofun⟩
      · rw [hset] at hcall
        obtain hcall | rfl := List.mem_or_eq_of_mem_set hcall
        · exact ih.2 call hcall
        · exact (ih.2 before (List.mem_of_getElem? hbefore)).move hmove

/-! ## Refreshes that have been answered -/

/-- The refresh has been answered. -/
def Answered (k : Nat) (p : Page) : Prop := ∃ r, p.refreshes[k]? = some r ∧ r ≠ .inFlight

theorem Answered.move {k : Nat} (h : Answered k p) (hmove : RefreshMove p p') :
    Answered k p' := by
  obtain ⟨r, hk, hr⟩ := h
  have hlt := (List.getElem?_eq_some_iff.mp hk).1
  cases hmove with
  | same _ hrefreshes => exact ⟨r, hrefreshes ▸ hk, hr⟩
  | start _ _ hrefreshes => exact ⟨r, by rw [hrefreshes, List.getElem?_append_left hlt, hk], hr⟩
  | settle j token _ _ hrefreshes | finish j token _ _ hrefreshes =>
      rw [Answered, hrefreshes]
      by_cases hjk : j = k
      · subst hjk
        exact ⟨_, List.getElem?_set_self hlt, nofun⟩
      · exact ⟨r, by rw [List.getElem?_set_ne hjk, hk], hr⟩

/-- No answer comes twice. -/
theorem Answered.reaches {k : Nat} (h : Answered k p) (hrun : Reaches p p') : Answered k p' := by
  induction hrun with
  | refl => exact h
  | tail _ hstep ih =>
      obtain ⟨e, hstep⟩ := hstep
      exact ih.move (step_moves hstep).1

theorem Answered.not_inFlight {k : Nat} (h : Answered k p) : p.refreshes[k]? ≠ some .inFlight := by
  obtain ⟨r, hk, hr⟩ := h
  intro hflight
  exact hr (Option.some.inj (hk.symm.trans hflight))

theorem step_complete {i : Nat} (h : p.step (.complete i) = some p') :
    p'.refreshes = p.refreshes := by
  obtain ⟨call, -, h⟩ := Option.bind_eq_some_iff.mp h
  split at h
  · cases h
    rfl
  · cases h

/-- An answer to a refresh that is under way, and that is not what the store says. -/
theorem exists_override {k : Nat} (h : p.refreshes[k]? = some .inFlight) :
    ∃ result p', p.step (.refreshResponse k result) = some p' ∧ p'.auth ≠ p.auth := by
  by_cases hsigned : p.auth.status = .authenticated
  · refine ⟨none, _, if_pos h, fun hsame => ?_⟩
    rw [← hsame] at hsigned
    cases hsigned
  · refine ⟨some ⟨"token", "1", "a@example.test", "CUSTOMER", ""⟩, _, if_pos h, fun hsame => ?_⟩
    exact hsigned (by rw [← hsame]; rfl)

/-- The refreshes that were begun before leave alone what is in the store now. -/
def Stands (started : Nat) (p : Page) : Prop :=
  ∀ (p₁ p₂ : Page) (k : Nat) (result : Option AuthTokenResult), Reaches p p₁ → k < started →
    p₁.step (.refreshResponse k result) = some p₂ → p₂.auth = p₁.auth

/-- There is never more than one refresh request under way, and no call is sent more than twice.
What signing in or out has put into the store stands against the refreshes that were begun before
just if none of them was under way at that moment. -/
theorem sign_stands_iff (hrun : Reaches .start p) :
    (∀ k k' : Nat, p.refreshes[k]? = some .inFlight → p.refreshes[k']? = some .inFlight →
      k = k') ∧
    (∀ call ∈ p.calls, call.sent ≤ 2) ∧
    ∀ (i : Nat) (call : Call) (p₁ : Page), p.calls[i]? = some call → (Page.signs call).isSome →
      p.step (.complete i) = some p₁ →
      (Stands p.refreshes.length p₁ ↔ ∀ k : Nat, p.refreshes[k]? ≠ some .inFlight) := by
  obtain ⟨hsingle, hsparing⟩ := reached_from_start hrun
  refine ⟨fun k k' hk hk' => ?_, fun call hcall => ?_, fun i call p₁ _ _ hsign => ?_⟩
  · exact Option.some.inj ((hsingle k _ hk nofun).symm.trans (hsingle k' _ hk' nofun))
  · exact Nat.le_trans (Nat.le_add_right _ _) (hsparing call hcall).sent
  · have hrefreshes := step_complete hsign
    constructor
    · intro hstands k hk
      rw [← hrefreshes] at hk
      obtain ⟨result, p₂, hanswer, hne⟩ := exists_override hk
      have hlt := (List.getElem?_eq_some_iff.mp hk).1
      exact hne (hstands p₁ p₂ k result .refl (hrefreshes ▸ hlt) hanswer)
    · intro hquiet p₂ p₃ k result hreaches hlt hanswer
      have hk : Answered k p₁ := by
        rw [Answered, hrefreshes]
        exact ⟨_, List.getElem?_eq_getElem hlt, fun h =>
          hquiet k (by rw [List.getElem?_eq_getElem hlt, h])⟩
      rw [Page.step, if_neg (hk.reaches hreaches).not_inFlight] at hanswer
      cases hanswer

/-- Follow a list of events. -/
def follow (p : Page) : List Event → Option Page
  | [] => some p
  | e :: events => (p.step e).bind (follow · events)

theorem reaches_of_follow {events : List Event} (h : follow p events = some p') : Reaches p p' := by
  induction events generalizing p with
  | nil =>
      cases h
      exact .refl
  | cons e events ih =>
      obtain ⟨b, hb, hrest⟩ := Option.bind_eq_some_iff.mp h
      exact .head ⟨e, hb⟩ (ih hrest)

def shopper : AuthTokenResult := ⟨"token", "1", "shopper@example.test", "CUSTOMER", ""⟩

/-- A page with one refresh and a login that has come back, before or after it completes. -/
def signingIn (auth : AuthState) (refreshPromise : Option Nat) (refresh : Refresh)
    (phase : CallPhase) : Page :=
  ⟨auth, refreshPromise, [refresh], [⟨.login, none, false, 1, phase⟩]⟩

/-- Nothing undoes a login that completes when the refresh of the loaded page has been answered. -/
theorem sign_stands_after_mount :
    Stands 1 (signingIn (.setAuthenticated shopper) none (.finished none) .ended) := by
  have hrun : follow .start [.mount, .refreshResponse 0 none, .refreshFinally 0, .call .login,
      .send 0, .respond 0 (.ok (some shopper))] =
      some (signingIn .clearAuth none (.finished none) (.resolved (some shopper))) := by decide
  refine ((sign_stands_iff (reaches_of_follow hrun)).2.2 0
    ⟨.login, none, false, 1, .resolved (some shopper)⟩ _ rfl rfl (by decide)).mpr fun k => ?_
  cases k with
  | zero => decide
  | succ k => nofun

/-- The page is loaded and asks for a token; the shopper signs in meanwhile. The answer to the
page's request, that there is no session, signs the shopper out. -/
theorem refresh_signs_out :
    ¬ ∀ (p p₁ : Page) (i : Nat) (call : Call), Reaches .start p → p.calls[i]? = some call →
      (Page.signs call).isSome → p.step (.complete i) = some p₁ →
      Stands p.refreshes.length p₁ := by
  intro hall
  have hrun : follow .start [.mount, .call .login, .send 0, .respond 0 (.ok (some shopper))] =
      some (signingIn .initial (some 0) .inFlight (.resolved (some shopper))) := by decide
  have hstands := hall _ (signingIn (.setAuthenticated shopper) (some 0) .inFlight .ended) 0
    ⟨.login, none, false, 1, .resolved (some shopper)⟩ (reaches_of_follow hrun) rfl rfl
    (by decide)
  have hsigned := hstands _ (signingIn .clearAuth (some 0) (.settled none) .ended) 0 none .refl
    Nat.zero_lt_one (by decide)
  revert hsigned
  decide

end PrintForge.Frontend
