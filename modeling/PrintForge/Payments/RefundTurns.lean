import PrintForge.Concurrent.Discipline
import PrintForge.Payments.Evolution

/-!
# How a refund row comes to its end

A row is pending until something settles it, and carries no identifier of Razorpay until the
request that reserved it has heard one. `Refund.Turns` says what may become of a row in one commit:
only its owner turns a row that has no identifier, and a turned row says of its refund what the
provider has said. The discipline of this module keeps to that, for a provider that comes to one
verdict on each refund, or, where none is given, without any demand on the provider.
-/

namespace PrintForge

open Relational Concurrent

/-! ## The provider -/

/-- How Razorpay may end a refund. -/
inductive RefundVerdict where
  | processed
  | failed
deriving DecidableEq, Repr

def RefundVerdict.status : RefundVerdict → RefundStatus
  | processed => .processed
  | failed => .failed

/-- A provider that tells refunds apart and comes to one verdict on each: for every identifier it
gives out, the row it gave it for and the verdict. -/
structure RefundProvider where
  refundId : String → Nat
  verdict : String → RefundVerdict

namespace RefundProvider

variable (provider : RefundProvider)

/-- The answer to a refund call names the refund that was asked for, and reports no verdict but the
provider's. -/
def Answers (refundId : Nat) (answer : ProviderRefundAnswer) : Prop :=
  match answer.reply with
  | .ok result => provider.refundId result.providerRefundId = refundId ∧
      (result.status = "processed" → provider.verdict result.providerRefundId = .processed) ∧
      (result.status = "failed" → provider.verdict result.providerRefundId = .failed)
  | .error _ => True

/-- An event reports no verdict but the provider's. -/
def Sends (payload : RazorpayWebhookPayload) : Prop :=
  ∀ refundEntity ∈ payload.refund,
    (payload.event = refundProcessedEvent → provider.verdict refundEntity.id = .processed) ∧
      (payload.event = refundFailedEvent → provider.verdict refundEntity.id = .failed)

/-- What the provider says in its answers and in the events that are processed is one thing. -/
def Agrees : Commit → World → Prop
  | .callProvider refundId answer, _ => provider.Answers refundId answer
  | .processWebhook id, w => ∀ e ∈ lockedEvent id w, provider.Sends e.payload
  | _, _ => True

instance (refundId : Nat) (answer : ProviderRefundAnswer) :
    Decidable (provider.Answers refundId answer) := by
  unfold Answers
  cases answer.reply <;> infer_instance

instance (payload : RazorpayWebhookPayload) : Decidable (provider.Sends payload) :=
  inferInstanceAs (Decidable (∀ refundEntity ∈ payload.refund, _))

instance (ℓ : Commit) (w : World) : Decidable (provider.Agrees ℓ w) := by
  cases ℓ <;> unfold Agrees <;> infer_instance

end RefundProvider

/-- No refund is recorded by hand. -/
def Unrecorded : Commit → World → Prop
  | .performRefundRecording _, _ => False
  | _, _ => True

instance (ℓ : Commit) (w : World) : Decidable (Unrecorded ℓ w) := by
  cases ℓ <;> unfold Unrecorded <;> infer_instance

/-! ## Rows -/

/-- A settled row stays as it is, and so does the identifier of any row. -/
structure Refund.Stays (a b : Refund) : Prop where
  settled : a.status ≠ .pending → b = a
  named : ∀ x, a.razorpayRefundId = some x → b.razorpayRefundId = some x

instance : Std.Refl Refund.Stays := ⟨fun _ => ⟨fun _ => rfl, fun _ h => h⟩⟩

instance : IsTrans Refund Refund.Stays where
  trans a b c h h' := by
    refine ⟨fun hs => ?_, fun x hx => h'.named x (h.named x hx)⟩
    obtain rfl := h.settled hs
    exact h'.settled hs

/-- A row that carries an identifier is the row it was given for, and is settled, if at all, as
the provider says. -/
def Refund.Backed (provider : Option RefundProvider) (r : Refund) : Prop :=
  ∀ p ∈ provider, ∀ x, r.razorpayRefundId = some x →
    p.refundId x = r.id ∧ (r.status ≠ .pending → r.status = (p.verdict x).status)

theorem Refund.backed_of_unnamed {provider : Option RefundProvider} {r : Refund}
    (h : r.razorpayRefundId = none) : r.Backed provider := by
  intro p _ x hx
  rw [h] at hx
  cases hx

/-- A row stays as it is, or turns: it was pending, its owner turns it unless it carries an
identifier, and an identifier stays. -/
def Refund.Turns (provider : Option RefundProvider) (own : Nat → Prop) (a b : Refund) : Prop :=
  b = a ∨ (a.status = .pending ∧ (a.razorpayRefundId = none → own a.id) ∧
    (∀ x, a.razorpayRefundId = some x → b.razorpayRefundId = some x) ∧
      (a.Backed provider → b.Backed provider))

section Rows

variable {provider : Option RefundProvider} {own own' : Nat → Prop} {a b c : Refund}

instance : Std.Refl (Refund.Turns provider own) := ⟨fun _ => .inl rfl⟩

theorem Refund.Turns.stays (h : a.Turns provider own b) : a.Stays b := by
  obtain rfl | ⟨hpending, -, hname, -⟩ := h
  · exact Std.Refl.refl b
  · exact ⟨fun hs => absurd hpending hs, hname⟩

theorem Refund.Turns.backed (h : a.Turns provider own b) (ha : a.Backed provider) :
    b.Backed provider := by
  obtain rfl | ⟨-, -, -, hb⟩ := h
  · exact ha
  · exact hb ha

theorem Refund.Turns.mono (h : a.Turns provider own b) (hown : ∀ k, own k → own' k) :
    a.Turns provider own' b :=
  h.imp_right fun ⟨hpending, howner, hrest⟩ => ⟨hpending, fun hn => hown _ (howner hn), hrest⟩

/-- Nobody but its owner turns a row without an identifier. -/
theorem Refund.Turns.eq_of_unnamed (h : a.Turns provider own b) (hn : a.razorpayRefundId = none)
    (hown : ¬ own a.id) : b = a :=
  h.resolve_right fun ⟨_, howner, _⟩ => hown (howner hn)

instance : IsTrans Refund (Refund.Turns provider own) where
  trans a b c h h' := by
    obtain rfl | ⟨hpending, howner, hname, hb⟩ := h
    · exact h'
    · obtain rfl | ⟨-, -, hname', hc⟩ := h'
      · exact .inr ⟨hpending, howner, hname, hb⟩
      · exact .inr ⟨hpending, howner, fun x hx => hname' x (hname x hx), hc ∘ hb⟩

end Rows

/-! ## Tables -/

/-- Rows turn, and new rows carry no identifier. -/
structure RowsTurn (provider : Option RefundProvider) (own : Nat → Prop) (w w' : World) :
    Prop where
  nextKey : w.refunds.nextKey ≤ w'.refunds.nextKey
  rows : w.refunds.Evolves (Refund.Turns provider own) w'.refunds
  added : ∀ r' ∈ w'.refunds, (∃ r ∈ w.refunds, r.id = r'.id) ∨ r'.razorpayRefundId = none

/-- What anyone may do to the refunds of others. -/
structure OthersTurn (provider : Option RefundProvider) (w w' : World) : Prop
    extends RowsTurn provider (fun _ => False) w w' where
  reservedBy : w'.reservedBy = w.reservedBy

/-- What request `i` may do: it turns rows, its own included, and may reserve a new one. -/
structure RefundsMove (provider : Option RefundProvider) (i : Nat) (w w' : World) : Prop
    extends RowsTurn provider (fun k => ReservedBy w k i) w w' where
  reserved : ∀ k j, ReservedBy w k j → ReservedBy w' k j
  fresh : ∀ k j, ReservedBy w' k j → ReservedBy w k j ∨
    (j = i ∧ k = w.refunds.nextKey ∧ k < w'.refunds.nextKey)

section Tables

variable {provider : Option RefundProvider} {own : Nat → Prop} {i : Nat} {w w' : World}

theorem rowsTurn_of_eq (h : w'.refunds = w.refunds) : RowsTurn provider own w w' where
  nextKey := Nat.le_of_eq (congrArg Table.nextKey h.symm)
  rows := h ▸ Table.evolves_refl _
  added r' hr' := .inl ⟨r', h ▸ hr', rfl⟩

theorem rowsTurn_update {p : Refund → Bool} {f : Refund → Refund} {hf} {t : Table Refund}
    (ht : w.refunds.update p f hf = some t) (hw : w'.refunds = t)
    (hrow : ∀ r ∈ w.refunds, p r → r.Turns provider own (f r)) : RowsTurn provider own w w' where
  nextKey := by rw [hw, Table.nextKey_update ht]
  rows := hw ▸ Table.evolves_update ht hrow
  added r' hr' := by
    rw [hw] at hr'
    obtain ⟨r, hr, rfl⟩ := (Table.mem_update ht).mp hr'
    refine .inl ⟨r, hr, ?_⟩
    split
    · exact (hf r).symm
    · rfl

theorem rowsTurn_create {row : Nat → Refund} {hk} {t : Table Refund}
    (ht : w.refunds.create row hk = some t) (hw : w'.refunds = t)
    (hname : ∀ k, (row k).razorpayRefundId = none) : RowsTurn provider own w w' where
  nextKey := by
    rw [hw, Table.nextKey_create ht]
    exact Nat.le_succ _
  rows := hw ▸ Table.evolves_create ht
  added r' hr' := by
    rw [hw] at hr'
    obtain hr | rfl := (Table.mem_create ht).mp hr'
    · exact .inl ⟨r', hr, rfl⟩
    · exact .inr (hname _)

theorem othersTurn_of_eq (hw : w'.refunds = w.refunds) (hr : w'.reservedBy = w.reservedBy) :
    OthersTurn provider w w' :=
  ⟨rowsTurn_of_eq hw, hr⟩

instance : Std.Refl (OthersTurn provider) := ⟨fun _ => othersTurn_of_eq rfl rfl⟩

instance : IsTrans World (OthersTurn provider) where
  trans w w₁ w₂ h h' := by
    refine ⟨⟨Nat.le_trans h.nextKey h'.nextKey, h.rows.trans h'.rows, fun r₂ hr₂ => ?_⟩,
      h'.reservedBy.trans h.reservedBy⟩
    obtain ⟨r₁, hr₁, hid⟩ | hnone := h'.added r₂ hr₂
    · obtain ⟨r, hr, hid'⟩ | hnone := h.added r₁ hr₁
      · exact .inl ⟨r, hr, hid'.trans hid⟩
      · -- a row that was new before the second step has not been turned by it
        obtain ⟨r', hr', hkey, hturns⟩ := h'.rows r₁ hr₁
        obtain rfl : r' = r₂ := Table.eq_of_key hr' hr₂ (hkey.trans hid)
        obtain rfl := hturns.eq_of_unnamed hnone id
        exact .inr hnone
    · exact .inr hnone

theorem OthersTurn.moves (h : OthersTurn provider w w') : RefundsMove provider i w w' where
  nextKey := h.nextKey
  rows := fun r hr => by
    obtain ⟨r', hr', hkey, hturns⟩ := h.rows r hr
    exact ⟨r', hr', hkey, hturns.mono fun _ => False.elim⟩
  added := h.added
  reserved k j hk := by
    unfold ReservedBy
    rw [h.reservedBy]
    exact hk
  fresh k j hk := by
    unfold ReservedBy at hk
    rw [h.reservedBy] at hk
    exact .inl hk

theorem othersTurn_frame : IgnoresPayments (OthersTurn provider) :=
  ⟨inferInstance, inferInstance, fun _ _ => othersTurn_of_eq rfl rfl,
    fun _ _ => othersTurn_of_eq rfl rfl, fun _ _ => othersTurn_of_eq rfl rfl,
    fun _ _ => othersTurn_of_eq rfl rfl⟩

end Tables

/-! ## The discipline -/

/-- Every row was reserved by one request at most, and is backed by what the provider has said. -/
structure RefundRows (provider : Option RefundProvider) (w : World) : Prop where
  reserved_lt : ∀ k i, ReservedBy w k i → k < w.refunds.nextKey
  reserved_unique : ∀ k i j, ReservedBy w k i → ReservedBy w k j → i = j
  backed : ∀ r ∈ w.refunds, r.Backed provider

/-- What request `i` may rely on: its rows are left alone until it has given them an identifier,
and nobody takes back what is settled. -/
structure OwnRowsKept (i : Nat) (w w' : World) : Prop where
  reserved : ∀ k, ReservedBy w k i → ReservedBy w' k i
  own : ∀ k r, ReservedBy w k i → w.refunds.get k = some r → r.razorpayRefundId = none →
    w'.refunds.get k = some r
  stays : w.refunds.Evolves Refund.Stays w'.refunds

section Discipline

variable {provider : Option RefundProvider} {i j : Nat} {w w' : World}

theorem RefundsMove.refundRows (h : RefundsMove provider i w w') (hw : RefundRows provider w) :
    RefundRows provider w' := by
  refine ⟨fun k j hk => ?_, fun k j j' hj hj' => ?_, fun r' hr' => ?_⟩
  · obtain hk | ⟨-, -, hlt⟩ := h.fresh k j hk
    · exact Nat.lt_of_lt_of_le (hw.reserved_lt k j hk) h.nextKey
    · exact hlt
  · have fresh : ∀ {j}, ¬ ReservedBy w w.refunds.nextKey j := fun hj =>
      absurd (hw.reserved_lt _ _ hj) (Nat.lt_irrefl _)
    obtain hold | ⟨rfl, rfl, -⟩ := h.fresh k j hj
    · obtain hold' | ⟨rfl, rfl, -⟩ := h.fresh k j' hj'
      · exact hw.reserved_unique k j j' hold hold'
      · exact absurd hold fresh
    · obtain hold' | ⟨rfl, -, -⟩ := h.fresh _ j' hj'
      · exact absurd hold' fresh
      · rfl
  · obtain ⟨r, hr, hid⟩ | hnone := h.added r' hr'
    · obtain ⟨r'', hr'', hkey, hturns⟩ := h.rows r hr
      obtain rfl : r'' = r' := Table.eq_of_key hr'' hr' (hkey.trans hid)
      exact hturns.backed (hw.backed r hr)
    · exact Refund.backed_of_unnamed hnone

theorem RefundsMove.ownRowsKept (h : RefundsMove provider i w w') (hij : i ≠ j)
    (hw : RefundRows provider w) : OwnRowsKept j w w' where
  reserved k hk := h.reserved k j hk
  own k r hk hget hnone := by
    obtain ⟨r', hget', hturns⟩ := h.rows.get hget
    have hid : r.id = k := (Table.get_eq_some.mp hget).2
    have hother : ¬ ReservedBy w r.id i := fun hi =>
      hij (hw.reserved_unique k i j (hid ▸ hi) hk)
    rw [hget', hturns.eq_of_unnamed hnone hother]
  stays r hr := by
    obtain ⟨r', hr', hkey, hturns⟩ := h.rows r hr
    exact ⟨r', hr', hkey, hturns.stays⟩

theorem ownRowsKept_refl (i : Nat) (w : World) : OwnRowsKept i w w :=
  ⟨fun _ h => h, fun _ _ _ h _ => h, Table.evolves_refl _⟩

theorem OwnRowsKept.trans {w'' : World} (h : OwnRowsKept i w w') (h' : OwnRowsKept i w' w'') :
    OwnRowsKept i w w'' where
  reserved k hk := h'.reserved k (h.reserved k hk)
  own k r hk hget hnone := h'.own k r (h.reserved k hk) (h.own k r hk hget hnone) hnone
  stays := h.stays.trans h'.stays

/-- Refund rows turn as the provider says. -/
def turning (provider : Option RefundProvider) (ok : Commit → World → Prop) :
    Discipline World Commit where
  inv := RefundRows provider
  ok := ok
  rely := OwnRowsKept
  guar i _ w w' := RefundsMove provider i w w'
  rely_refl := ownRowsKept_refl
  rely_trans := OwnRowsKept.trans
  inv_guar h _ hg := hg.refundRows h
  rely_guar hij h _ hg := hg.ownRowsKept hij h

end Discipline

end PrintForge
