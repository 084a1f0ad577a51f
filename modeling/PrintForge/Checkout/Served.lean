import PrintForge.Checkout.Committing

/-!
# Every request keeps the books

Each transaction commits what its keys allow it to, and an action that is no transaction touches
nothing that keys protect. The books are therefore kept in every run, under any schedule, and an
answered checkout was answered with the order of its key.
-/

namespace PrintForge.Checkout

open Relational Concurrent JavaScript Numeric Catalogue

variable {T : Terms} {w w' : World} {i userId tenantId : Nat} {key : String}
variable {s s' : Locked World Key} {pending : Tx World HttpError Unit}

/-! ## Commits -/

/-- The reply to a call names the order that its key belongs to, and a call that says it made the
order did. -/
structure Answered (userId : Nat) (key : String) (reply : OrderReply) (w : World) : Prop where
  row : ∃ row ∈ w.idempotencyKeys, row.key = key ∧ row.userId = userId ∧
    row.resultOrderId = some reply.orderId
  made : reply.created = true → ∃ p ∈ w.placements, p.key = key ∧ p.userId = userId ∧
    p.orderId = reply.orderId

theorem Answered.later {reply : OrderReply} (h : Answered userId key reply w)
    (hw : Onward w w') : Answered userId key reply w' where
  row := by
    obtain ⟨row, hrow, hfields⟩ := h.row
    exact ⟨row, hw.keys row hrow, hfields⟩
  made hcreated := by
    obtain ⟨p, hp, hfields⟩ := h.made hcreated
    exact ⟨p, hw.placements.subset hp, hfields⟩

/-- An order that is placed is placed with its own keys in hand. -/
theorem Drawn.allows {limit : ResolvedLimit} {draft : OrderDraft} {p : Placement}
    (h : Drawn T i limit draft p pending s) (hi : (protocol T).discipline.inv s)
    (hlimit : LimitWithin T limit) (hcommit : pending s.db = .ok ((), w')) :
    (protocol T).Allows i s w' ∧ Placed w' p ∧ p ∈ w'.placements := by
  obtain ⟨order, lines, usages, row, hplaces⟩ := h.places hcommit
  have hbooks : Books T w' := hplaces.books hi.2 h.sound h.items_ne_nil h.ready hlimit
  have hmem : p ∈ w'.placements := hplaces.placements ▸ List.mem_cons_self
  refine ⟨⟨hbooks, hplaces.onward, fun j k hji hk => ?_⟩, hbooks.placed p hmem, hmem⟩
  have hother : ∀ k', s.Holds i k' → k ≠ k' := by
    intro k' hk' he
    subst he
    exact hji (hi.1.eq hk hk')
  exact hplaces.same (hother _ h.holdsCart) (hother _ h.holdsKey) (hother _ h.holdsNumber)
    (hother _ h.holdsUsage) fun r hr => hother _ (h.holdsCoupon r hr)

theorem Settles.commits {limit : ResolvedLimit} {outcome : CheckoutOutcome}
    (h : Settles T i limit userId key outcome pending s) (hi : (protocol T).discipline.inv s)
    (hlimit : LimitWithin T limit) (hcommit : pending s.db = .ok ((), w')) :
    (protocol T).Allows i s w' ∧ Answered userId key ⟨outcome.orderId, outcome.created⟩ w' := by
  cases h with
  | raced idle row =>
      obtain rfl := idle w' hcommit
      exact ⟨Protocol.allows_same hi.2, row, fun hcreated => by cases hcreated⟩
  | placed drawn hu hk =>
      obtain ⟨hallows, hplaced, hmem⟩ := drawn.allows hi hlimit hcommit
      have huser := (congrArg Placement.userId drawn.placement).trans hu
      have hkey := (congrArg Placement.key drawn.placement).trans hk
      obtain ⟨row, hrow, hrowKey, hrowUser, hresult⟩ := hplaced.row
      exact ⟨hallows, ⟨row, hrow, hrowKey.trans hkey, hrowUser.trans huser, hresult⟩,
        fun _ => ⟨_, hmem, hkey, huser, rfl⟩⟩

/-! ## Other transactions -/

/-- A commit that places nothing, with the keys in hand of what it touches. -/
theorem Beside.allows (h : Beside T s.db w') (hi : (protocol T).discipline.inv s)
    (hcoupon : ∀ id, ¬ s.Holds i (.coupon id) → w'.coupons.get id = s.db.coupons.get id)
    (husage : ∀ tenantId limitKey period, ¬ s.Holds i (.usage tenantId limitKey period) →
      countIn w'.usage ⟨tenantId, limitKey, period⟩ =
        countIn s.db.usage ⟨tenantId, limitKey, period⟩) : (protocol T).Allows i s w' where
  inv := h.books hi.2
  onward := h.onward
  same j k hji hk := by
    have hother : ¬ s.Holds i k := fun hk' => hji (hi.1.eq hk hk')
    refine h.same (fun id hid => ?_) fun tenantId limitKey period hc => ?_
    · exact hcoupon id (hid ▸ hother)
    · exact husage tenantId limitKey period (hc ▸ hother)

theorem beside_coupons {t : Table Coupon} (h : ∀ coupon' ∈ t, ∃ coupon ∈ w.coupons,
    coupon'.id = coupon.id ∧ coupon'.usedCount = coupon.usedCount ∧
      (coupon.Reduces → coupon'.Reduces)) : Beside T w { w with coupons := t } where
  now := le_rfl
  keys := rfl
  orders := rfl
  orderItems := rfl
  couponUsages := rfl
  orderNumberCounter := rfl
  placements := rfl
  carts _ hcart := hcart
  nextItem := le_rfl
  gone _ _ hgone := hgone
  coupons := h
  counted _ _ _ := rfl
  bounded _ _ _ := le_max_left _ _
  nonneg _ hstart := hstart

/-- What a statement about one counter does to the counters. -/
structure Counts (T : Terms) (c : Counter) (t t' : Table Usage) : Prop where
  others : ∀ c', c' ≠ c → countIn t' c' = countIn t c'
  bounded : ∀ n ∈ T.bound c, countIn t' c ≤ max (countIn t c) n
  nonneg : 0 ≤ countIn t c → 0 ≤ countIn t' c

theorem beside_usage {c : Counter} {t : Table Usage} (h : Counts T c w.usage t)
    (halone : T.alone → c.limitKey ≠ .ordersPerMonth) : Beside T w { w with usage := t } where
  now := le_rfl
  keys := rfl
  orders := rfl
  orderItems := rfl
  couponUsages := rfl
  orderNumberCounter := rfl
  placements := rfl
  carts _ hcart := hcart
  nextItem := le_rfl
  gone _ _ hgone := hgone
  coupons coupon hcoupon := ⟨coupon, hcoupon, rfl, rfl, id⟩
  counted h' tenantId period := h.others _ fun he =>
    halone h' (congrArg Counter.limitKey he).symm
  bounded c' n hn := by
    by_cases hc : c' = c
    · subst hc
      exact h.bounded n hn
    · exact (h.others c' hc).trans_le (le_max_left _ _)
  nonneg c' hstart := by
    by_cases hc : c' = c
    · subst hc
      exact h.nonneg hstart
    · exact hstart.trans_eq (h.others c' hc).symm

theorem beside_shop (edit : Shop) (hcarts : ∀ cart ∈ w.shop.carts, cart ∈ edit.carts)
    (hnext : w.shop.cartItems.nextKey ≤ edit.cartItems.nextKey)
    (hgone : ∀ id < w.shop.cartItems.nextKey, w.shop.cartItems.get id = none →
      edit.cartItems.get id = none) : Beside T w { w with shop := edit } where
  now := le_rfl
  keys := rfl
  orders := rfl
  orderItems := rfl
  couponUsages := rfl
  orderNumberCounter := rfl
  placements := rfl
  carts := hcarts
  nextItem := hnext
  gone := hgone
  coupons coupon hcoupon := ⟨coupon, hcoupon, rfl, rfl, id⟩
  counted _ _ _ := rfl
  bounded _ _ _ := le_max_left _ _
  nonneg _ hstart := hstart

/-- What is written is one statement, under one key. -/
def Statement {α : Type} (i : Nat) (k : Key) (tx : Transaction α)
    (pending : Tx World HttpError Unit) (s : Locked World Key) : Prop :=
  s.Holds i k ∧ ∀ w w', pending w = .ok ((), w') → ∃ a, tx w = .ok (a, w')

/-- Lock a key and run a statement. -/
theorem sound_statement {α : Type} {ℓ : Commit} {k : Key} {tx : Transaction α} :
    (protocol T).Sound i (fun _ => Statement i k tx)
      (do let _ ← Txn.lockAnd ℓ k fun _ => (); Txn.exec tx) (pure ()) s := by
  refine Protocol.sound_lock fun s₁ _ _ _ => ?_
  refine Protocol.sound_execLast fun s₂ a w₂ hs₂ _ _ s₃ hs₃ _ => ⟨?_, fun w w' hcommit => ?_⟩
  · exact (hs₃.1 _ (hs₂.1 _ Locked.holds_acquire).1).1
  · obtain ⟨w₁, a, hpure, hrun⟩ := Tx.discard_ok.mp hcommit
    cases hpure
    exact ⟨a, hrun⟩

theorem sound_updateCoupon {id : Nat} {dto : UpdateCouponDto} :
    (protocol T).Sound i
      (fun _ => Statement i (.coupon id) (Db.coupons.update id dto.apply))
      (updateCoupon tenantId id dto) (pure ()) s := by
  refine Protocol.sound_read fun s₁ _ _ => ?_
  split
  · exact Protocol.sound_throw _
  · unfold assertObjectInTenant
    dsimp only
    split
    · exact Protocol.sound_throw _
    · refine Protocol.sound_lock fun s₂ _ _ _ => ?_
      refine Protocol.sound_exec fun s₃ a w₃ hs₃ _ _ => ?_
      refine Protocol.sound_pure fun s₄ hs₄ _ => ⟨?_, fun w w' hcommit => ?_⟩
      · exact (hs₄.1 _ (hs₃.1 _ Locked.holds_acquire).1).1
      · obtain ⟨w₁, a, hpure, hrun⟩ := Tx.discard_ok.mp hcommit
        cases hpure
        exact ⟨a, hrun⟩

/-- An update of a coupon changes neither its counter nor what it takes off. -/
theorem updateCoupon_allows {id : Nat} {dto : UpdateCouponDto}
    (h : Statement i (.coupon id) (Db.coupons.update id dto.apply) pending s)
    (hi : (protocol T).discipline.inv s) (hcommit : pending s.db = .ok ((), w')) :
    (protocol T).Allows i s w' := by
  obtain ⟨hholds, hrun⟩ := h
  obtain ⟨a, hupdate⟩ := hrun _ _ hcommit
  obtain ⟨_, t, -, ht, -, rfl⟩ := Slot.update_ok hupdate
  refine (beside_coupons fun coupon' hcoupon' => ?_).allows hi (fun other hother => ?_)
    fun _ _ _ _ => rfl
  · obtain ⟨coupon, hcoupon, rfl⟩ := (Table.mem_update ht).mp hcoupon'
    refine ⟨coupon, hcoupon, ?_⟩
    split
    · exact ⟨rfl, rfl, fun h => ⟨h.percentage, h.flatAmount⟩⟩
    · exact ⟨rfl, rfl, fun h => h⟩
  · refine (Table.get_update ht other).trans ?_
    show (s.db.coupons.get other).map _ = s.db.coupons.get other
    cases hget : s.db.coupons.get other with
    | none => rfl
    | some coupon =>
        have hkey := (Table.get_eq_some.mp hget).2
        have hne : ¬ Schema.key coupon = id :=
          fun he => hother ((he.symm.trans hkey) ▸ hholds)
        rw [Option.map_some, if_neg (by simpa using hne)]

/-- A statement of the counters touches the counter it has locked. -/
theorem usage_allows {α : Type} {tx : Transaction α} {limitKey : LimitKey} {period : String}
    (h : Statement i (.usage tenantId limitKey period) tx pending s)
    (htx : ∀ w a w', tx w = .ok (a, w') → ∃ t, w' = { w with usage := t } ∧
      Counts T ⟨tenantId, limitKey, period⟩ w.usage t)
    (halone : T.alone → limitKey ≠ .ordersPerMonth)
    (hi : (protocol T).discipline.inv s) (hcommit : pending s.db = .ok ((), w')) :
    (protocol T).Allows i s w' := by
  obtain ⟨hholds, hrun⟩ := h
  obtain ⟨a, hrun⟩ := hrun _ _ hcommit
  obtain ⟨t, rfl, hcounts⟩ := htx _ a _ hrun
  refine (beside_usage hcounts halone).allows hi (fun _ _ => rfl)
    fun tenant other month hother => hcounts.others _ fun he => ?_
  obtain ⟨rfl, rfl, rfl⟩ := Counter.mk.inj he
  exact hother hholds

theorem reserve_counts {limitKey : LimitKey} {period : String} {amount : Int}
    {limit : Option Int} {outcome : ReservationOutcome}
    (hbound : ∀ n ∈ T.bound ⟨tenantId, limitKey, period⟩, ∃ l ∈ limit, l ≤ n)
    (h : reserve Db.usage tenantId limitKey period amount limit w = .ok (outcome, w')) :
    ∃ t, w' = { w with usage := t } ∧ Counts T ⟨tenantId, limitKey, period⟩ w.usage t := by
  obtain ⟨hamount, t, rfl, hothers, hreserves⟩ :=
    reserve_ok (fun _ _ => rfl) (fun _ _ _ => rfl) h
  refine ⟨t, rfl, hothers, fun n hn => ?_, fun hstart => ?_⟩
  · cases hreserves with
    | reserved raised fits =>
        obtain ⟨l, hl, hle⟩ := hbound n hn
        exact (fits l hl).trans (hle.trans (le_max_right _ _))
    | limitExceeded limited exceeds same => exact same.trans_le (le_max_left _ _)
  · cases hreserves with
    | reserved raised fits => exact (Int.add_nonneg hstart hamount).trans_eq raised.symm
    | limitExceeded limited exceeds same => exact hstart.trans_eq same.symm

theorem decrement_counts {limitKey : LimitKey} {period : String} {amount count : Int}
    (h : decrement Db.usage tenantId limitKey period amount w = .ok (count, w')) :
    ∃ t, w' = { w with usage := t } ∧ Counts T ⟨tenantId, limitKey, period⟩ w.usage t := by
  obtain ⟨hamount, t, rfl, hothers, hlowered⟩ := decrement_ok h
  refine ⟨t, rfl, hothers, fun n _ => ?_, fun _ => ?_⟩
  · rw [hlowered]
    exact max_le_max (Int.sub_le_self _ hamount) (Int.natCast_nonneg n)
  · rw [hlowered]
    exact le_max_right _ _

/-! ## Actions outside -/

theorem gone_update {p : CartItem → Bool} {f : CartItem → CartItem} {hf} {t t' : Table CartItem}
    (h : t.update p f hf = some t') {id : Nat} (hgone : t.get id = none) : t'.get id = none := by
  rw [Table.get_update h, hgone]
  rfl

theorem cart_beside (change : CartChange) (w : World) :
    Beside T w (Proc.applied change.run w) := by
  cases hrun : change.run w with
  | error e =>
      rw [Proc.applied_error hrun]
      exact beside_shop _ (fun _ h => h) le_rfl fun _ _ h => h
  | ok r =>
      obtain ⟨u, w'⟩ := r
      rw [Proc.applied_ok hrun]
      cases change with
      | openCart userId tenantId =>
          obtain ⟨row, w₁, hcreate, hdone⟩ := Tx.bind_ok.mp hrun
          cases hdone
          unfold Slot.createOrIgnore at hcreate
          split at hcreate
          · next t ht =>
            cases hcreate
            exact beside_shop { w.shop with carts := t }
              (fun cart hcart => (Table.mem_create ht).mpr (.inl hcart)) le_rfl fun _ _ h => h
          · cases hcreate
            exact beside_shop _ (fun _ h => h) le_rfl fun _ _ h => h
      | addItem cartId productId variantId quantity tenantId =>
          obtain ⟨row, w₁, hcreate, hdone⟩ := Tx.bind_ok.mp hrun
          cases hdone
          obtain ⟨t, ht, -, rfl⟩ := Slot.create_ok hcreate
          refine beside_shop { w.shop with cartItems := t } (fun _ h => h) ?_ ?_
          · exact (Nat.le_succ _).trans_eq (Table.nextKey_create ht).symm
          · intro id hid hgone
            exact (Table.get_create ht id).trans ((if_neg (Nat.ne_of_lt hid)).trans hgone)
      | setQuantity itemId quantity =>
          obtain ⟨n, w₁, hupdate, hdone⟩ := Tx.bind_ok.mp hrun
          cases hdone
          obtain ⟨t, ht, -, rfl⟩ := Slot.updateMany_ok hupdate
          exact beside_shop { w.shop with cartItems := t } (fun _ h => h)
            (Table.nextKey_update ht).ge fun _ _ hgone => gone_update ht hgone
      | removeItem itemId =>
          cases hrun
          refine beside_shop { w.shop with cartItems := _ } (fun _ h => h) le_rfl ?_
          intro id _ hgone
          rw [Table.get_eq_none] at hgone ⊢
          exact fun item hitem => hgone item (Table.mem_delete.mp hitem).1

theorem cart_elsewhere (change : CartChange) (w : World) :
    (Proc.applied change.run w).coupons = w.coupons ∧
      (Proc.applied change.run w).usage = w.usage := by
  have hwithin : Tx.Within (Tx.Same fun w : World => (w.coupons, w.usage)) change.run := by
    cases change with
    | openCart userId tenantId =>
        exact Tx.within_bind (Slot.within_createOrIgnore fun _ _ _ => rfl) fun _ => Tx.within_pure _
    | addItem cartId productId variantId quantity tenantId =>
        exact Tx.within_bind (Slot.within_create fun _ _ _ => rfl) fun _ => Tx.within_pure _
    | setQuantity itemId quantity =>
        exact Tx.within_bind (Slot.within_updateMany fun _ _ _ => rfl) fun _ => Tx.within_pure _
    | removeItem itemId =>
        intro w u w' hrun
        cases hrun
        rfl
  cases hrun : change.run w with
  | error e =>
      rw [Proc.applied_error hrun]
      exact ⟨rfl, rfl⟩
  | ok r =>
      obtain ⟨u, w'⟩ := r
      rw [Proc.applied_ok hrun]
      exact Prod.mk.inj (hwithin hrun)

/-! ## Runs -/

/-- What is asked of a request so that the orders are counted by checkouts alone, within the
limit. -/
def Terms.Admits (T : Terms) : Request → Prop
  | .checkout limit _ _ _ _ => LimitWithin T limit
  | .reserve tenantId limitKey period _ limit _ => (T.alone → limitKey ≠ .ordersPerMonth) ∧
      ∀ n ∈ T.bound ⟨tenantId, limitKey, period⟩, ∃ l ∈ limit, l ≤ n
  | .decrement _ limitKey _ _ _ => T.alone → limitKey ≠ .ordersPerMonth
  | .updateCoupon .. | .cart _ | .elsewhere _ | .tick _ => True

/-- What is said of the answer to a request. -/
def Replies (req : Request) (s : Locked World Key) (r : Except HttpError (Option OrderReply)) :
    Prop :=
  ∀ limit userId dto key fault reply, req = .checkout limit userId dto key fault →
    r = .ok (some reply) → Answered userId key reply s.db

section Requests

variable {req : Request}

theorem safe_session {α : Type} {name : α → Commit} {tx : Session α}
    {Q : Tx World HttpError Unit → Locked World Key → Prop} (failsAt : Option Nat)
    (h : (protocol T).Sound i (fun _ => Q) tx (pure ()) s)
    (hcommit : ∀ pending s w', (protocol T).discipline.inv s → Q pending s →
      pending s.db = .ok ((), w') → (protocol T).Allows i s w') :
    (protocol T).discipline.Safe i (Replies req) ((fun _ => none) <$>
      inTransaction i name (tx.cutAt connectionLost failsAt)) s := by
  rw [Proc.map_def]
  refine Discipline.Safe.map (Q := Discipline.Returns fun _ _ => True)
    ((h.cutAt connectionLost failsAt).safe ?_ fun _ _ _ _ _ => trivial) fun s r _ => ?_
  · intro _ pending s' w' hs' _ hQ hpending
    exact ⟨hcommit pending s' w' hs' hQ hpending, trivial, trivial⟩
  · intro limit userId dto key fault reply _ hr
    cases r with
    | ok a => cases hr
    | error e => cases hr

theorem safe_outside {ℓ : Commit} {tx : Transaction Unit}
    (htx : ∀ w, Beside T w (Proc.applied tx w) ∧
      (Proc.applied tx w).coupons = w.coupons ∧ (Proc.applied tx w).usage = w.usage) :
    (protocol T).discipline.Safe i (Replies req) ((fun _ => none) <$> outside ℓ tx) s := by
  rw [Proc.map_def]
  refine Discipline.Safe.map (Q := fun _ _ => True) (fun s₁ _ hs₁ _ => ?_) fun s r _ => ?_
  · obtain ⟨hbeside, hcoupons, husage⟩ := htx s₁.db
    refine ⟨⟨hs₁.1, hbeside.allows hs₁ (fun id _ => ?_) (fun _ _ _ _ => ?_), fun _ _ _ hk => hk,
      fun _ hℓ => by cases hℓ⟩, fun _ _ _ => trivial⟩
    · rw [hcoupons]
    · rw [husage]
  · intro limit userId dto key fault reply _ hr
    cases r with
    | ok a => cases hr
    | error e => cases hr

theorem safe_viewUnless {orderId : Nat} {created : Bool} {fault : Option Fault}
    (h : Answered userId key ⟨orderId, created⟩ s.db) :
    (protocol T).discipline.Safe i
      (Discipline.Returns fun reply s => Answered userId key reply s.db)
      (viewUnless fault orderId userId created) s := by
  unfold viewUnless
  split
  · exact Discipline.safe_throw _
  · intro s₁ hs₁ _
    have h₁ := h.later hs₁.2
    cases hfound : (s₁.db.orders.get orderId).filter (·.userId = userId) with
    | none =>
        dsimp only
        rw [hfound]
        exact Discipline.safe_throw _
    | some order =>
        dsimp only
        rw [hfound]
        have hid : order.id = orderId :=
          (Table.get_eq_some.mp (Option.filter_eq_some_iff.mp hfound).1).2
        refine Discipline.safe_pure fun s₂ hs₂ => ?_
        rw [hid]
        exact h₁.later hs₂.2

theorem safe_checkout (decimalOf : String → DecimalText) {limit : ResolvedLimit}
    (hlimit : LimitWithin T limit) (dto : CreateOrderDto)
    (fault : Option Fault) :
    (protocol T).discipline.Safe i
      (Discipline.Returns fun reply s => Answered userId key reply s.db)
      (checkout decimalOf limit i userId dto key fault) s := by
  unfold checkout
  split
  · exact Discipline.safe_throw _
  · intro s₁ _ hi₁
    cases hexisting : s₁.db.idempotencyKeys.findFirst (·.key = key) with
    | some existing =>
        dsimp only
        rw [hexisting]
        obtain ⟨hmem, hkey⟩ := Table.findFirst_some hexisting
        show Discipline.Safe _ _ _ (replay existing userId fault) s₁
        unfold replay
        split
        · exact Discipline.safe_throw _
        · next huser =>
          split
          · next orderId hresult =>
            refine safe_viewUnless ⟨⟨existing, hmem, of_decide_eq_true hkey, ?_, hresult⟩, ?_⟩
            · exact not_not.mp huser
            · exact fun hcreated => by cases hcreated
          · exact Discipline.safe_throw _
    | none =>
        dsimp only
        rw [hexisting]
        show Discipline.Safe _ _ _ (inTransaction i Commit.checkout
          ((checkoutTransaction decimalOf limit userId dto key).cutAt connectionLost
            (fault.bind Fault.cut)) >>= fun outcome =>
              viewUnless fault outcome.orderId userId outcome.created) s₁
        refine Discipline.Safe.bind_returns (P := fun outcome s =>
          Answered userId key ⟨outcome.orderId, outcome.created⟩ s.db) ?_ hi₁ ?_
        · refine (sound_checkoutTransaction.cutAt connectionLost _).safe ?_ ?_
          · intro outcome pending s₂ w' hi₂ _ hsettles hpending
            obtain ⟨hallows, hanswered⟩ := hsettles.commits hi₂ hlimit hpending
            exact ⟨hallows, trivial, hanswered⟩
          · exact fun outcome w w' hw hanswered => hanswered.later hw
        · exact fun s₂ outcome _ hanswered => safe_viewUnless hanswered

theorem safe_handle (decimalOf : String → DecimalText) (i : Nat) (req : Request)
    (hadm : T.Admits req) :
    (protocol T).discipline.Safe i (Replies req) (handle decimalOf i req) s := by
  cases req with
  | checkout limit userId dto key fault =>
      rw [handle, Proc.map_def]
      refine (safe_checkout decimalOf hadm dto fault).map fun s r hr => ?_
      intro limit' userId' dto' key' fault' reply hreq hreply
      cases hreq
      cases r with
      | ok a =>
          cases hreply
          exact hr _ rfl
      | error e => cases hreply
  | updateCoupon tenantId id dto failsAt =>
      exact safe_session failsAt sound_updateCoupon fun pending s w' hi h hcommit =>
        updateCoupon_allows h hi hcommit
  | reserve tenantId limitKey period amount limit failsAt =>
      exact safe_session failsAt sound_statement fun pending s w' hi h hcommit =>
        usage_allows h (fun w a w' => reserve_counts hadm.2) hadm.1 hi hcommit
  | decrement tenantId limitKey period amount failsAt =>
      exact safe_session failsAt sound_statement fun pending s w' hi h hcommit =>
        usage_allows h (fun w a w' => decrement_counts) hadm hi hcommit
  | cart change =>
      exact safe_outside fun w => ⟨cart_beside change w, cart_elsewhere change w⟩
  | elsewhere edit =>
      exact safe_outside fun w =>
        ⟨beside_shop _ (fun _ h => h) le_rfl fun _ _ h => h, rfl, rfl⟩
  | tick milliseconds =>
      refine safe_outside fun w => ⟨?_, rfl, rfl⟩
      exact { (beside_shop (T := T) w.shop (fun _ h => h) le_rfl fun _ _ h => h) with
        now := Nat.le_add_right _ _ }

end Requests

end PrintForge.Checkout
