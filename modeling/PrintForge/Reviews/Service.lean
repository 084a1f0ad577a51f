import PrintForge.Common.Basic
import PrintForge.Concurrent.Sessions
import PrintForge.Numeric.Double
import PrintForge.Orders.StateMachine

/-!
# Reviews

A product carries the number of its published reviews and their mean. Every transaction that
writes a review then locks the product, aggregates its published reviews and writes the
aggregates, at the isolation level `READ COMMITTED`: a statement sees what has been committed by
then, and what its own transaction has written. A row that is written is locked until the commit,
and an insert waits for one of the same product and author.

The mean of the published ratings reaches the service as the double nearest to it, and the
product carries what that double prints as with two places.
-/

namespace PrintForge.Reviews

open Relational Concurrent

inductive ReviewStatus where
  | published
  | rejected
  | removed
deriving DecidableEq, Repr

/-- A rating as a request may carry it. -/
structure Rating where
  value : Nat
  inRange : 1 ≤ value ∧ value ≤ 5
deriving DecidableEq, Repr

/-! ## The tables -/

structure Order where
  id : Nat
  userId : Nat
  status : OrderStatus
deriving DecidableEq, Repr

instance : Schema Order where
  key o := o.id
  Clash _ _ := False
  clash_decidable _ _ := inferInstanceAs (Decidable False)
  clash_symm h := h

structure OrderItem where
  id : Nat
  orderId : Nat
  productId : Nat
  tenantId : Nat
deriving DecidableEq, Repr

instance : Schema OrderItem where
  key i := i.id
  Clash _ _ := False
  clash_decidable _ _ := inferInstanceAs (Decidable False)
  clash_symm h := h

structure Review where
  id : Nat
  productId : Nat
  userId : Nat
  orderItemId : Nat
  rating : Rating
  bodyText : Option String
  status : ReviewStatus
  tenantId : Nat
deriving DecidableEq, Repr

/-- A user reviews a product once. -/
instance : Schema Review where
  key r := r.id
  Clash a b := a.productId = b.productId ∧ a.userId = b.userId
  clash_decidable _ _ := inferInstanceAs (Decidable (_ ∧ _))
  clash_symm h := ⟨h.1.symm, h.2.symm⟩

/-- The mean is in units of a hundredth. -/
structure Product where
  id : Nat
  avgRating : Option Int
  reviewCount : Nat
deriving DecidableEq, Repr

instance : Schema Product where
  key p := p.id
  Clash _ _ := False
  clash_decidable _ _ := inferInstanceAs (Decidable False)
  clash_symm h := h

@[simp] theorem key_review (r : Review) : Schema.key r = r.id := rfl

@[simp] theorem key_product (p : Product) : Schema.key p = p.id := rfl

structure World where
  orders : Table Order
  orderItems : Table OrderItem
  reviews : Table Review
  products : Table Product

namespace Db

def reviews : Slot World Review where
  get w := w.reviews
  set t w := { w with reviews := t }

def products : Slot World Product where
  get w := w.products
  set t w := { w with products := t }

end Db

/-- The rows that are locked: a product, a review, and the place of one that is inserted. -/
inductive Key where
  | product (id : Nat)
  | review (id : Nat)
  | author (productId userId : Nat)
deriving DecidableEq, Repr

inductive Commit where
  | lockProduct
  | lockReview
  | lockAuthor
  | createReview
  | updateReview
  | removeReview
  | adminUpdateStatus
  | createProduct
  | elsewhere
deriving DecidableEq, Repr

abbrev Transaction := Tx World HttpError

abbrev Session := Txn World Key Commit HttpError

/-! ## The rating of a product -/

/-- The mean is a double. -/
structure RatingAggregate where
  count : Nat
  avg : Option ℚ
deriving DecidableEq, Repr

def aggregate (ratings : List Rating) : RatingAggregate where
  count := ratings.length
  avg :=
    if ratings = [] then none
    else some (Numeric.nearestDouble
      ((ratings.map fun r => (r.value : ℚ)).sum / ratings.length))

/-- The published reviews of a product. -/
def publishedReviews (productId : Nat) (w : World) : List Review :=
  w.reviews.findMany fun r => r.productId = productId && r.status = .published

def RatingAggregate.applyTo (agg : RatingAggregate) (product : Product) : Product :=
  { product with
    reviewCount := agg.count
    avgRating := if 0 < agg.count then agg.avg.map (Numeric.toFixed 2) else none }

/-- The product is locked before its reviews are looked at. -/
def recomputeProductRating (productId : Nat) : Session Unit := do
  let _ ← Txn.lockAnd .lockProduct (.product productId) fun _ => ()
  let agg ← Txn.read fun w => aggregate ((publishedReviews productId w).map (·.rating))
  let _ ← Txn.exec (Db.products.update productId agg.applyTo)
  return ()

/-! ## Reviews -/

structure CreateReviewDto where
  productId : Nat
  rating : Rating
  bodyText : Option String
deriving DecidableEq, Repr

structure UpdateReviewDto where
  rating : Property Rating
  bodyText : Property String
deriving DecidableEq, Repr

def findDeliveredOrderItemForProduct (userId productId : Nat) (w : World) : Option OrderItem :=
  w.orderItems.findFirst fun item => item.productId = productId &&
    (w.orders.get item.orderId).any fun order => order.userId = userId && order.status = .delivered

def mapUniqueConstraintError (message : String) (err : HttpError) : HttpError :=
  if err.isUniqueConstraintViolation then .conflict message else err

def newReview (userId : Nat) (dto : CreateReviewDto) (eligible : OrderItem) (id : Nat) : Review :=
  { id, productId := dto.productId, userId, orderItemId := eligible.id, rating := dto.rating
    bodyText := dto.bodyText, status := .published, tenantId := eligible.tenantId }

def insertReview (userId : Nat) (dto : CreateReviewDto) (eligible : OrderItem) :
    Transaction Review :=
  tryCatch (Db.reviews.create (newReview userId dto eligible)) fun err =>
    throw (mapUniqueConstraintError "You have already reviewed this product" err)

def createReview (userId : Nat) (dto : CreateReviewDto) : Session Review := do
  let eligible ← Txn.read (findDeliveredOrderItemForProduct userId dto.productId)
  match eligible with
  | none =>
      throw (.conflict
        "You can only review a product from an order that has been delivered to you")
  | some eligible => do
      let _ ← Txn.lockAnd .lockAuthor (.author dto.productId userId) fun _ => ()
      let created ← Txn.exec (insertReview userId dto eligible)
      recomputeProductRating dto.productId
      return created

/-- Rewrite a review that has been read, and recompute the rating of its product. -/
def rewriteReview (review : Review) (f : Review → Review)
    (hf : ∀ r, (f r).id = r.id := by intro; rfl) : Session Review := do
  let _ ← Txn.lockAnd .lockReview (.review review.id) fun _ => ()
  let updated ← Txn.exec (Db.reviews.update review.id f hf)
  recomputeProductRating review.productId
  return updated

def getReviewOwnedByOrThrow (reviewId userId : Nat) : Session Review := do
  let review ← Txn.read (·.reviews.get reviewId)
  match review with
  | none => throw (.notFound "Review not found")
  | some review =>
      if review.userId ≠ userId then
        throw (.forbidden "You can only manage your own review")
      else
        return review

/-- A rating of null is refused by the database client. -/
def UpdateReviewDto.rewrite (dto : UpdateReviewDto) (rating : Option Rating) (r : Review) :
    Review :=
  { r with
    rating := rating.getD r.rating
    bodyText := if dto.bodyText.isDefined then dto.bodyText.toOption else r.bodyText }

def updateReview (userId reviewId : Nat) (dto : UpdateReviewDto) : Session Review := do
  let review ← getReviewOwnedByOrThrow reviewId userId
  match dto.rating with
  | .null => throw (.other "Argument rating must not be null")
  | .undefined => rewriteReview review (dto.rewrite none)
  | .value rating => rewriteReview review (dto.rewrite (some rating))

def removeReview (userId reviewId : Nat) : Session Review := do
  let review ← getReviewOwnedByOrThrow reviewId userId
  rewriteReview review fun r => { r with status := .removed }

def adminUpdateStatus (tenantId reviewId : Nat) (status : ReviewStatus) : Session Review := do
  let review ← Txn.read (·.reviews.get reviewId)
  match review with
  | none => throw (.notFound "Review not found")
  | some review => do
      let _ ← assertObjectInTenant (·.tenantId) (some review) tenantId
      rewriteReview review fun r => { r with status }

/-! ## Calls -/

/-- A transaction may be made to fail after any number of statements. Products begin without
reviews, and orders are written by other services. -/
inductive Request where
  | createReview (userId : Nat) (dto : CreateReviewDto) (failsAt : Option Nat)
  | updateReview (userId reviewId : Nat) (dto : UpdateReviewDto) (failsAt : Option Nat)
  | removeReview (userId reviewId : Nat) (failsAt : Option Nat)
  | adminUpdateStatus (tenantId reviewId : Nat) (status : ReviewStatus) (failsAt : Option Nat)
  | createProduct
  | elsewhere (orders : Table Order) (orderItems : Table OrderItem)

abbrev Service := Proc (Locked World Key) (Entry Key Commit) HttpError

/-- What a call fails with that is cut off. -/
def connectionLost : HttpError := .other "connection lost"

/-- Run a transaction that may be cut off. -/
def run {α : Type} (i : Nat) (ℓ : Commit) (tx : Session α) (failsAt : Option Nat) :
    Service (Option α) :=
  some <$> inTransaction i (fun _ => ℓ) (tx.cutAt connectionLost failsAt)

/-- A write that is no transaction of the ones above. -/
def outside (ℓ : Commit) (tx : Transaction Unit) : Service (Option Review) :=
  .commit (.other ℓ) (fun s => { s with db := Proc.applied tx s.db })
    fun s => .done ((tx s.db).map fun _ => none)

def insertProduct : Transaction Unit := do
  let _ ← Db.products.create fun id => { id, avgRating := none, reviewCount := 0 }
  return ()

def handle (i : Nat) : Request → Service (Option Review)
  | .createReview userId dto failsAt => run i .createReview (createReview userId dto) failsAt
  | .updateReview userId reviewId dto failsAt =>
      run i .updateReview (updateReview userId reviewId dto) failsAt
  | .removeReview userId reviewId failsAt =>
      run i .removeReview (removeReview userId reviewId) failsAt
  | .adminUpdateStatus tenantId reviewId status failsAt =>
      run i .adminUpdateStatus (adminUpdateStatus tenantId reviewId status) failsAt
  | .createProduct => outside .createProduct insertProduct
  | .elsewhere orders orderItems =>
      outside .elsewhere (modify fun w => { w with orders, orderItems })

abbrev ReviewConfig :=
  Config (Locked World Key) Request (Entry Key Commit) HttpError (Option Review)

/-- A run of any length, with any requests, under any schedule that lets steps wait for keys. -/
abbrev Reaches : ReviewConfig → ReviewConfig → Prop := Run handle (fun _ _ => True) Unblocked

end PrintForge.Reviews
