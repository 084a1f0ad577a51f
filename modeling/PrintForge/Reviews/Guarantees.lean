import PrintForge.Reviews.Service
import Mathlib.Algebra.BigOperators.Ring.Finset

/-!
# The ratings of the products

The key of a product protects its reviews. A transaction that writes one of them takes the key
before it aggregates, and holds it until the commit: what it has aggregated is still what there
is. Whatever is committed therefore has the aggregates of its published reviews, at every moment.

The mean that a product carries is the exact one, rounded, unless a tie lies between the mean and
the double nearest to it. With as many reviews as can be counted, the mean is then a tie itself,
and the double lies below it.
-/

namespace PrintForge.Reviews

open Relational Concurrent Numeric

variable {α : Type} {i p q : Nat} {w w' : World} {s s' : Locked World Key}
variable {pending : Tx World HttpError Unit}

/-! ## Exact ratings -/

/-- The mean of the ratings, as a rational number. -/
def meanRating (reviews : List Review) : ℚ :=
  (reviews.map fun r => (r.rating.value : ℚ)).sum / reviews.length

/-- The nearest hundredth, and of two the larger. -/
def IsRounded (x : ℚ) (hundredths : Int) : Prop :=
  x - 1 / 200 < hundredths / 100 ∧ (hundredths : ℚ) / 100 ≤ x + 1 / 200

/-- The product carries the number of its published reviews and their mean, if there are any. -/
structure Exact (product : Product) (w : World) : Prop where
  count : product.reviewCount = (publishedReviews product.id w).length
  empty : publishedReviews product.id w = [] → product.avgRating = none
  mean : publishedReviews product.id w ≠ [] → ∃ hundredths, product.avgRating = some hundredths ∧
    IsRounded (meanRating (publishedReviews product.id w)) hundredths

/-- The product carries the number of its published reviews and what the double nearest to their
mean prints as. -/
structure Current (product : Product) (w : World) : Prop where
  count : product.reviewCount = (publishedReviews product.id w).length
  empty : publishedReviews product.id w = [] → product.avgRating = none
  mean : publishedReviews product.id w ≠ [] → product.avgRating =
    some (toFixed 2 (nearestDouble (meanRating (publishedReviews product.id w))))

theorem current_applyTo (product : Product) (w : World) :
    Current ((aggregate ((publishedReviews product.id w).map (·.rating))).applyTo product) w := by
  have hid : ((aggregate ((publishedReviews product.id w).map (·.rating))).applyTo product).id =
      product.id := rfl
  refine ⟨?_, fun hempty => ?_, fun hne => ?_⟩
  · rw [hid]
    simp [RatingAggregate.applyTo, aggregate]
  · rw [hid] at hempty
    simp [RatingAggregate.applyTo, aggregate, hempty]
  · rw [hid] at hne ⊢
    have hpos : 0 < (publishedReviews product.id w).length := List.length_pos_of_ne_nil hne
    simp [RatingAggregate.applyTo, aggregate, hne, hpos, meanRating, Function.comp_def]

/-! ## Where the double prints the mean -/

/-- No tie lies between the mean and the double nearest to it. -/
def PrintsMean (reviews : List Review) : Prop :=
  ∀ t, IsTie 2 t → (t ≤ nearestDouble (meanRating reviews) ↔ t ≤ meanRating reviews)

/-- The mean is as far from one hundredth as from the next, and no double: the nearest one lies
below it. -/
def TieLost (reviews : List Review) : Prop :=
  IsTie 2 (meanRating reviews) ∧ nearestDouble (meanRating reviews) < meanRating reviews

theorem isRounded_iff {x : ℚ} {hundredths : Int} :
    IsRounded x hundredths ↔ toFixed 2 x = hundredths := by
  rw [toFixed_eq_iff_nearest, IsRounded]
  norm_num

theorem printsMean_nil : PrintsMean [] := by
  have hmean : meanRating [] = 0 := by simp [meanRating]
  have hdouble : nearestDouble 0 = 0 := nearestDouble_eq_self (n := 0) (by simp)
  intro t _
  rw [hmean, hdouble]

theorem Current.exact_iff {product : Product} (h : Current product w) :
    Exact product w ↔ PrintsMean (publishedReviews product.id w) := by
  constructor
  · intro hexact
    by_cases hne : publishedReviews product.id w = []
    · rw [hne]
      exact printsMean_nil
    · obtain ⟨hundredths, havg, hrounded⟩ := hexact.mean hne
      have hprinted := Option.some.inj ((h.mean hne).symm.trans havg)
      exact toFixed_eq_iff.mp (hprinted.trans (isRounded_iff.mp hrounded).symm)
  · intro hprints
    refine ⟨h.count, h.empty, fun hne => ⟨_, h.mean hne, ?_⟩⟩
    exact isRounded_iff.mpr (toFixed_eq_iff.mpr hprints).symm

theorem meanRating_eq (reviews : List Review) :
    meanRating reviews = ((reviews.map (·.rating.value)).sum : Nat) / reviews.length := by
  rw [meanRating, Nat.cast_list_sum, List.map_map]
  rfl

theorem meanRating_pos {reviews : List Review} (hne : reviews ≠ []) : 0 < meanRating reviews := by
  have hlength : (0 : ℚ) < reviews.length := by exact_mod_cast List.length_pos_of_ne_nil hne
  refine div_pos ?_ hlength
  cases reviews with
  | nil => exact absurd rfl hne
  | cons r rs =>
      have hr : (1 : ℚ) ≤ r.rating.value := by exact_mod_cast r.rating.inRange.1
      have hrs : (0 : ℚ) ≤ (rs.map fun r => (r.rating.value : ℚ)).sum :=
        List.sum_nonneg (by simp)
      rw [List.map_cons, List.sum_cons]
      linarith

theorem meanRating_le (reviews : List Review) : meanRating reviews ≤ 5 := by
  refine div_le_of_le_mul₀ (by positivity) (by norm_num) ?_
  induction reviews with
  | nil => simp
  | cons r rs ih =>
      have hr : (r.rating.value : ℚ) ≤ 5 := by exact_mod_cast r.rating.inRange.2
      rw [List.map_cons, List.sum_cons, List.length_cons]
      push_cast
      linarith

/-- A tie that is not the mean is further from it than the double nearest to it is. -/
theorem meanRating_far_from_tie {reviews : List Review} {t : ℚ} (hne : reviews ≠ [])
    (hcount : reviews.length < 2 ^ 31) (ht : IsTie 2 t) (hdiff : t ≠ meanRating reviews) :
    |nearestDouble (meanRating reviews) - meanRating reviews| < |t - meanRating reviews| := by
  obtain ⟨k, rfl⟩ := ht
  have hlength : (0 : ℚ) < reviews.length := by exact_mod_cast List.length_pos_of_ne_nil hne
  have hmean := meanRating_eq reviews
  set total : Nat := (reviews.map (·.rating.value)).sum
  set parts : Int := (2 * k + 1) * reviews.length - 200 * total with hparts
  have hdistance : (2 * (k : ℚ) + 1) / (2 * 10 ^ 2) - meanRating reviews =
      parts / (200 * reviews.length) := by
    rw [hmean, hparts, div_sub_div _ _ (by norm_num) hlength.ne']
    push_cast
    congr 1 <;> ring
  have hone : (1 : ℚ) ≤ |(parts : ℚ)| := by
    have hzero : parts ≠ 0 := fun hzero => hdiff (sub_eq_zero.mp (by rw [hdistance, hzero]; simp))
    exact_mod_cast Int.one_le_abs hzero
  have hplace : lastPlace (meanRating reviews) ≤ 2 ^ ((2 : Int) - 52) :=
    lastPlace_le (meanRating_pos hne) (lt_of_le_of_lt (meanRating_le reviews) (by norm_num))
  calc |nearestDouble (meanRating reviews) - meanRating reviews|
      ≤ lastPlace (meanRating reviews) / 2 := abs_nearestDouble_sub_le _
    _ ≤ 2 ^ ((2 : Int) - 52) / 2 := div_le_div_of_nonneg_right hplace (by norm_num)
    _ < 1 / (200 * 2 ^ 31) := by norm_num
    _ ≤ 1 / (200 * reviews.length) := by
        have hfew : (reviews.length : ℚ) ≤ 2 ^ 31 := by exact_mod_cast hcount.le
        exact one_div_le_one_div_of_le (by positivity) (by linarith)
    _ ≤ |(parts : ℚ)| / (200 * reviews.length) :=
        div_le_div_of_nonneg_right hone (by positivity)
    _ = |(2 * (k : ℚ) + 1) / (2 * 10 ^ 2) - meanRating reviews| := by
        rw [hdistance, abs_div, abs_of_pos (by positivity : (0 : ℚ) < 200 * reviews.length)]

theorem printsMean_iff {reviews : List Review} (hcount : reviews.length < 2 ^ 31) :
    PrintsMean reviews ↔ ¬ TieLost reviews := by
  constructor
  · rintro hprints ⟨htie, hlost⟩
    exact absurd ((hprints _ htie).mpr le_rfl) (not_le.mpr hlost)
  · intro hkept
    by_cases hne : reviews = []
    · rw [hne]
      exact printsMean_nil
    intro t ht
    by_cases heq : t = meanRating reviews
    · subst heq
      exact ⟨fun _ => le_rfl, fun _ => not_lt.mp fun hlost => hkept ⟨ht, hlost⟩⟩
    · have hfar := meanRating_far_from_tie hne hcount ht heq
      -- the tie lies on the same side of both
      rcases lt_or_gt_of_ne heq with hlt | hgt
      · rw [abs_of_neg (sub_neg.mpr hlt)] at hfar
        have hnear := (abs_lt.mp hfar).1
        exact ⟨fun _ => hlt.le, fun _ => by linarith⟩
      · rw [abs_of_pos (sub_pos.mpr hgt)] at hfar
        have hnear := (abs_lt.mp hfar).2
        exact ⟨fun hle => by linarith, fun hle => absurd hle (not_le.mpr hgt)⟩

/-! ## The reviews of a product -/

def reviewsOf (productId : Nat) (w : World) : List Review :=
  w.reviews.findMany (·.productId = productId)

theorem mem_reviewsOf {r : Review} : r ∈ reviewsOf p w ↔ r ∈ w.reviews ∧ r.productId = p := by
  simp [reviewsOf, Table.findMany, Table.mem_rows]

def publishedIn (reviews : List Review) : List Review := reviews.filter (·.status = .published)

theorem publishedReviews_eq (productId : Nat) (w : World) :
    publishedReviews productId w = publishedIn (reviewsOf productId w) := by
  simp only [publishedReviews, publishedIn, reviewsOf, Table.findMany, List.filter_filter]
  refine List.filter_congr fun r _ => ?_
  rw [Bool.and_comm]

/-- What the ratings say rests on the reviews of the product. -/
theorem Current.congr {product : Product} (h : Current product w)
    (hsame : reviewsOf product.id w' = reviewsOf product.id w) : Current product w' := by
  have hpublished : publishedReviews product.id w' = publishedReviews product.id w := by
    rw [publishedReviews_eq, hsame, publishedReviews_eq]
  exact ⟨hpublished ▸ h.count, hpublished ▸ h.empty, hpublished ▸ h.mean⟩

/-! ## What the transactions agree on -/

structure Inv (w : World) : Prop where
  current : ∀ product ∈ w.products, Current product w
  placed : ∀ r ∈ w.reviews, ∃ product ∈ w.products, product.id = r.productId

/-- A review stays, and stays with its product. -/
def Onward (w w' : World) : Prop :=
  ∀ r ∈ w.reviews, ∃ r' ∈ w'.reviews, r'.id = r.id ∧ r'.productId = r.productId

theorem onward_refl (w : World) : Onward w w := fun r hr => ⟨r, hr, rfl, rfl⟩

theorem Onward.trans {w'' : World} (h : Onward w w') (h' : Onward w' w'') : Onward w w'' := by
  intro r hr
  obtain ⟨r', hr', hid, hproduct⟩ := h r hr
  obtain ⟨r'', hr'', hid', hproduct'⟩ := h' r' hr'
  exact ⟨r'', hr'', hid'.trans hid, hproduct'.trans hproduct⟩

/-- What a key protects: that of a product, the reviews of it. -/
def SameFor : Key → World → World → Prop
  | .product p, w, w' => reviewsOf p w' = reviewsOf p w
  | .review _, _, _ | .author _ _, _, _ => True

def protocol : Protocol World Key Commit where
  Same := SameFor
  Onward := Onward
  Inv := Inv
  Good _ _ _ := True
  ok _ _ := True
  same_refl k w := by
    cases k with
    | product p => rfl
    | review id => trivial
    | author p u => trivial
  same_trans := by
    intro k w w' w'' h h'
    cases k with
    | product p => exact h'.trans h
    | review id => trivial
    | author p u => trivial
  onward_refl := onward_refl
  onward_trans := Onward.trans

/-! ## Writes of reviews

A write of a review of a product leaves the reviews of the others alone, and what it makes of
the published ratings of its own product rests on the reviews of that product only. -/

def ratingsOf (productId : Nat) (w : World) : List Rating :=
  (publishedReviews productId w).map (·.rating)

theorem ratingsOf_eq (productId : Nat) (w : World) :
    ratingsOf productId w = (publishedIn (reviewsOf productId w)).map (·.rating) := by
  rw [ratingsOf, publishedReviews_eq]

structure Edited (p : Nat) (w w' : World) : Prop where
  others : ∀ q, q ≠ p → reviewsOf q w' = reviewsOf q w
  products : w'.products = w.products
  onward : Onward w w'

/-- In a state, the write makes the ratings `g` of the reviews of the product, or fails where
there are none. -/
structure EditsAt (p : Nat) (g : List Review → Option (List Rating))
    (tx : Tx World HttpError Unit) (w : World) : Prop where
  ok : ∀ w', tx w = .ok ((), w') → Edited p w w' ∧ g (reviewsOf p w) = some (ratingsOf p w')
  error : ∀ e, tx w = .error e → g (reviewsOf p w) = none

theorem discard_ok {tx : Tx World HttpError α} (h : (discard tx : Tx World HttpError Unit) w =
    .ok ((), w')) : ∃ a, tx w = .ok (a, w') := by
  obtain ⟨a, ha, -⟩ := Tx.map_ok.mp h
  exact ⟨a, ha⟩

theorem discard_error {tx : Tx World HttpError α} {e : HttpError}
    (h : (discard tx : Tx World HttpError Unit) w = .error e) : tx w = .error e := by
  change Except.bind (tx w) _ = _ at h
  cases htx : tx w with
  | error e' =>
      rw [htx] at h
      cases h
      rfl
  | ok r =>
      rw [htx] at h
      cases h

section Create

variable {userId : Nat} {dto : CreateReviewDto} {eligible : OrderItem}

/-- The ratings with a new one, unless the user has reviewed the product before. -/
def ratingsWith (userId : Nat) (rating : Rating) (reviews : List Review) : Option (List Rating) :=
  if reviews.any (·.userId = userId) then none
  else some ((publishedIn reviews).map (·.rating) ++ [rating])

theorem insertReview_editsAt (userId : Nat) (dto : CreateReviewDto) (eligible : OrderItem)
    (w : World) : EditsAt dto.productId (ratingsWith userId dto.rating)
      (discard (insertReview userId dto eligible)) w := by
  constructor
  · intro w' h
    obtain ⟨created, hinsert⟩ := discard_ok h
    rw [insertReview, Tx.tryCatch_apply] at hinsert
    split at hinsert
    · next hcreate =>
      cases hinsert
      obtain ⟨t, ht, rfl, rfl⟩ := Slot.create_ok hcreate
      have hrows : t.rows = w.reviews.rows ++ [newReview userId dto eligible w.reviews.nextKey] :=
        Table.rows_create ht
      have hfresh : (reviewsOf dto.productId w).any (·.userId = userId) = false := by
        rw [List.any_eq_false]
        intro r hr
        obtain ⟨hmem, hproduct⟩ := mem_reviewsOf.mp hr
        have hclash := Table.create_apart ht r hmem
        simpa [Schema.Clash, newReview, hproduct] using hclash
      refine ⟨⟨fun q hq => ?_, rfl, fun r hr => ?_⟩, ?_⟩
      · have hne : (newReview userId dto eligible w.reviews.nextKey).productId ≠ q := hq.symm
        simp only [reviewsOf, Table.findMany, Db.reviews, hrows, List.filter_append,
          List.filter_cons, List.filter_nil, hne, decide_false, Bool.false_eq_true, if_false,
          List.append_nil]
      · exact ⟨r, (Table.mem_create ht).mpr (.inl hr), rfl, rfl⟩
      · rw [ratingsWith, if_neg (by simp [hfresh]), ratingsOf_eq]
        simp [reviewsOf, Table.findMany, Db.reviews, hrows, publishedIn, newReview]
    · cases hinsert
  · intro e h
    have hinsert := discard_error h
    rw [insertReview, Tx.tryCatch_apply] at hinsert
    split at hinsert
    · cases hinsert
    · next hcreate =>
      obtain ⟨-, r, hr, hproduct, huser⟩ := Slot.create_error hcreate
      have hmem : r ∈ reviewsOf dto.productId w := mem_reviewsOf.mpr ⟨hr, hproduct⟩
      rw [ratingsWith, if_pos (List.any_eq_true.mpr ⟨r, hmem, decide_eq_true huser⟩)]

end Create

section Rewrite

variable {review : Review} {f : Review → Review} {hf : ∀ r, (f r).id = r.id}

/-- The row of a review that has been read is there, with its product. -/
def Known (review : Review) (w : World) : Prop :=
  ∃ r ∈ w.reviews, r.id = review.id ∧ r.productId = review.productId

theorem Known.later (h : Known review w) (hw : Onward w w') : Known review w' := by
  obtain ⟨r, hr, hid, hproduct⟩ := h
  obtain ⟨r', hr', hid', hproduct'⟩ := hw r hr
  exact ⟨r', hr', hid'.trans hid, hproduct'.trans hproduct⟩

/-- A rewrite that leaves the product and the author of a review as they are. -/
structure Faithful (f : Review → Review) : Prop where
  productId : ∀ r, (f r).productId = r.productId
  userId : ∀ r, (f r).userId = r.userId

def rewritten (id : Nat) (f : Review → Review) (r : Review) : Review :=
  if r.id = id then f r else r

theorem Faithful.rewritten_productId (h : Faithful f) (id : Nat) (r : Review) :
    (rewritten id f r).productId = r.productId := by
  unfold rewritten
  split
  · exact h.productId r
  · rfl

theorem Faithful.rewritten_userId (h : Faithful f) (id : Nat) (r : Review) :
    (rewritten id f r).userId = r.userId := by
  unfold rewritten
  split
  · exact h.userId r
  · rfl

/-- The reviews of a product after a rewrite. -/
theorem Faithful.reviewsOf_update {t : Table Review} {id : Nat} (h : Faithful f)
    (ht : w.reviews.update (fun r => r.id = id) f hf = some t) (p : Nat) :
    reviewsOf p { w with reviews := t } = (reviewsOf p w).map (rewritten id f) := by
  have hrows : t.rows = w.reviews.rows.map (rewritten id f) := by
    rw [Table.rows_update ht]
    refine List.map_congr_left fun r _ => ?_
    simp [rewritten]
  simp only [reviewsOf, Table.findMany, hrows, List.filter_map]
  congr 1
  refine List.filter_congr fun r _ => ?_
  simp only [Function.comp_apply, h.rewritten_productId]

/-- Rewriting a review of another product changes nothing here. -/
theorem Known.map_rewritten (h : Known review w) (hne : p ≠ review.productId) :
    (reviewsOf p w).map (rewritten review.id f) = reviewsOf p w := by
  obtain ⟨r, hr, hid, hproduct⟩ := h
  refine (List.map_congr_left fun x hx => ?_).trans (List.map_id _)
  obtain ⟨hmem, hxproduct⟩ := mem_reviewsOf.mp hx
  have hxid : x.id ≠ review.id := fun hxid => by
    have hsame : x = r := Table.eq_of_key hmem hr (hxid.trans hid.symm)
    rw [hsame, hproduct] at hxproduct
    exact hne hxproduct.symm
  rw [rewritten, if_neg hxid, id]

def ratingsAfter (id : Nat) (f : Review → Review) (reviews : List Review) :
    Option (List Rating) :=
  some ((publishedIn (reviews.map (rewritten id f))).map (·.rating))

theorem rewrite_editsAt (h : Faithful f) (hknown : Known review w) :
    EditsAt review.productId (ratingsAfter review.id f)
      (discard (Db.reviews.update review.id f hf)) w := by
  constructor
  · intro w' hupdate
    obtain ⟨updated, hok⟩ := discard_ok hupdate
    obtain ⟨r₀, t, hget, ht, -, rfl⟩ := Slot.update_ok hok
    have hreviews := h.reviewsOf_update (w := w) ht
    refine ⟨⟨fun q hq => ?_, rfl, fun r hr => ?_⟩, ?_⟩
    · exact (hreviews q).trans (hknown.map_rewritten hq)
    · refine ⟨rewritten review.id f r, ?_, ?_, h.rewritten_productId ..⟩
      · refine (Table.mem_update ht).mpr ⟨r, hr, ?_⟩
        simp [rewritten]
      · unfold rewritten
        split
        · exact hf r
        · rfl
    · rw [ratingsOf_eq, ratingsAfter]
      exact congrArg (fun rows => some ((publishedIn rows).map (·.rating))) (hreviews _).symm
  · intro e hupdate
    obtain ⟨r, hr, hid, -⟩ := hknown
    obtain ⟨hnone, -⟩ | ⟨-, a, ha, b, hb, hne, hclash⟩ := Slot.update_error (discard_error hupdate)
    · exact absurd hid (Table.get_eq_none.mp hnone r hr)
    · have hkept : ∀ r : Review, (if Schema.key r = review.id then f r else r).productId =
          r.productId ∧ (if Schema.key r = review.id then f r else r).userId = r.userId :=
        fun r => ⟨h.rewritten_productId review.id r, h.rewritten_userId review.id r⟩
      have hsame : Schema.Clash a b := by
        simpa only [Schema.Clash, (hkept _).1, (hkept _).2] using hclash
      exact absurd hsame (Table.apart ha hb hne).2

end Rewrite

/-! ## Recomputing -/

/-- What a transaction on a product comes to: the product is current, and nothing else has
changed but the reviews of it. -/
structure Recomputed (p : Nat) (w w' : World) : Prop where
  others : ∀ q, q ≠ p → reviewsOf q w' = reviewsOf q w
  onward : Onward w w'
  kept : ∀ product ∈ w.products, ∃ product' ∈ w'.products, product'.id = product.id
  untouched : ∀ product ∈ w'.products, product.id ≠ p → product ∈ w.products
  current : ∀ product ∈ w'.products, product.id = p → Current product w'
  present : ∃ product ∈ w'.products, product.id = p

theorem Recomputed.inv (h : Recomputed p w w') (hw : Inv w) : Inv w' := by
  refine ⟨fun product hproduct => ?_, fun r hr => ?_⟩
  · by_cases hid : product.id = p
    · exact h.current product hproduct hid
    · exact (hw.current product (h.untouched product hproduct hid)).congr (h.others _ hid)
  · by_cases hid : r.productId = p
    · rw [hid]
      exact h.present
    · have hmem : r ∈ reviewsOf r.productId w' := mem_reviewsOf.mpr ⟨hr, rfl⟩
      rw [h.others _ hid] at hmem
      obtain ⟨product, hproduct, heq⟩ := hw.placed r (mem_reviewsOf.mp hmem).1
      obtain ⟨product', hproduct', heq'⟩ := h.kept product hproduct
      exact ⟨product', hproduct', heq'.trans heq⟩

/-- The key of a product is held, and whatever is committed then recomputes it. -/
def Settles (i : Nat) (pending : Tx World HttpError Unit) (s : Locked World Key) : Prop :=
  ∃ p, s.Holds i (.product p) ∧ ∀ s', protocol.discipline.rely i s s' →
    protocol.discipline.inv s' → ∀ w', pending s'.db = .ok ((), w') → Recomputed p s'.db w'

theorem Settles.later (h : Settles i pending s) (hs : protocol.discipline.rely i s s') :
    Settles i pending s' := by
  obtain ⟨p, hholds, hsettles⟩ := h
  exact ⟨p, (hs.1 _ hholds).1, fun s'' hs' => hsettles s'' (protocol.discipline.rely_trans hs hs')⟩

/-- The aggregates of an edit are written with it. -/
theorem recomputed_of_edit {ratings : List Rating} {w₁ : World} {product : Product}
    (hedited : Edited p w w₁) (hratings : ratings = ratingsOf p w₁)
    (hupdate : (Db.products.update p (aggregate ratings).applyTo : Transaction Product) w₁ =
      .ok (product, w')) : Recomputed p w w' := by
  obtain ⟨r₀, t, hget, ht, rfl, rfl⟩ := Slot.update_ok hupdate
  have hproducts : Db.products.get w₁ = w.products := hedited.products
  have hmem := fun {x : Product} => Table.mem_update (r := x) ht
  refine ⟨hedited.others, hedited.onward, fun x hx => ?_, fun x hx hne => ?_,
    fun x hx hid => ?_, ?_⟩
  · refine ⟨_, hmem.mpr ⟨x, hproducts ▸ hx, rfl⟩, ?_⟩
    split <;> rfl
  · obtain ⟨x₀, hx₀, rfl⟩ := hmem.mp hx
    split at hne
    · next hkey => exact absurd (of_decide_eq_true hkey) hne
    · next hkey =>
      rw [if_neg hkey]
      exact hproducts ▸ hx₀
  · obtain ⟨x₀, hx₀, rfl⟩ := hmem.mp hx
    split at hid
    · next hkey =>
      have hx₀id : x₀.id = p := of_decide_eq_true hkey
      rw [if_pos hkey, hratings, ← hx₀id]
      exact current_applyTo x₀ (Db.products.set t w₁)
    · next hkey => exact absurd (decide_eq_true hid) hkey
  · obtain ⟨hr₀, hid⟩ := Table.get_eq_some.mp hget
    refine ⟨_, hmem.mpr ⟨r₀, hr₀, rfl⟩, ?_⟩
    split <;> exact hid

/-- With the key of the product in hand, what has been aggregated is what is committed. -/
theorem sound_recompute {g : List Review → Option (List Rating)}
    (hedits : ∀ s', protocol.discipline.rely i s s' → EditsAt p g pending s'.db) :
    protocol.Sound i (fun _ => Settles i) (recomputeProductRating p) pending s := by
  refine Protocol.sound_lock fun s₁ hs₁ hi₁ _ => ?_
  refine Protocol.sound_read fun s₂ hs₂ hi₂ => ?_
  refine Protocol.sound_exec fun s₃ product w₃ hs₃ hi₃ _ => ?_
  refine Protocol.sound_pure fun s₄ hs₄ hi₄ => ?_
  have hholds₁ : (s₁.acquire i (.product p)).Holds i (.product p) := Locked.holds_acquire
  have hholds₂ := (hs₂.1 _ hholds₁).1
  have hlate : protocol.discipline.rely i s₂ s₄ := protocol.discipline.rely_trans hs₃ hs₄
  refine ⟨p, (hlate.1 _ hholds₂).1, fun s₅ hs₅ hi₅ w' hcommit => ?_⟩
  have hlater : protocol.discipline.rely i s₂ s₅ := protocol.discipline.rely_trans hlate hs₅
  have hsame : reviewsOf p s₅.db = reviewsOf p s₂.db := (hlater.1 _ hholds₂).2
  have hfrom : ∀ {s'}, protocol.discipline.rely i s₂ s' → EditsAt p g pending s'.db :=
    fun {s'} hs' => hedits s' ⟨fun k hk =>
      ⟨(hs'.1 k (hs₂.1 k (hs₁.1 k hk).1.acquire).1).1,
        protocol.same_trans (hs₁.1 k hk).2 (protocol.same_trans
          (hs₂.1 k (hs₁.1 k hk).1.acquire).2
          (hs'.1 k (hs₂.1 k (hs₁.1 k hk).1.acquire).1).2)⟩,
      hs₁.2.trans (hs₂.2.trans hs'.2)⟩
  obtain ⟨⟨⟩, w₁, hpending, hdiscard⟩ := Tx.bind_ok.mp hcommit
  obtain ⟨updated, hupdate⟩ := discard_ok hdiscard
  obtain ⟨hedited, hratings⟩ := (hfrom hlater).ok w₁ hpending
  refine recomputed_of_edit hedited ?_ hupdate
  -- the edit came to the same ratings when they were aggregated
  rw [hsame] at hratings
  cases hseen : pending s₂.db with
  | error e =>
      rw [(hfrom (protocol.discipline.rely_refl i s₂)).error e hseen] at hratings
      cases hratings
  | ok r =>
      obtain ⟨-, hratings₂⟩ := (hfrom (protocol.discipline.rely_refl i s₂)).ok r.2 hseen
      rw [Proc.applied_ok hseen]
      exact Option.some.inj (hratings₂.symm.trans hratings)

/-! ## The transactions -/

theorem sound_createReview (userId : Nat) (dto : CreateReviewDto) :
    protocol.Sound i (fun _ => Settles i) (createReview userId dto) (pure ()) s := by
  refine Protocol.sound_read fun s₁ _ _ => ?_
  split
  · exact Protocol.sound_throw _
  · next eligible _ =>
    refine Protocol.sound_lock fun s₂ _ _ _ => ?_
    refine Protocol.sound_exec fun s₃ created w₃ _ hi₃ _ => ?_
    refine (sound_recompute (g := ratingsWith userId dto.rating) fun s' _ => ?_).bind hi₃
      fun _ _ _ _ hsettles => Protocol.sound_pure fun _ hs' _ => hsettles.later hs'
    exact insertReview_editsAt userId dto eligible s'.db

theorem sound_rewriteReview {review : Review} {f : Review → Review} {hf : ∀ r, (f r).id = r.id}
    (hfaithful : Faithful f) (hknown : Known review s.db) :
    protocol.Sound i (fun _ => Settles i) (rewriteReview review f hf) (pure ()) s := by
  refine Protocol.sound_lock fun s₁ hs₁ _ _ => ?_
  refine Protocol.sound_exec fun s₂ updated w₂ hs₂ hi₂ _ => ?_
  refine (sound_recompute (g := ratingsAfter review.id f) fun s' hs' => ?_).bind hi₂
    fun _ _ _ _ hsettles => Protocol.sound_pure fun _ hs' _ => hsettles.later hs'
  exact rewrite_editsAt hfaithful
    (hknown.later (hs₁.2.trans (hs₂.2.trans hs'.2)))

/-- A review that has been read is known from then on. -/
theorem sound_getReviewOwnedByOrThrow (reviewId userId : Nat) :
    protocol.Sound i (fun review pending s => pending = pure () ∧ Known review s.db)
      (getReviewOwnedByOrThrow reviewId userId) (pure ()) s := by
  refine Protocol.sound_read fun s₁ _ _ => ?_
  split
  · exact Protocol.sound_throw _
  · next review hget =>
    split
    · exact Protocol.sound_throw _
    · have hknown : Known review s₁.db := ⟨review, (Table.get_eq_some.mp hget).1, rfl, rfl⟩
      exact Protocol.sound_pure fun s₂ hs₂ _ => ⟨rfl, hknown.later hs₂.2⟩

theorem sound_updateReview (hs : protocol.discipline.inv s) (userId reviewId : Nat)
    (dto : UpdateReviewDto) :
    protocol.Sound i (fun _ => Settles i) (updateReview userId reviewId dto) (pure ()) s := by
  refine (sound_getReviewOwnedByOrThrow reviewId userId).bind hs ?_
  rintro review _ s₁ - ⟨rfl, hknown⟩
  split
  · exact Protocol.sound_throw _
  · exact sound_rewriteReview ⟨fun _ => rfl, fun _ => rfl⟩ hknown
  · exact sound_rewriteReview ⟨fun _ => rfl, fun _ => rfl⟩ hknown

theorem sound_removeReview (hs : protocol.discipline.inv s) (userId reviewId : Nat) :
    protocol.Sound i (fun _ => Settles i) (removeReview userId reviewId) (pure ()) s := by
  refine (sound_getReviewOwnedByOrThrow reviewId userId).bind hs ?_
  rintro review _ s₁ - ⟨rfl, hknown⟩
  exact sound_rewriteReview ⟨fun _ => rfl, fun _ => rfl⟩ hknown

theorem sound_adminUpdateStatus (tenantId reviewId : Nat) (status : ReviewStatus) :
    protocol.Sound i (fun _ => Settles i) (adminUpdateStatus tenantId reviewId status) (pure ())
      s := by
  refine Protocol.sound_read fun s₁ _ _ => ?_
  split
  · exact Protocol.sound_throw _
  · next review hget =>
    unfold assertObjectInTenant
    dsimp only
    split
    · exact Protocol.sound_throw _
    · have hknown : Known review s₁.db := ⟨review, (Table.get_eq_some.mp hget).1, rfl, rfl⟩
      exact sound_rewriteReview (s := s₁) ⟨fun _ => rfl, fun _ => rfl⟩ hknown

/-! ## Runs -/

/-- A recomputed product is written by who holds its key, and the others hold other keys. -/
theorem Recomputed.allows (h : Recomputed p s.db w') (hs : protocol.discipline.inv s)
    (hholds : s.Holds i (.product p)) : protocol.Allows i s w' where
  inv := h.inv hs.2
  onward := h.onward
  same j k hij hk := by
    cases k with
    | product q =>
        refine h.others q fun hq => ?_
        subst hq
        exact hij (hs.1.eq hk hholds)
    | review id => trivial
    | author p u => trivial

theorem safe_run {ℓ : Commit} {tx : Session Review} (failsAt : Option Nat)
    (h : protocol.Sound i (fun _ => Settles i) tx (pure ()) s) :
    protocol.discipline.Safe i (fun _ _ => True) (run i ℓ tx failsAt) s := by
  rw [run, Proc.map_def]
  refine Discipline.Safe.map (Q := Discipline.Returns fun _ _ => True)
    ((h.cutAt connectionLost failsAt).safe ?_ fun _ _ _ _ _ => trivial) fun _ _ _ => trivial
  rintro _ pending s' w' hs' - ⟨p, hholds, hsettles⟩ hpending
  have hrecomputed := hsettles s' (protocol.discipline.rely_refl i s') hs' w' hpending
  exact ⟨hrecomputed.allows hs' hholds, trivial, trivial⟩

/-- A write that touches no review, and products only where they have none. -/
theorem safe_outside {ℓ : Commit} {tx : Transaction Unit}
    (htx : ∀ w, Inv w → Inv (Proc.applied tx w) ∧ (Proc.applied tx w).reviews = w.reviews) :
    protocol.discipline.Safe i (fun _ _ => True) (outside ℓ tx) s := by
  intro s₁ _ hs₁ _
  obtain ⟨hinv, hreviews⟩ := htx s₁.db hs₁.2
  refine ⟨⟨hs₁.1, ⟨hinv, fun r hr => ⟨r, hreviews ▸ hr, rfl, rfl⟩, fun j k _ _ => ?_⟩,
    fun _ _ _ hk => hk, fun _ hℓ => by cases hℓ⟩, fun _ _ _ => trivial⟩
  cases k with
  | product q =>
      show reviewsOf q (Proc.applied tx s₁.db) = reviewsOf q s₁.db
      rw [reviewsOf, hreviews, reviewsOf]
  | review id => trivial
  | author p u => trivial

/-- A new product has no reviews. -/
theorem insertProduct_inv (hw : Inv w) : Inv (Proc.applied insertProduct w) ∧
    (Proc.applied insertProduct w).reviews = w.reviews := by
  obtain ⟨t, ht, hcreate⟩ := Slot.exists_create_ok (T := Db.products) (s := w) (ε := HttpError)
    (fun id => { id, avgRating := none, reviewCount := 0 }) (by intro; rfl)
    fun _ _ hclash => hclash
  have hinsert : insertProduct w = .ok ((), { w with products := t }) :=
    Tx.bind_ok.mpr ⟨_, _, hcreate, rfl⟩
  rw [Proc.applied_ok hinsert]
  refine ⟨⟨fun product hproduct => ?_, fun r hr => ?_⟩, rfl⟩
  · obtain hold | rfl := (Table.mem_create ht).mp hproduct
    · exact (hw.current product hold).congr rfl
    · have hnone : publishedReviews w.products.nextKey { w with products := t } = [] := by
        refine List.filter_eq_nil_iff.mpr fun r hr hmatches => ?_
        obtain ⟨product, hproduct, hid⟩ := hw.placed r hr
        have hlt : product.id < w.products.nextKey := Table.key_lt_nextKey hproduct
        have heq : r.productId = w.products.nextKey := by
          simpa using (Bool.and_eq_true_iff.mp hmatches).1
        omega
      exact ⟨(congrArg List.length hnone).symm, fun _ => rfl, fun hne => absurd hnone hne⟩
  · obtain ⟨product, hproduct, hid⟩ := hw.placed r hr
    exact ⟨product, (Table.mem_create ht).mpr (.inl hproduct), hid⟩

theorem safe_handle (i : Nat) (req : Request) (hs : protocol.discipline.inv s) :
    protocol.discipline.Safe i (fun _ _ => True) (handle i req) s := by
  cases req with
  | createReview userId dto failsAt => exact safe_run failsAt (sound_createReview userId dto)
  | updateReview userId reviewId dto failsAt =>
      exact safe_run failsAt (sound_updateReview hs userId reviewId dto)
  | removeReview userId reviewId failsAt =>
      exact safe_run failsAt (sound_removeReview hs userId reviewId)
  | adminUpdateStatus tenantId reviewId status failsAt =>
      exact safe_run failsAt (sound_adminUpdateStatus tenantId reviewId status)
  | createProduct => exact safe_outside fun w hw => insertProduct_inv hw
  | elsewhere orders orderItems =>
      refine safe_outside fun w hw => ⟨⟨fun product hproduct => ?_, hw.placed⟩, rfl⟩
      exact (hw.current product hproduct).congr rfl

/-- Orders and nothing else. -/
def World.initial (orders : Table Order) (orderItems : Table OrderItem) : World :=
  ⟨orders, orderItems, .empty, .empty⟩

theorem inv_initial (orders : Table Order) (orderItems : Table OrderItem) :
    Inv (World.initial orders orderItems) :=
  ⟨fun product h => absurd h (Table.not_mem_empty product),
    fun r h => absurd h (Table.not_mem_empty r)⟩

theorem inv_of_run {orders : Table Order} {orderItems : Table OrderItem} {c : ReviewConfig}
    (hrun : Reaches ⟨⟨.initial orders orderItems, []⟩, []⟩ c) : Inv c.state.db := by
  have hholds : protocol.discipline.Holds (fun _ _ _ _ => True)
      (⟨⟨.initial orders orderItems, []⟩, []⟩ : ReviewConfig) :=
    Discipline.holds_idle ⟨Locked.exclusive_nil, inv_initial orders orderItems⟩
  have hrun' : Run handle (fun _ _ => True) protocol.discipline.ok
      ⟨⟨.initial orders orderItems, []⟩, []⟩ c :=
    Run.mono hrun (fun _ _ h => h) fun _ _ h => ⟨h, trivial⟩
  exact (hholds.run (Nat.zero_le _) (fun i req s _ hs _ => safe_handle i req hs) hrun').inv.2

/-- In every run, whatever is open, every product that is committed carries the number of its
committed published reviews and what the double nearest to their mean prints as. That is their
rounded mean exactly when no tie lies between the mean and the double, which with fewer reviews
than can be counted means that no tie has been lost. -/
theorem ratings_exact_iff {orders : Table Order} {orderItems : Table OrderItem} {c : ReviewConfig}
    {product : Product} (hrun : Reaches ⟨⟨.initial orders orderItems, []⟩, []⟩ c)
    (hproduct : product ∈ c.state.db.products.rows) :
    Current product c.state.db ∧
      (Exact product c.state.db ↔ PrintsMean (publishedReviews product.id c.state.db)) ∧
      ((publishedReviews product.id c.state.db).length < 2 ^ 31 →
        (Exact product c.state.db ↔ ¬ TieLost (publishedReviews product.id c.state.db))) := by
  have hcurrent := (inv_of_run hrun).current product hproduct
  exact ⟨hcurrent, hcurrent.exact_iff, fun hcount => hcurrent.exact_iff.trans
    (printsMean_iff hcount)⟩

/-- Users that a product has been delivered to. -/
def exampleOrders : Table Order :=
  ⟨(List.range 40).map fun i => ⟨i, i, .delivered⟩, 40, by decide, by decide⟩

def exampleItems : Table OrderItem :=
  ⟨(List.range 40).map fun i => ⟨i, i, 0, 0⟩, 40, by decide, by decide⟩

/-- Both write their reviews before either aggregates. -/
def bothReview : List (Action Request) :=
  [.accept .createProduct, .advance 0,
    .accept (.createReview 0 ⟨0, ⟨5, by decide⟩, none⟩ none),
    .accept (.createReview 1 ⟨0, ⟨4, by decide⟩, none⟩ none),
    .advance 1, .advance 1, .advance 1, .advance 2, .advance 2, .advance 2,
    .advance 1, .advance 1, .advance 1, .advance 1,
    .advance 2, .advance 2, .advance 2, .advance 2]

/-- The product then has two reviews with a mean of 4.50, and the double is exact. -/
theorem ratings_exact_iff_concurrent : ∃ c : ReviewConfig, ∃ product ∈ c.state.db.products.rows,
    product.reviewCount = 2 ∧ product.avgRating = some 450 ∧ Exact product c.state.db := by
  have hexec : (exec handle (fun _ _ => True) Unblocked bothReview
      ⟨⟨World.initial exampleOrders exampleItems, []⟩, []⟩).any (fun c =>
        decide (∃ product ∈ c.state.db.products.rows,
          product.reviewCount = 2 ∧ product.avgRating = some 450 ∧
          (publishedReviews product.id c.state.db).length < 2 ^ 31 ∧
          ¬ nearestDouble (meanRating (publishedReviews product.id c.state.db)) <
            meanRating (publishedReviews product.id c.state.db))) = true := by
    decide +kernel
  obtain ⟨c, hrun, h⟩ := exec_any hexec
  obtain ⟨product, hproduct, hcount, havg, hfew, hkept⟩ := of_decide_eq_true h
  have hexact := ((ratings_exact_iff hrun hproduct).2.2 hfew).mpr fun hlost => hkept hlost.2
  exact ⟨c, product, hproduct, hcount, havg, hexact⟩

/-- Forty users write a review one after the other, the first with two stars and the others with
one. -/
def fortyReview : List (Action Request) :=
  [.accept .createProduct, .advance 0] ++ (List.range 40).flatMap fun i =>
    [.accept (.createReview i ⟨0, ⟨if i = 0 then 2 else 1, by split <;> decide⟩, none⟩ none)] ++
      List.replicate 7 (.advance (i + 1))

/-- The mean is then 41/40, which rounds to 1.03. The double nearest to it lies below it, and the
product carries 1.02. -/
theorem ratings_not_exact : ∃ c : ReviewConfig,
    Reaches ⟨⟨World.initial exampleOrders exampleItems, []⟩, []⟩ c ∧
    ∃ product ∈ c.state.db.products.rows, product.avgRating = some 102 ∧
      meanRating (publishedReviews product.id c.state.db) = 41 / 40 ∧
      ¬ Exact product c.state.db := by
  have hexec : (exec handle (fun _ _ => True) Unblocked fortyReview
      ⟨⟨World.initial exampleOrders exampleItems, []⟩, []⟩).any (fun c =>
        decide (∃ product ∈ c.state.db.products.rows, product.avgRating = some 102 ∧
          publishedReviews product.id c.state.db ≠ [] ∧
          meanRating (publishedReviews product.id c.state.db) = 41 / 40)) = true := by
    decide +kernel
  obtain ⟨c, hrun, h⟩ := exec_any hexec
  obtain ⟨product, hproduct, havg, hne, hmean⟩ := of_decide_eq_true h
  refine ⟨c, hrun, product, hproduct, havg, hmean, fun hexact => ?_⟩
  obtain ⟨hundredths, hcarried, hrounded⟩ := hexact.mean hne
  rw [havg] at hcarried
  cases hcarried
  rw [hmean] at hrounded
  exact absurd hrounded.1 (by norm_num)

end PrintForge.Reviews
