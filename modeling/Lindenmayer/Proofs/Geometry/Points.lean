import Lindenmayer.Proofs.Geometry.Exact
import Lindenmayer.Proofs.Turtle.Figure

set_option autoImplicit false

/-! # Boxes around points

A bounding box is extended point by point, and every time a whole coordinate is compared with a
bound that was stored without its fraction. A point between a bound and the coordinate it was taken
from moves the bound again, but only to where it is: truncation is monotone and truncating twice is
truncating once, so the bounds are what they would be if the fractions were left out at the end
(`lowerBound_truncate`, `upperBound_truncate`). Over exact scalars the box therefore has a closed
form in the least and the greatest coordinates, and depends on nothing but which points there are
(`BoundingBox.ofPoints_truncates_extremes`). -/

namespace Lindenmayer

/-! ## Coordinates one by one -/

section Scalars

variable {α : Type} [Scalar α]

/-- The box that holds the origin, extended to some points one after another. -/
def BoundingBox.ofPoints (points : List (Point α)) : BoundingBox α :=
  points.foldl BoundingBox.extend BoundingBox.origin

/-- The bounds of a box are moved independently of one another. -/
theorem BoundingBox.foldl_extend (points : List (Point α)) (b : BoundingBox α) :
    points.foldl BoundingBox.extend b
      = { min := ⟨(points.map Point.x).foldl lowerBound b.min.x,
            (points.map Point.y).foldl lowerBound b.min.y⟩
          max := ⟨(points.map Point.x).foldl upperBound b.max.x,
            (points.map Point.y).foldl upperBound b.max.y⟩ } := by
  induction points generalizing b with
  | nil => rfl
  | cons p points ih =>
    rw [List.foldl_cons, ih]
    rfl

/-- Measuring finds the box around the places that a turtle moves to. -/
theorem Turtle.bounds_eq_ofPoints (turtle : Turtle α) (sequence : List Char) :
    turtle.bounds sequence
      = (turtle.segments sequence Pose.initial).map fun segments =>
          BoundingBox.ofPoints (segments.map Segment.finish) := by
  have hbounds : (Segment.bounds : List (Segment α) → BoundingBox α)
      = fun segments => BoundingBox.ofPoints (segments.map Segment.finish) :=
    funext fun _ => List.foldl_map.symm
  rw [turtle.bounds_eq_map_segments, hbounds]

end Scalars

variable {K : Type} [Field K] [LinearOrder K]

omit [Field K] in
/-- Boxes that cover each other are the same. -/
theorem BoundingBox.Covers.antisymm {b b' : BoundingBox K} (h : b'.Covers b) (h' : b.Covers b') :
    b = b' := by
  obtain ⟨⟨l, t⟩, ⟨r, d⟩⟩ := b
  obtain ⟨⟨l', t'⟩, ⟨r', d'⟩⟩ := b'
  obtain rfl : l = l' := le_antisymm h'.left h.left
  obtain rfl : t = t' := le_antisymm h'.top h.top
  obtain rfl : r = r' := le_antisymm h.right h'.right
  obtain rfl : d = d' := le_antisymm h.bottom h'.bottom
  rfl

/-! ## Extremes -/

/-- The least of some coordinates and zero. -/
def lowest (xs : List K) : K := (0 :: xs).min (List.cons_ne_nil 0 xs)

/-- The greatest of some coordinates and zero. -/
def highest (xs : List K) : K := (0 :: xs).max (List.cons_ne_nil 0 xs)

theorem lowest_le {xs : List K} {x : K} (h : x ∈ xs) : lowest xs ≤ x :=
  List.min_le_of_mem (List.mem_cons_of_mem 0 h)

theorem le_highest {xs : List K} {x : K} (h : x ∈ xs) : x ≤ highest xs :=
  List.le_max_of_mem (List.mem_cons_of_mem 0 h)

/-- More coordinates have a least one that is no greater. -/
theorem lowest_anti {xs ys : List K} (h : xs ⊆ ys) : lowest ys ≤ lowest xs :=
  (List.le_min_iff (List.cons_ne_nil 0 xs)).2 fun _ hx =>
    List.min_le_of_mem (List.cons_subset_cons 0 h hx)

/-- More coordinates have a greatest one that is no less. -/
theorem highest_mono {xs ys : List K} (h : xs ⊆ ys) : highest xs ≤ highest ys :=
  (List.max_le_iff (List.cons_ne_nil 0 xs)).2 fun _ hx =>
    List.le_max_of_mem (List.cons_subset_cons 0 h hx)

variable [FloorRing K] [IsStrictOrderedRing K]

/-! ## Truncation -/

theorem truncate_intCast (n : ℤ) : truncate (n : K) = n := by
  unfold truncate
  split
  · rw [Int.floor_intCast]
  · rw [Int.ceil_intCast]

theorem truncate_zero : truncate (0 : K) = 0 := by
  rw [truncate_of_nonneg le_rfl, Int.floor_zero, Int.cast_zero]

omit [IsStrictOrderedRing K] in
theorem exists_intCast_eq_truncate (x : K) : ∃ n : ℤ, truncate x = n := by
  unfold truncate
  split
  · exact ⟨⌊x⌋, rfl⟩
  · exact ⟨⌈x⌉, rfl⟩

/-- A number without a fraction is left as it is. -/
theorem truncate_truncate (x : K) : truncate (truncate x) = truncate x := by
  obtain ⟨n, hn⟩ := exists_intCast_eq_truncate x
  rw [hn, truncate_intCast]

/-- **Truncation is monotone**, also from one side of zero to the other. -/
theorem truncate_monotone : Monotone (truncate : K → K) := by
  intro x y hxy
  rcases le_or_gt 0 x with hx | hx
  · rw [truncate_of_nonneg hx, truncate_of_nonneg (hx.trans hxy)]
    exact Int.cast_le.2 (Int.floor_mono hxy)
  rw [truncate_of_neg hx]
  rcases le_or_gt 0 y with hy | hy
  · have hceil : ⌈x⌉ ≤ 0 := Int.ceil_le.2 (by rw [Int.cast_zero]; exact hx.le)
    have hfloor : 0 ≤ ⌊y⌋ := Int.floor_nonneg.2 hy
    rw [truncate_of_nonneg hy]
    exact Int.cast_le.2 (hceil.trans hfloor)
  · rw [truncate_of_neg hy]
    exact Int.cast_le.2 (Int.ceil_mono hxy)

/-- Less than one unit is cut off. -/
theorem truncate_near (x : K) : truncate x - 1 < x ∧ x < truncate x + 1 := by
  rcases le_or_gt 0 x with hx | hx
  · rw [truncate_of_nonneg hx]
    exact ⟨by linarith [Int.floor_le x], Int.lt_floor_add_one x⟩
  · rw [truncate_of_neg hx]
    exact ⟨by linarith [Int.ceil_lt_add_one x], by linarith [Int.le_ceil x]⟩

/-! ## Bounds without fractions -/

omit [Field K] [FloorRing K] [IsStrictOrderedRing K] in
/-- A least bound that was rounded is moved as the coordinate that it was taken from would be, for
any rounding that is monotone and leaves rounded numbers as they are. -/
theorem rounded_bound {f : K → K} (hmono : Monotone f) (hidem : ∀ x, f (f x) = f x) (m x : K) :
    (if x < f m then f x else f m) = f (min m x) := by
  rw [hmono.map_min]
  by_cases h : x < f m
  · have hle : f x ≤ f m := (hmono h.le).trans_eq (hidem m)
    rw [if_pos h, min_eq_right hle]
  · have hle : f m ≤ f x := (hidem m).symm.trans_le (hmono (not_lt.1 h))
    rw [if_neg h, min_eq_left hle]

section Bounds

variable (direction : K → Point K) (sqrt : K → K)

theorem lowerBound_truncate (m x : K) :
    @BoundingBox.lowerBound K (Scalar.exact direction sqrt) (truncate m) x
      = truncate (min m x) := by
  rw [BoundingBox.lowerBound_exact]
  exact rounded_bound truncate_monotone truncate_truncate m x

/-- A greatest bound is a least one in the opposite order. -/
theorem upperBound_truncate (m x : K) :
    @BoundingBox.upperBound K (Scalar.exact direction sqrt) (truncate m) x
      = truncate (max m x) := by
  rw [BoundingBox.upperBound_exact]
  have hidem : ∀ x : K, truncate (truncate x) = truncate x := truncate_truncate
  exact @rounded_bound Kᵒᵈ _ _ truncate_monotone.dual hidem m x

theorem foldl_lowerBound (xs : List K) :
    xs.foldl (@BoundingBox.lowerBound K (Scalar.exact direction sqrt)) 0
      = truncate (lowest xs) := by
  have h : xs.foldl (@BoundingBox.lowerBound K (Scalar.exact direction sqrt)) (truncate 0)
      = truncate (xs.foldl min 0) := List.foldl_hom truncate (lowerBound_truncate direction sqrt)
  rw [truncate_zero] at h
  exact h

theorem foldl_upperBound (xs : List K) :
    xs.foldl (@BoundingBox.upperBound K (Scalar.exact direction sqrt)) 0
      = truncate (highest xs) := by
  have h : xs.foldl (@BoundingBox.upperBound K (Scalar.exact direction sqrt)) (truncate 0)
      = truncate (xs.foldl max 0) := List.foldl_hom truncate (upperBound_truncate direction sqrt)
  rw [truncate_zero] at h
  exact h

end Bounds

/-! ## The closed form -/

namespace BoundingBox

section ClosedForm

variable (direction : K → Point K) (sqrt : K → K)

/-- The bounds of the box around some points are their extreme coordinates without the
fractions. -/
theorem ofPoints_eq (points : List (Point K)) :
    @ofPoints K (Scalar.exact direction sqrt) points
      = { min := ⟨truncate (lowest (points.map Point.x)), truncate (lowest (points.map Point.y))⟩
          max := ⟨truncate (highest (points.map Point.x)),
            truncate (highest (points.map Point.y))⟩ } := by
  let _ := Scalar.exact direction sqrt
  have horigin : (origin : BoundingBox K) = ⟨⟨0, 0⟩, ⟨0, 0⟩⟩ := by
    simp [origin, Point.origin]
  rw [ofPoints, foldl_extend, horigin]
  simp only [foldl_lowerBound, foldl_upperBound]

/-- The box around more points covers that around fewer. -/
theorem ofPoints_covers {points more : List (Point K)} (h : points ⊆ more) :
    (@ofPoints K (Scalar.exact direction sqrt) more).Covers
      (@ofPoints K (Scalar.exact direction sqrt) points) := by
  rw [ofPoints_eq, ofPoints_eq]
  have hx : points.map Point.x ⊆ more.map Point.x := List.map_subset Point.x h
  have hy : points.map Point.y ⊆ more.map Point.y := List.map_subset Point.y h
  exact ⟨truncate_monotone (lowest_anti hx), truncate_monotone (lowest_anti hy),
    truncate_monotone (highest_mono hx), truncate_monotone (highest_mono hy)⟩

/-- A point that a box was extended to is in it or less than one unit away, also when the box was
extended to others before and after. -/
theorem ofPoints_near {points : List (Point K)} {p : Point K} (h : p ∈ points) :
    (@ofPoints K (Scalar.exact direction sqrt) points).Near p := by
  rw [ofPoints_eq]
  have hx : p.x ∈ points.map Point.x := List.mem_map_of_mem h
  have hy : p.y ∈ points.map Point.y := List.mem_map_of_mem h
  exact ⟨(truncate_near _).1.trans_le (lowest_le hx), (truncate_near _).1.trans_le (lowest_le hy),
    (le_highest hx).trans_lt (truncate_near _).2, (le_highest hy).trans_lt (truncate_near _).2⟩

/-- **The box around points in closed form**: its bounds are the least and the greatest coordinates
of the points and the origin, without their fractions. So it does not depend on the order in which
it was extended to the points nor on how often, it only grows with more points, and it has each of
them in it or less than one unit away. -/
theorem ofPoints_truncates_extremes (points : List (Point K)) :
    let _ := Scalar.exact direction sqrt
    ofPoints points
        = { min := ⟨truncate (lowest (points.map Point.x)), truncate (lowest (points.map Point.y))⟩
            max := ⟨truncate (highest (points.map Point.x)),
              truncate (highest (points.map Point.y))⟩ } ∧
      (∀ others : List (Point K), (∀ p, p ∈ others ↔ p ∈ points) →
        ofPoints others = ofPoints points) ∧
      (∀ more : List (Point K), points ⊆ more → (ofPoints more).Covers (ofPoints points)) ∧
      ∀ p ∈ points, (ofPoints points).Near p := by
  intro _
  refine ⟨ofPoints_eq direction sqrt points, fun others hsame => ?_, fun more hmore => ?_,
    fun p hp => ?_⟩
  · have hcovers : (ofPoints points).Covers (ofPoints others) :=
      ofPoints_covers direction sqrt fun p hp => (hsame p).1 hp
    exact hcovers.antisymm (ofPoints_covers direction sqrt fun p hp => (hsame p).2 hp)
  · exact ofPoints_covers direction sqrt hmore
  · exact ofPoints_near direction sqrt hp

end ClosedForm

/-- A point that lies between the least bound of the box and the coordinate it was taken from moves
the bound to where it is, in this order and in the opposite one. -/
theorem ofPoints_uneven :
    let _ := Scalar.quarterTurns
    let points : List (Point ℚ) := [⟨-37 / 10, 99 / 10⟩, ⟨-32 / 10, 1 / 2⟩, ⟨1 / 2, 1 / 2⟩]
    ofPoints points = ⟨⟨-3, 0⟩, ⟨0, 9⟩⟩ ∧ ofPoints points.reverse = ⟨⟨-3, 0⟩, ⟨0, 9⟩⟩ ∧
      (ofPoints (⟨4, -5⟩ :: points)).Covers (ofPoints points) ∧
      ∀ p ∈ points, (ofPoints points).Near p := by
  intro _ points
  obtain ⟨heq, horder, hgrows, hnear⟩ :=
    ofPoints_truncates_extremes quarterDirection squareRoot points
  have hbox : ofPoints points = ⟨⟨-3, 0⟩, ⟨0, 9⟩⟩ := heq.trans (by decide +kernel)
  refine ⟨hbox, (horder points.reverse fun p => List.mem_reverse).trans hbox, ?_, hnear⟩
  exact hgrows _ (List.subset_cons_self _ points)

end BoundingBox

end Lindenmayer
