import Mathlib.Algebra.Order.Floor.Ring
import Mathlib.Data.Nat.Sqrt
import Mathlib.Data.Rat.Floor
import Mathlib.Tactic.Linarith
import Lindenmayer.Canvas.Placement

set_option autoImplicit false

/-! # Exact scalars

Any ordered field with floors serves as the scalars of a turtle, with any function for the direction
of a heading (`Scalar.exact`). Over such scalars the geometry obeys the laws of exact arithmetic:
here it is said what its operations are in terms of the field, and what becomes of a bounding box as
places are added to it: it stays whole, it only grows, and a place it was extended to is in it or
less than one unit away (`BoundingBox.Whole.extend`). -/

namespace Lindenmayer

variable {K : Type} [Field K] [LinearOrder K] [FloorRing K]

/-! ## The scalars -/

/-- A number without its fraction, rounded towards zero. -/
def truncate (x : K) : K := if 0 ≤ x then (⌊x⌋ : K) else (⌈x⌉ : K)

/-- Exact arithmetic: no rounding, no overflow, every number finite. -/
@[reducible] def Scalar.exact (direction : K → Point K) (sqrt : K → K) : Scalar K where
  toAdd := inferInstance
  toSub := inferInstance
  toMul := inferInstance
  toDiv := inferInstance
  toNeg := inferInstance
  ofNat n := n
  lt x y := decide (x < y)
  eq x y := decide (x = y)
  abs x := |x|
  trunc := truncate
  sqrt := sqrt
  isFinite _ := true
  cosDegrees heading := (direction heading).x
  sinDegrees heading := (direction heading).y

section Operations

variable (direction : K → Point K) (sqrt : K → K) (x y : K)

@[simp] theorem Scalar.ofNat_exact (n : Nat) :
    @Scalar.ofNat K (Scalar.exact direction sqrt) n = n := rfl

@[simp] theorem Scalar.lt_exact :
    @Scalar.lt K (Scalar.exact direction sqrt) x y = decide (x < y) := rfl

@[simp] theorem Scalar.eq_exact :
    @Scalar.eq K (Scalar.exact direction sqrt) x y = decide (x = y) := rfl

@[simp] theorem Scalar.abs_exact : @Scalar.abs K (Scalar.exact direction sqrt) x = |x| := rfl

@[simp] theorem Scalar.trunc_exact :
    @Scalar.trunc K (Scalar.exact direction sqrt) x = truncate x := rfl

@[simp] theorem Scalar.least_exact :
    @Scalar.least K (Scalar.exact direction sqrt) x y = min x y := by
  rcases lt_or_ge y x with h | h
  · simp [Scalar.least, h, h.le]
  · simp [Scalar.least, h, h.not_gt]

@[simp] theorem BoundingBox.lowerBound_exact :
    @BoundingBox.lowerBound K (Scalar.exact direction sqrt) x y
      = if y < x then truncate y else x := by
  simp [BoundingBox.lowerBound]

@[simp] theorem BoundingBox.upperBound_exact :
    @BoundingBox.upperBound K (Scalar.exact direction sqrt) x y
      = if x < y then truncate y else x := by
  simp [BoundingBox.upperBound]

theorem Scale.axisFactor_exact (side margin : Nat) :
    @Scale.axisFactor K (Scalar.exact direction sqrt) side margin x
      = if x = 0 then 1 else ((side : K) - 2 * margin) / x := by
  simp [Scale.axisFactor]

end Operations

/-! ## Quarter turns -/

/-- The directions of quarter turns, for which sine and cosine are whole; a heading between two of
them is taken for the smaller. -/
def quarterDirection (heading : ℚ) : Point ℚ :=
  match ⌊heading / 90⌋ % 4 with
  | 0 => ⟨1, 0⟩
  | 1 => ⟨0, 1⟩
  | 2 => ⟨-1, 0⟩
  | _ => ⟨0, -1⟩

/-- The square root of a square of a rational number. -/
def squareRoot (x : ℚ) : ℚ := x.num.toNat.sqrt / x.den.sqrt

/-- Rational numbers as scalars. They are those of a real turtle for as long as it makes quarter
turns and its strokes are parallel to the axes. -/
@[reducible] def Scalar.quarterTurns : Scalar ℚ := Scalar.exact quarterDirection squareRoot

/-! ## Truncation -/

theorem truncate_of_nonneg {x : K} (h : 0 ≤ x) : truncate x = (⌊x⌋ : K) := if_pos h

theorem truncate_of_neg {x : K} (h : x < 0) : truncate x = (⌈x⌉ : K) := if_neg h.not_ge

variable [IsStrictOrderedRing K]

/-- A whole least bound that is moved down to a coordinate stays whole, does not move up, and leaves
the coordinate out by less than one. -/
theorem lower_truncate {m : ℤ} (hm : m ≤ 0) (x : K) :
    ∃ n : ℤ, (if x < m then truncate x else (m : K)) = n ∧ n ≤ m ∧ (n : K) - 1 < x := by
  by_cases h : x < m
  · have hneg : x < 0 := h.trans_le (by exact_mod_cast hm)
    refine ⟨⌈x⌉, ?_, Int.ceil_le.2 h.le, ?_⟩
    · rw [if_pos h, truncate_of_neg hneg]
    · have := Int.ceil_lt_add_one x
      linarith
  · refine ⟨m, if_neg h, le_rfl, ?_⟩
    linarith

/-- A whole greatest bound that is moved up to a coordinate stays whole, does not move down, and
leaves the coordinate out by less than one. -/
theorem upper_truncate {m : ℤ} (hm : 0 ≤ m) (x : K) :
    ∃ n : ℤ, (if (m : K) < x then truncate x else (m : K)) = n ∧ m ≤ n ∧ x < (n : K) + 1 := by
  by_cases h : (m : K) < x
  · have hpos : 0 ≤ x := le_trans (by exact_mod_cast hm) h.le
    refine ⟨⌊x⌋, ?_, Int.le_floor.2 h.le, Int.lt_floor_add_one x⟩
    rw [if_pos h, truncate_of_nonneg hpos]
  · refine ⟨m, if_neg h, le_rfl, ?_⟩
    linarith

/-! ## Boxes -/

namespace BoundingBox

/-- A box with whole bounds around the origin. -/
structure Whole (b : BoundingBox K) : Prop where
  left : ∃ m : ℤ, b.min.x = m ∧ m ≤ 0
  top : ∃ m : ℤ, b.min.y = m ∧ m ≤ 0
  right : ∃ m : ℤ, b.max.x = m ∧ 0 ≤ m
  bottom : ∃ m : ℤ, b.max.y = m ∧ 0 ≤ m

/-- A place less than one unit away from a box, or in it. -/
structure Near (b : BoundingBox K) (p : Point K) : Prop where
  left : b.min.x - 1 < p.x
  top : b.min.y - 1 < p.y
  right : p.x < b.max.x + 1
  bottom : p.y < b.max.y + 1

/-- A box that reaches at least as far as another on every side. -/
structure Covers (b' b : BoundingBox K) : Prop where
  left : b'.min.x ≤ b.min.x
  top : b'.min.y ≤ b.min.y
  right : b.max.x ≤ b'.max.x
  bottom : b.max.y ≤ b'.max.y

omit [FloorRing K] in
theorem Covers.near {b b' : BoundingBox K} {p : Point K} (h : b'.Covers b) (hp : b.Near p) :
    b'.Near p where
  left := by linarith [h.left, hp.left]
  top := by linarith [h.top, hp.top]
  right := by linarith [h.right, hp.right]
  bottom := by linarith [h.bottom, hp.bottom]

omit [FloorRing K] in
theorem Whole.nonpos {b : BoundingBox K} (h : b.Whole) : b.min.x ≤ 0 ∧ b.min.y ≤ 0 := by
  obtain ⟨⟨l, hl, hl0⟩, ⟨t, ht, ht0⟩, -, -⟩ := h
  rw [hl, ht]
  exact ⟨Int.cast_nonpos.2 hl0, Int.cast_nonpos.2 ht0⟩

omit [FloorRing K] in
theorem Whole.nonneg {b : BoundingBox K} (h : b.Whole) : 0 ≤ b.max.x ∧ 0 ≤ b.max.y := by
  obtain ⟨-, -, ⟨r, hr, hr0⟩, ⟨d, hd, hd0⟩⟩ := h
  rw [hr, hd]
  exact ⟨Int.cast_nonneg hr0, Int.cast_nonneg hd0⟩

section Extend

variable (direction : K → Point K) (sqrt : K → K)

omit [IsStrictOrderedRing K] in
theorem whole_origin : (@origin K (Scalar.exact direction sqrt)).Whole where
  left := ⟨0, by simp [origin, Point.origin], le_rfl⟩
  top := ⟨0, by simp [origin, Point.origin], le_rfl⟩
  right := ⟨0, by simp [origin, Point.origin], le_rfl⟩
  bottom := ⟨0, by simp [origin, Point.origin], le_rfl⟩

/-- **A whole box extended to a place** is whole, covers the box before, and has the place in it or
less than one unit away. -/
theorem Whole.extend {b : BoundingBox K} (h : b.Whole) (p : Point K) :
    (@extend K (Scalar.exact direction sqrt) b p).Whole ∧
      (@extend K (Scalar.exact direction sqrt) b p).Covers b ∧
      (@extend K (Scalar.exact direction sqrt) b p).Near p := by
  obtain ⟨⟨l, hl, hl0⟩, ⟨t, ht, ht0⟩, ⟨r, hr, hr0⟩, ⟨d, hd, hd0⟩⟩ := h
  obtain ⟨l', hl', hll, hlp⟩ := lower_truncate hl0 p.x
  obtain ⟨t', ht', htt, htp⟩ := lower_truncate ht0 p.y
  obtain ⟨r', hr', hrr, hrp⟩ := upper_truncate hr0 p.x
  obtain ⟨d', hd', hdd, hdp⟩ := upper_truncate hd0 p.y
  have he : @BoundingBox.extend K (Scalar.exact direction sqrt) b p = ⟨⟨l', t'⟩, ⟨r', d'⟩⟩ := by
    simp only [BoundingBox.extend, lowerBound_exact, upperBound_exact, hl, ht, hr, hd, hl', ht',
      hr', hd']
  rw [he]
  refine ⟨⟨⟨l', rfl, hll.trans hl0⟩, ⟨t', rfl, htt.trans ht0⟩, ⟨r', rfl, hr0.trans hrr⟩,
    ⟨d', rfl, hd0.trans hdd⟩⟩, ⟨?_, ?_, ?_, ?_⟩, ⟨hlp, htp, hrp, hdp⟩⟩
  · exact (Int.cast_le.2 hll).trans_eq hl.symm
  · exact (Int.cast_le.2 htt).trans_eq ht.symm
  · exact hr.trans_le (Int.cast_le.2 hrr)
  · exact hd.trans_le (Int.cast_le.2 hdd)

end Extend

end BoundingBox

end Lindenmayer
