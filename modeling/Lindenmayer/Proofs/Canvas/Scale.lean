import Mathlib.Order.Bounds.Basic
import Lindenmayer.Config.Basic
import Lindenmayer.Proofs.Canvas.Margins

set_option autoImplicit false

/-! # The scale of a figure

The factor for an axis is a quotient unless the extent along the axis is zero, so no figure makes it
divide by zero (`Fit.measure_dividing`). A factor is at most the one for an axis exactly when it
keeps the extent between the margins, or is at most one where there is no extent
(`Scale.le_axisFactor_iff`); so the smaller of the two factors is the greatest that fits on both
axes, and it comes to the margins on one of them (`Fit.measure_greatest_scale`). -/

namespace Lindenmayer

variable {K : Type} [Field K] [LinearOrder K] [FloorRing K] (direction : K → Point K) (sqrt : K → K)

/-! ## Division -/

/-- Exact arithmetic with another way to divide. -/
@[reducible] def Scalar.dividing (direction : K → Point K) (sqrt : K → K) (divide : K → K → K) :
    Scalar K :=
  { Scalar.exact direction sqrt with toDiv := ⟨divide⟩ }

section Dividing

variable {divide : K → K → K} (hdivide : ∀ x y, y ≠ 0 → divide x y = x / y)
include hdivide

theorem Scale.axisFactor_dividing (side margin : Nat) (extent : K) :
    @Scale.axisFactor K (Scalar.dividing direction sqrt divide) side margin extent
      = @Scale.axisFactor K (Scalar.exact direction sqrt) side margin extent := by
  rw [Scale.axisFactor_exact]
  show (if decide (extent = (0 : ℕ)) then ((1 : ℕ) : K)
    else divide ((side : K) - (2 : ℕ) * margin) extent) = _
  simp only [Nat.cast_zero, Nat.cast_one, Nat.cast_ofNat, decide_eq_true_eq]
  split
  · rfl
  · next h => exact hdivide _ extent h

/-- **No figure makes its placement divide by zero**: what a division by zero would give makes no
difference to it. -/
theorem Fit.measure_dividing {σ : Type} (fit : Fit K) (check : Checkpoint σ)
    (sequence : List Char) :
    @Fit.measure K σ (Scalar.dividing direction sqrt divide) fit check sequence
      = @Fit.measure K σ (Scalar.exact direction sqrt) fit check sequence := by
  have hplace : @Placement.ofBounds K (Scalar.dividing direction sqrt divide) fit.frame
      = @Placement.ofBounds K (Scalar.exact direction sqrt) fit.frame := by
    funext bounds
    simp only [Placement.ofBounds, Scale.fit, Scale.stretch,
      Scale.axisFactor_dividing direction sqrt hdivide]
    rfl
  unfold Fit.measure
  rw [hplace]
  rfl

end Dividing

/-! ## Factors that fit -/

variable [IsStrictOrderedRing K]

/-- **The factors up to that of an axis are those that fit**: they keep the extent between the
margins, or are at most one if there is no extent. -/
theorem Scale.le_axisFactor_iff {extent factor : K} {side margin : Nat} (he : 0 ≤ extent)
    (hm : 2 * margin < side) :
    factor ≤ @Scale.axisFactor K (Scalar.exact direction sqrt) side margin extent ↔
      factor * extent ≤ side - 2 * margin ∧ (extent = 0 → factor ≤ 1) := by
  constructor
  · intro hf
    refine ⟨Scale.mul_extent_le direction sqrt he hm hf, fun hzero => ?_⟩
    rwa [Scale.axisFactor_exact, if_pos hzero] at hf
  · rintro ⟨hfits, hone⟩
    rw [Scale.axisFactor_exact]
    split
    · next hzero => exact hone hzero
    · next hne => exact (le_div_iff₀ (lt_of_le_of_ne he (Ne.symm hne))).2 hfits

omit [IsStrictOrderedRing K] in
/-- The factor of an axis stretches an extent to the margins. -/
theorem Scale.axisFactor_mul_extent {extent : K} (hne : extent ≠ 0) (side margin : Nat) :
    @Scale.axisFactor K (Scalar.exact direction sqrt) side margin extent * extent
      = side - 2 * margin := by
  rw [Scale.axisFactor_exact, if_neg hne, div_mul_cancel₀ _ hne]

/-- The factors up to the scale of a placement are those that fit on both axes. -/
theorem Placement.le_uniform_iff {b : BoundingBox K} (hb : b.Whole) {frame : Frame}
    (hw : 2 * frame.margin < frame.width) (hh : 2 * frame.margin < frame.height) {factor : K} :
    let placement := @Placement.ofBounds K (Scalar.exact direction sqrt) frame b
    let width := @BoundingBox.width K (Scalar.exact direction sqrt) b
    let height := @BoundingBox.height K (Scalar.exact direction sqrt) b
    factor ≤ @Scale.uniform K (Scalar.exact direction sqrt) placement.scale ↔
      factor * width ≤ frame.width - 2 * frame.margin ∧
        factor * height ≤ frame.height - 2 * frame.margin ∧
        (width = 0 ∨ height = 0 → factor ≤ 1) := by
  let _ := Scalar.exact direction sqrt
  intro placement width height
  obtain ⟨hwidth, hheight, hx, hy⟩ := hb.extents direction sqrt
  rw [← hwidth] at hx
  rw [← hheight] at hy
  rw [Placement.uniform_ofBounds, le_min_iff, Scale.le_axisFactor_iff direction sqrt hx hw,
    Scale.le_axisFactor_iff direction sqrt hy hh, or_imp]
  tauto

omit [IsStrictOrderedRing K] in
/-- The scale of a placement stretches one of two extents to the margins. -/
theorem Placement.uniform_mul_extent {b : BoundingBox K} (frame : Frame) :
    let placement := @Placement.ofBounds K (Scalar.exact direction sqrt) frame b
    let factor := @Scale.uniform K (Scalar.exact direction sqrt) placement.scale
    let width := @BoundingBox.width K (Scalar.exact direction sqrt) b
    let height := @BoundingBox.height K (Scalar.exact direction sqrt) b
    width ≠ 0 → height ≠ 0 →
      factor * width = frame.width - 2 * frame.margin ∨
        factor * height = frame.height - 2 * frame.margin := by
  let _ := Scalar.exact direction sqrt
  intro placement factor width height hx hy
  have hfactor : factor = _ := Placement.uniform_ofBounds direction sqrt frame b
  rcases min_choice (Scale.axisFactor frame.width frame.margin width)
    (Scale.axisFactor frame.height frame.margin height) with hmin | hmin
  · rw [hfactor.trans hmin]
    exact .inl (Scale.axisFactor_mul_extent direction sqrt hx _ _)
  · rw [hfactor.trans hmin]
    exact .inr (Scale.axisFactor_mul_extent direction sqrt hy _ _)

/-- A figure is started inside the margins. -/
theorem Placement.margin_le_origin {b : BoundingBox K} (hb : b.Whole) {frame : Frame}
    (hw : 2 * frame.margin < frame.width) (hh : 2 * frame.margin < frame.height) :
    letI := Scalar.exact direction sqrt
    frame.margin ≤ (Placement.ofBounds frame b).origin.x ∧
      frame.margin ≤ (Placement.ofBounds frame b).origin.y := by
  let _ := Scalar.exact direction sqrt
  obtain ⟨hpos, -, -, horigin⟩ := Placement.ofBounds_fits direction sqrt hb hw hh
  obtain ⟨hleft, htop⟩ := hb.nonpos
  have hx := mul_nonpos_of_nonneg_of_nonpos hpos.le hleft
  have hy := mul_nonpos_of_nonneg_of_nonpos hpos.le htop
  rw [horigin]
  constructor
  · show (frame.margin : K) ≤ frame.margin - _ * b.min.x
    linarith
  · show (frame.margin : K) ≤ frame.margin - _ * b.min.y
    linarith

/-! ## The measured box -/

/-- The measured box of any figure has whole bounds around the origin. -/
theorem Turtle.whole_of_bounds {turtle : Turtle K} {sequence : List Char} {b : BoundingBox K}
    (h : @Turtle.bounds K (Scalar.exact direction sqrt) turtle sequence = .ok b) : b.Whole := by
  let _ := Scalar.exact direction sqrt
  rw [Turtle.bounds_eq_map_segments] at h
  cases hplain : turtle.segments sequence Pose.initial with
  | error failure =>
    rw [hplain] at h
    cases h
  | ok plain =>
    rw [hplain] at h
    cases h
    exact (Segment.bounds_near direction sqrt plain).1

omit [IsStrictOrderedRing K] in
/-- Over exact scalars the numbers of a configuration are sound when there is room between the
margins and a move goes on. -/
theorem Config.problem?_eq_none_iff {c : Config K} :
    @Config.problem? K (Scalar.exact direction sqrt) c = none ↔
      2 * c.margin < c.width ∧ 2 * c.margin < c.height ∧ 0 < c.stepLength := by
  unfold Config.problem?
  simp only [Scalar.lt_exact, Scalar.ofNat_exact, Nat.cast_zero]
  split
  · exact iff_of_false nofun fun h => by omega
  split
  · exact iff_of_false nofun fun h => by omega
  split
  · next hstep =>
    have hstuck : ¬ 0 < c.stepLength := by simpa using hstep
    exact iff_of_false nofun fun h => hstuck h.2.2
  · next hstep =>
    have hpos : 0 < c.stepLength := by simpa using hstep
    exact iff_of_true rfl ⟨by omega, by omega, hpos⟩

/-! ## The greatest scale -/

/-- **The scale of a measured figure is the greatest that fits.** With sound numbers, whatever the
direction of a heading is, the box of a figure is whole and around the origin, so its extents are
the distances between its bounds; its scale is positive, the turtle starts to draw inside the
margins, and the scaled extents stay between them. If there are both extents, one of them comes to
the margins; if not, the scale is at most one. No greater factor does the same, and nothing is ever
divided by zero. -/
theorem Fit.measure_greatest_scale {σ : Type} {c : Config K} {check : Checkpoint σ}
    {sequence : List Char} {s : σ} {placement : Placement K}
    (hc : @Config.problem? K (Scalar.exact direction sqrt) c = none)
    (h : (@Fit.measure K σ (Scalar.exact direction sqrt) c.fit check sequence s).1
      = .complete placement) :
    let b := placement.bounds
    let width := @BoundingBox.width K (Scalar.exact direction sqrt) b
    let height := @BoundingBox.height K (Scalar.exact direction sqrt) b
    let factor := @Scale.uniform K (Scalar.exact direction sqrt) placement.scale
    let roomX : K := c.width - 2 * c.margin
    let roomY : K := c.height - 2 * c.margin
    (b.Whole ∧ width = b.max.x - b.min.x ∧ height = b.max.y - b.min.y ∧ 0 ≤ width ∧ 0 ≤ height) ∧
      (0 < factor ∧ c.margin ≤ placement.origin.x ∧ c.margin ≤ placement.origin.y) ∧
      (factor * width ≤ roomX ∧ factor * height ≤ roomY) ∧
      (width ≠ 0 → height ≠ 0 → factor * width = roomX ∨ factor * height = roomY) ∧
      (width = 0 ∨ height = 0 → factor ≤ 1) ∧
      IsGreatest {f : K | f * width ≤ roomX ∧ f * height ≤ roomY ∧
        (width = 0 ∨ height = 0 → f ≤ 1)} factor ∧
      ∀ divide : K → K → K, (∀ x y, y ≠ 0 → divide x y = x / y) →
        (@Fit.measure K σ (Scalar.dividing direction sqrt divide) c.fit check sequence s).1
          = .complete placement := by
  intro b width height factor roomX roomY
  let _ := Scalar.exact direction sqrt
  obtain ⟨bounds, hbounds, rfl⟩ := Fit.bounds_of_measure h
  obtain ⟨hw, hh, -⟩ : 2 * c.frame.margin < c.frame.width ∧ 2 * c.frame.margin < c.frame.height ∧
      0 < c.stepLength := (Config.problem?_eq_none_iff direction sqrt).1 hc
  have hb : b.Whole := Turtle.whole_of_bounds direction sqrt hbounds
  obtain ⟨hwidth, hheight, hx, hy⟩ := hb.extents direction sqrt
  obtain ⟨hpos, -⟩ := Placement.ofBounds_fits direction sqrt hb hw hh
  have hfits : ∀ {f : K}, f ≤ factor ↔ f * width ≤ roomX ∧ f * height ≤ roomY ∧
      (width = 0 ∨ height = 0 → f ≤ 1) := Placement.le_uniform_iff direction sqrt hb hw hh
  obtain ⟨hroomX, hroomY, hone⟩ := hfits.1 le_rfl
  refine ⟨⟨hb, hwidth, hheight, hx.trans_eq hwidth.symm, hy.trans_eq hheight.symm⟩,
    ⟨hpos, Placement.margin_le_origin direction sqrt hb hw hh⟩, ⟨hroomX, hroomY⟩,
    Placement.uniform_mul_extent direction sqrt c.frame, hone,
    ⟨⟨hroomX, hroomY, hone⟩, fun f hf => hfits.2 hf⟩, fun divide hdivide => ?_⟩
  rw [Fit.measure_dividing direction sqrt hdivide]
  exact h

/-- A corner of two strokes of length 10 comes to the margins of a canvas of 800 by 600 on one axis
only: it is scaled by 57, and a scale of 58 is too much for its height. -/
theorem Fit.corner_greatest_scale :
    let corner : Config ℚ := @Config.initial ℚ Scalar.quarterTurns
    let placement : Placement ℚ := ⟨⟨⟨0, -10⟩, ⟨10, 0⟩⟩, ⟨57, 57⟩, ⟨15, 585⟩⟩
    let width := @BoundingBox.width ℚ Scalar.quarterTurns placement.bounds
    let height := @BoundingBox.height ℚ Scalar.quarterTurns placement.bounds
    let factor := @Scale.uniform ℚ Scalar.quarterTurns placement.scale
    @Config.problem? ℚ Scalar.quarterTurns corner = none ∧
      (@Fit.measure ℚ Unit Scalar.quarterTurns corner.fit Checkpoint.uninterrupted
        ['F', '+', 'F'] ()).1 = .complete placement ∧
      placement.bounds.Whole ∧ 0 < factor ∧
      (factor * width = 800 - 2 * 15 ∨ factor * height = 600 - 2 * 15) ∧
      ¬ (58 * width ≤ 800 - 2 * 15 ∧ 58 * height ≤ 600 - 2 * 15) := by
  intro corner placement width height factor
  have hc : @Config.problem? ℚ Scalar.quarterTurns corner = none := by decide +kernel
  have h : (@Fit.measure ℚ Unit Scalar.quarterTurns corner.fit Checkpoint.uninterrupted
      ['F', '+', 'F'] ()).1 = .complete placement := by decide +kernel
  have hwide : width ≠ 0 := by decide +kernel
  have hhigh : height ≠ 0 := by decide +kernel
  have hfactor : factor < 58 := by decide +kernel
  obtain ⟨⟨hwhole, -⟩, ⟨hpos, -⟩, -, htight, -, ⟨-, hgreatest⟩, -⟩ :=
    Fit.measure_greatest_scale quarterDirection squareRoot hc h
  refine ⟨hc, h, hwhole, hpos, by simpa [corner, Config.initial] using htight hwide hhigh, ?_⟩
  rintro ⟨hx, hy⟩
  exact hfactor.not_ge (hgreatest ⟨hx, hy, fun hflat => (hflat.elim hwide hhigh).elim⟩)

end Lindenmayer
