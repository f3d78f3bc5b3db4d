import Mathlib.Data.List.Induction
import Mathlib.Tactic.Ring
import Lindenmayer.Proofs.Canvas.Rendering
import Lindenmayer.Proofs.Geometry.Exact
import Lindenmayer.Proofs.Turtle.Figure

set_option autoImplicit false

/-! # Figures inside the margins

Over exact scalars a rendering is the image of the unscaled figure under the map that its placement
stands for (`Fit.render_exact`). The measured box has every place of the figure in it or less than
one unit away, and the placement fits the box between the margins, so the drawing leaves the margins
by less than one scaled unit (`Fit.render_within_margins`). -/

namespace Lindenmayer

variable {K : Type} [Field K] [LinearOrder K] [FloorRing K]

/-! ## Where a placement puts a figure -/

/-- The place on the canvas of a place of the unscaled figure. -/
def Placement.place (placement : Placement K) (factor : K) (p : Point K) : Point K :=
  ⟨placement.origin.x + factor * p.x, placement.origin.y + factor * p.y⟩

section Image

variable (direction : K → Point K) (sqrt : K → K)

/-- Moves are scaled with the figure. -/
theorem Placement.place_move (placement : Placement K) (factor length : K) (p d : Point K) :
    placement.place factor (@Point.move K (Scalar.exact direction sqrt) p d length)
      = @Point.move K (Scalar.exact direction sqrt) (placement.place factor p) d
          (length * factor) := by
  simp only [Placement.place, Point.move]
  congr 1 <;> ring

/-- The scaled walk leaves the image of the unscaled strokes. -/
theorem Fit.segments_scaledTurtle (fit : Fit K) (placement : Placement K) (sequence : List Char) :
    letI := Scalar.exact direction sqrt
    (fit.scaledTurtle placement).segments sequence (Pose.upAt placement.origin)
      = (fit.turtle.segments sequence Pose.initial).map
          (List.map (Segment.image (placement.place placement.scale.uniform))) := by
  let _ := Scalar.exact direction sqrt
  have hmove := Placement.place_move direction sqrt placement placement.scale.uniform
    fit.turtle.stepLength
  have h := Turtle.segments_image hmove sequence Pose.initial
  have hstart : Pose.initial.image (placement.place placement.scale.uniform)
      = Pose.upAt placement.origin := by
    simp [Pose.image, Pose.initial, Pose.upAt, Placement.place, Point.origin]
  rw [hstart] at h
  exact h

/-- **A rendering is the placed image of the unscaled figure.** -/
theorem Fit.render_exact (fit : Fit K) (sequence : List Char) :
    letI := Scalar.exact direction sqrt
    fit.render sequence
      = (fit.turtle.segments sequence Pose.initial).map fun segments =>
          let placement := Placement.ofBounds fit.frame (Segment.bounds segments)
          (placement, segments.map (Segment.image (placement.place placement.scale.uniform))) := by
  let _ := Scalar.exact direction sqrt
  rw [Fit.render_eq, Turtle.bounds_eq_map_segments]
  simp only [Fit.segments_scaledTurtle]
  cases fit.turtle.segments sequence Pose.initial <;> rfl

end Image

variable [IsStrictOrderedRing K]

/-! ## The figure and its box -/

section Box

variable (direction : K → Point K) (sqrt : K → K)

/-- The box around some strokes is whole, and has the origin and their ends in it or less than one
unit away. -/
theorem Segment.bounds_near (segments : List (Segment K)) :
    letI := Scalar.exact direction sqrt
    (Segment.bounds segments).Whole ∧
      ∀ p ∈ Point.origin :: segments.map Segment.finish, (Segment.bounds segments).Near p := by
  let _ := Scalar.exact direction sqrt
  induction segments using List.reverseRecOn with
  | nil =>
    have hw : (BoundingBox.origin : BoundingBox K).Whole := BoundingBox.whole_origin direction sqrt
    refine ⟨hw, fun p hp => ?_⟩
    rw [List.map_nil, List.mem_singleton] at hp
    subst hp
    constructor <;> simp [Segment.bounds, BoundingBox.origin, Point.origin]
  | append_singleton segments s ih =>
    obtain ⟨hw, hnear⟩ := ih
    obtain ⟨hw', hcovers, hs⟩ := hw.extend direction sqrt s.finish
    rw [Segment.bounds_concat]
    refine ⟨hw', fun p hp => ?_⟩
    rw [List.map_append, ← List.cons_append, List.mem_append] at hp
    rcases hp with hp | hp
    · exact hcovers.near (hnear p hp)
    · rw [List.map_singleton, List.mem_singleton] at hp
      subst hp
      exact hs

end Box

/-! ## The scale -/

omit [FloorRing K] in
theorem room_pos {side margin : Nat} (hm : 2 * margin < side) : (0 : K) < side - 2 * margin := by
  rw [sub_pos]
  exact_mod_cast hm

section Placement

variable (direction : K → Point K) (sqrt : K → K)

theorem Scale.axisFactor_pos {extent : K} {side margin : Nat} (he : 0 ≤ extent)
    (hm : 2 * margin < side) :
    0 < @Scale.axisFactor K (Scalar.exact direction sqrt) side margin extent := by
  rw [Scale.axisFactor_exact]
  split
  · exact one_pos
  · next hne => exact div_pos (room_pos hm) (lt_of_le_of_ne he (Ne.symm hne))

/-- A factor that is at most the one for an axis stretches no further than between the margins. -/
theorem Scale.mul_extent_le {extent factor : K} {side margin : Nat} (he : 0 ≤ extent)
    (hm : 2 * margin < side)
    (hf : factor ≤ @Scale.axisFactor K (Scalar.exact direction sqrt) side margin extent) :
    factor * extent ≤ side - 2 * margin := by
  rw [Scale.axisFactor_exact] at hf
  split at hf
  · next hzero =>
    rw [hzero, mul_zero]
    exact (room_pos hm).le
  · next hne => exact (le_div_iff₀ (lt_of_le_of_ne he (Ne.symm hne))).1 hf

/-- The extents of a whole box are the distances between its bounds. -/
theorem BoundingBox.Whole.extents {b : BoundingBox K} (hb : b.Whole) :
    @BoundingBox.width K (Scalar.exact direction sqrt) b = b.max.x - b.min.x ∧
      @BoundingBox.height K (Scalar.exact direction sqrt) b = b.max.y - b.min.y ∧
      0 ≤ b.max.x - b.min.x ∧ 0 ≤ b.max.y - b.min.y := by
  have hx : b.min.x ≤ 0 := hb.nonpos.1
  have hy : b.min.y ≤ 0 := hb.nonpos.2
  refine ⟨?_, ?_, by linarith [hb.nonneg.1], by linarith [hb.nonneg.2]⟩
  · simp only [BoundingBox.width, Scalar.abs_exact, abs_of_nonpos hx]
    ring
  · simp only [BoundingBox.height, Scalar.abs_exact, abs_of_nonpos hy]
    ring

omit [IsStrictOrderedRing K] in
/-- The scale of a placement is the smaller of the factors for the two axes. -/
theorem Placement.uniform_ofBounds (frame : Frame) (b : BoundingBox K) :
    letI := Scalar.exact direction sqrt
    (Placement.ofBounds frame b).scale.uniform
      = min (Scale.axisFactor frame.width frame.margin b.width)
          (Scale.axisFactor frame.height frame.margin b.height) := by
  simp only [Placement.ofBounds, Scale.fit, Scale.stretch, Scale.uniform, Scalar.least_exact,
    min_self]

/-- **The scale of a placement is positive and fits a whole box between the margins** on either
axis, and the origin puts its least corner on them. -/
theorem Placement.ofBounds_fits {b : BoundingBox K} (hb : b.Whole) {frame : Frame}
    (hw : 2 * frame.margin < frame.width) (hh : 2 * frame.margin < frame.height) :
    let placement := @Placement.ofBounds K (Scalar.exact direction sqrt) frame b
    let s := @Scale.uniform K (Scalar.exact direction sqrt) placement.scale
    0 < s ∧ s * (b.max.x - b.min.x) ≤ frame.width - 2 * frame.margin ∧
      s * (b.max.y - b.min.y) ≤ frame.height - 2 * frame.margin ∧
      placement.origin = ⟨frame.margin - s * b.min.x, frame.margin - s * b.min.y⟩ := by
  let _ := Scalar.exact direction sqrt
  obtain ⟨hwidth, hheight, hx, hy⟩ := hb.extents direction sqrt
  have hs := Placement.uniform_ofBounds direction sqrt frame b
  rw [hwidth, hheight] at hs
  refine ⟨?_, ?_, ?_, ?_⟩
  · rw [hs]
    exact lt_min (Scale.axisFactor_pos direction sqrt hx hw)
      (Scale.axisFactor_pos direction sqrt hy hh)
  · rw [hs]
    exact Scale.mul_extent_le direction sqrt hx hw (min_le_left _ _)
  · rw [hs]
    exact Scale.mul_extent_le direction sqrt hy hh (min_le_right _ _)
  · have hl : |b.min.x| = -b.min.x := abs_of_nonpos hb.nonpos.1
    have ht : |b.min.y| = -b.min.y := abs_of_nonpos hb.nonpos.2
    simp only [Placement.ofBounds, Scale.fit, Scale.uniform, Scalar.abs_exact, Scalar.ofNat_exact,
      Scalar.least_exact, min_self, hl, ht]
    congr 1 <;> ring

end Placement

/-! ## Inside the margins -/

omit [FloorRing K] in
/-- On one axis, with the least bound put on the margin and the box ending before the other one, a
coordinate less than one unit out of the box is put less than one scaled unit out of the margins. -/
theorem place_within {s lo hi q margin side : K} (hs : 0 < s)
    (hfit : s * (hi - lo) ≤ side - 2 * margin) (hlo : lo - 1 < q) (hhi : q < hi + 1) :
    margin - s < margin - s * lo + s * q ∧ margin - s * lo + s * q < side - margin + s := by
  have hl : s * (lo - 1) < s * q := mul_lt_mul_of_pos_left hlo hs
  have hr : s * q < s * (hi + 1) := mul_lt_mul_of_pos_left hhi hs
  constructor
  · linarith
  · linarith

/-- **A drawing fits the margins up to one unit of the box**: over exact scalars, whatever the
direction of a heading is, every end of every stroke leaves the margins by less than the scale. -/
theorem Fit.render_within_margins (direction : K → Point K) (sqrt : K → K) (fit : Fit K)
    (sequence : List Char) {placement : Placement K} {segments : List (Segment K)}
    (hw : 2 * fit.frame.margin < fit.frame.width) (hh : 2 * fit.frame.margin < fit.frame.height)
    (h : @Fit.render K (Scalar.exact direction sqrt) fit sequence = .ok (placement, segments)) :
    let s := @Scale.uniform K (Scalar.exact direction sqrt) placement.scale
    ∀ segment ∈ segments, ∀ p ∈ [segment.start, segment.finish],
      (fit.frame.margin - s < p.x ∧ p.x < fit.frame.width - fit.frame.margin + s) ∧
        (fit.frame.margin - s < p.y ∧ p.y < fit.frame.height - fit.frame.margin + s) := by
  let _ := Scalar.exact direction sqrt
  rw [Fit.render_exact] at h
  cases hplain : fit.turtle.segments sequence Pose.initial with
  | error failure =>
    rw [hplain] at h
    cases h
  | ok plain =>
    rw [hplain] at h
    cases h
    obtain ⟨hwhole, hnear⟩ := Segment.bounds_near direction sqrt plain
    -- the scale `s` is positive, and `s` times an extent fits between the margins
    obtain ⟨hs, hx, hy, horigin⟩ := Placement.ofBounds_fits direction sqrt hwhole hw hh
    intro s segment hsegment p hp
    obtain ⟨stroke, hstroke, rfl⟩ := List.mem_map.1 hsegment
    -- the end is the image of a place that the box was measured on
    obtain ⟨q, hq, rfl⟩ : ∃ q ∈ Point.origin :: plain.map Segment.finish,
        p = (Placement.ofBounds fit.frame (Segment.bounds plain)).place s q := by
      rcases List.mem_cons.1 hp with rfl | hp
      · exact ⟨stroke.start, Turtle.start_mem_of_segments hplain stroke hstroke, rfl⟩
      · rw [List.mem_singleton] at hp
        exact ⟨stroke.finish, List.mem_cons_of_mem _ (List.mem_map_of_mem hstroke), hp⟩
    have hn := hnear q hq
    simp only [Placement.place, horigin]
    exact ⟨place_within hs hx hn.left hn.right, place_within hs hy hn.top hn.bottom⟩

/-- A corner of two strokes lies inside the margins of its canvas. -/
theorem Fit.corner_within_margins :
    let corner : Fit ℚ := ⟨⟨90, 10⟩, ⟨800, 600, 15⟩⟩
    ∃ placement segments,
      @Fit.render ℚ Scalar.quarterTurns corner ['F', '+', 'F'] = .ok (placement, segments) ∧
        segments.length = 2 ∧
        let s := @Scale.uniform ℚ Scalar.quarterTurns placement.scale
        ∀ segment ∈ segments, ∀ p ∈ [segment.start, segment.finish],
          (corner.frame.margin - s < p.x ∧ p.x < corner.frame.width - corner.frame.margin + s) ∧
            (corner.frame.margin - s < p.y ∧
              p.y < corner.frame.height - corner.frame.margin + s) := by
  have h : @Fit.render ℚ Scalar.quarterTurns ⟨⟨90, 10⟩, ⟨800, 600, 15⟩⟩ ['F', '+', 'F']
      = .ok (⟨⟨⟨0, -10⟩, ⟨10, 0⟩⟩, ⟨57, 57⟩, ⟨15, 585⟩⟩,
          [⟨⟨15, 585⟩, ⟨15, 15⟩⟩, ⟨⟨15, 15⟩, ⟨585, 15⟩⟩]) := by
    decide +kernel
  exact ⟨_, _, h, rfl,
    Fit.render_within_margins quarterDirection squareRoot _ _ (by decide) (by decide) h⟩

end Lindenmayer
