import Lindenmayer.Proofs.Render.OnCanvas
import Lindenmayer.Proofs.Turtle.Outcome

set_option autoImplicit false

/-! # The length of a drawing

The drawing walk leaves the placed image of the figure, stroke for stroke (`Fit.draw_image`). Every
stroke is one move, so if directions are unit vectors it is as long as the scaled step
(`Segment.length_move`), and the length of all strokes together is a multiple of that
(`pathLength_eq`). So much is reported by every run that finishes (`Renderer.draw_affine`). -/

namespace Lindenmayer

variable {K : Type} [Field K] [LinearOrder K] [FloorRing K] (direction : K → Point K) (sqrt : K → K)

/-! ## The drawing walk -/

/-- **The drawing walk leaves the placed image of the unscaled figure.** -/
theorem Fit.draw_image (fit : Fit K) (placement : Placement K) {sequence : List Char}
    {plain : List (Segment K)} :
    letI := Scalar.exact direction sqrt
    fit.turtle.segments sequence Pose.initial = .ok plain →
      ∃ trail, fit.draw Checkpoint.uninterrupted sequence placement () = (.complete trail, ()) ∧
        (fit.scaledTurtle placement).segments sequence (Pose.upAt placement.origin)
          = .ok trail.segments ∧
        trail.segments = plain.map (Segment.image (placement.place placement.scale.uniform)) := by
  let _ := Scalar.exact direction sqrt
  intro h
  have hscaled := Fit.segments_scaledTurtle direction sqrt fit placement sequence
  rw [h] at hscaled
  obtain ⟨trail, hfollow, hsegments⟩ := Turtle.segments_eq_ok hscaled
  refine ⟨trail, ?_, ?_, hsegments⟩
  · have hwalk := (fit.scaledTurtle placement).walk_uninterrupted .draw (Pose.upAt placement.origin)
      sequence
    rw [hfollow] at hwalk
    exact hwalk
  · rw [hsegments]
    exact hscaled

/-! ## Lengths -/

theorem pathLength_eq {l : K} (segments : List (Segment K)) :
    letI := Scalar.exact direction sqrt
    (∀ s ∈ segments, s.length = l) → pathLength segments = segments.length * l := by
  let _ := Scalar.exact direction sqrt
  intro h
  have hsum : ∀ sum : K, segments.foldl (fun sum s => sum + s.length) sum
      = sum + segments.length * l := by
    induction segments with
    | nil =>
      intro sum
      simp
    | cons s segments ih =>
      intro sum
      rw [List.forall_mem_cons] at h
      rw [List.foldl_cons, ih h.2, h.1, List.length_cons, Nat.cast_succ]
      ring
  calc pathLength segments = -Scalar.ofNat 0 + segments.length * l := hsum _
    _ = segments.length * l := by rw [Scalar.ofNat_exact, Nat.cast_zero, neg_zero, zero_add]

variable {direction sqrt}

theorem Segment.length_move (hunit : ∀ h, (direction h).x ^ 2 + (direction h).y ^ 2 = 1)
    (hsqrt : ∀ x, 0 ≤ x → sqrt (x ^ 2) = x) {s : Segment K} {heading l : K} (hl : 0 ≤ l) :
    letI := Scalar.exact direction sqrt
    s.finish = s.start.move (Point.direction heading) l → s.length = l := by
  let _ := Scalar.exact direction sqrt
  intro hs
  show sqrt ((s.start.x - s.finish.x) * (s.start.x - s.finish.x)
    + (s.start.y - s.finish.y) * (s.start.y - s.finish.y)) = l
  have hsquare : (s.start.x - s.finish.x) * (s.start.x - s.finish.x)
      + (s.start.y - s.finish.y) * (s.start.y - s.finish.y) = l ^ 2 := by
    rw [hs]
    show (s.start.x - (s.start.x + (direction heading).x * l))
          * (s.start.x - (s.start.x + (direction heading).x * l))
        + (s.start.y - (s.start.y + (direction heading).y * l))
          * (s.start.y - (s.start.y + (direction heading).y * l)) = l ^ 2
    calc _ = ((direction heading).x ^ 2 + (direction heading).y ^ 2) * l ^ 2 := by ring
      _ = l ^ 2 := by rw [hunit, one_mul]
  rw [hsquare, hsqrt l hl]

/-- The strokes that a scaled turtle leaves are as long as its step. -/
theorem Turtle.length_of_segments (hunit : ∀ h, (direction h).x ^ 2 + (direction h).y ^ 2 = 1)
    (hsqrt : ∀ x, 0 ≤ x → sqrt (x ^ 2) = x) {turtle : Turtle K} (hl : 0 ≤ turtle.stepLength)
    {sequence : List Char} {pose : Pose K} {segments : List (Segment K)} :
    letI := Scalar.exact direction sqrt
    turtle.segments sequence pose = .ok segments →
      ∀ s ∈ segments, s.length = turtle.stepLength := by
  let _ := Scalar.exact direction sqrt
  intro h s hs
  obtain ⟨heading, hmove⟩ := Turtle.exists_move_of_segments h s hs
  exact Segment.length_move hunit hsqrt hl hmove

/-! ## Finished runs -/

variable [IsStrictOrderedRing K]

/-- Figures are scaled by a positive factor. -/
theorem Fit.scale_pos_of_render {fit : Fit K} {sequence : List Char} {placement : Placement K}
    {segments : List (Segment K)} (hw : 2 * fit.frame.margin < fit.frame.width)
    (hh : 2 * fit.frame.margin < fit.frame.height) :
    letI := Scalar.exact direction sqrt
    fit.render sequence = .ok (placement, segments) → 0 < placement.scale.uniform := by
  let _ := Scalar.exact direction sqrt
  intro h
  obtain ⟨bounds, -, hbounds, rfl, -, -⟩ := Fit.render_eq_ok h
  have hwhole := Turtle.whole_of_bounds direction sqrt hbounds
  exact (Placement.ofBounds_fits direction sqrt hwhole hw hh).1

/-- The strokes that the figures about a finished run are taken from, and the scaled step, which is
positive. -/
theorem Renderer.exists_segments_of_finished {r : Renderer K} {schedule : Schedule K}
    {stats : Stats K} :
    letI := Scalar.exact direction sqrt
    (r.run schedule).result = some (.ok (.finished stats)) →
      ∃ sequence segments, (r.config.fit.scaledTurtle stats.placement).segments sequence
          (Pose.upAt stats.placement.origin) = .ok segments ∧
        stats.segments = segments.length ∧ stats.pathLength = pathLength segments ∧
        0 < r.config.stepLength * stats.placement.scale.uniform := by
  let _ := Scalar.exact direction sqrt
  intro hr
  obtain ⟨table, picture, hp, hpicture, rfl, -⟩ := exists_picture_of_finished hr
  obtain ⟨sequence, placement, segments, -, hrender, rfl⟩ := Config.exists_rendered hpicture
  obtain ⟨hw, hh, hstep⟩ := Config.sound_of_prepare direction sqrt hp
  have hscale : 0 < placement.scale.uniform := Fit.scale_pos_of_render hw hh hrender
  obtain ⟨bounds, trail, -, rfl, hdraw, rfl⟩ := Fit.render_eq_ok hrender
  refine ⟨sequence, trail.segments, ?_, rfl, rfl, mul_pos hstep hscale⟩
  unfold Turtle.segments
  exact congrArg (Except.map Trail.segments) hdraw

/-- **Drawing is exact.** For any function for the direction of a heading, the strokes of the
drawing walk are, in order, the unscaled strokes with each end `p` put to `origin + u * p`, where
`u` is the smaller scale factor. If directions are unit vectors, each is as long as the step times
`u`, and a finished run reports that length as often as there are strokes. -/
theorem Renderer.draw_affine (direction : K → Point K) (sqrt : K → K) :
    let _ := Scalar.exact direction sqrt
    let unit := (∀ h, (direction h).x ^ 2 + (direction h).y ^ 2 = 1) ∧ ∀ x, 0 ≤ x → sqrt (x ^ 2) = x
    (∀ (fit : Fit K) (sequence : List Char) (plain : List (Segment K)) (placement : Placement K),
        fit.turtle.segments sequence Pose.initial = .ok plain →
        let u := min placement.scale.x placement.scale.y
        let place := fun p : Point K =>
          (⟨placement.origin.x + u * p.x, placement.origin.y + u * p.y⟩ : Point K)
        ∃ trail, fit.draw Checkpoint.uninterrupted sequence placement () = (.complete trail, ()) ∧
          trail.segments = plain.map (fun s => ⟨place s.start, place s.finish⟩) ∧
          (unit → 0 ≤ fit.turtle.stepLength * u →
            ∀ s ∈ trail.segments, s.length = fit.turtle.stepLength * u)) ∧
      (unit → ∀ (r : Renderer K) (schedule : Schedule K) (stats : Stats K),
        (r.run schedule).result = some (.ok (.finished stats)) →
        stats.pathLength = stats.segments
          * (r.config.stepLength * min stats.placement.scale.x stats.placement.scale.y)) := by
  intro _ unit
  constructor
  · intro fit sequence plain placement h u place
    have hu : placement.scale.uniform = u := Scalar.least_exact direction sqrt _ _
    obtain ⟨trail, hdraw, hscaled, himage⟩ := Fit.draw_image direction sqrt fit placement h
    refine ⟨trail, hdraw, ?_, fun hunit hl s hs => ?_⟩
    · rw [himage, hu]
      rfl
    · have hstep : (fit.scaledTurtle placement).stepLength = fit.turtle.stepLength * u :=
        congrArg (fit.turtle.stepLength * ·) hu
      rw [← hstep] at hl ⊢
      exact Turtle.length_of_segments hunit.1 hunit.2 hl hscaled s hs
  · intro hunit r schedule stats hr
    have hu : stats.placement.scale.uniform = min stats.placement.scale.x stats.placement.scale.y :=
      Scalar.least_exact direction sqrt _ _
    obtain ⟨sequence, segments, hscaled, hcount, hlength, hstep⟩ := exists_segments_of_finished hr
    rw [hcount, hlength, ← hu]
    exact pathLength_eq direction sqrt segments
      (Turtle.length_of_segments hunit.1 hunit.2 hstep.le hscaled)

theorem quarterDirection_unit (h : ℚ) :
    (quarterDirection h).x ^ 2 + (quarterDirection h).y ^ 2 = 1 := by
  unfold quarterDirection
  split <;> norm_num

theorem squareRoot_sq {x : ℚ} (hx : 0 ≤ x) : squareRoot (x ^ 2) = x := by
  have hnum : (x.num.toNat : ℚ) = x.num := by
    exact_mod_cast Int.toNat_of_nonneg (Rat.num_nonneg.2 hx)
  unfold squareRoot
  rw [Rat.num_pow, Rat.den_pow, Int.toNat_pow_of_nonneg (Rat.num_nonneg.2 hx), Nat.sqrt_eq',
    Nat.sqrt_eq', hnum, Rat.num_div_den]

/-- A figure with a branch, run and drawn elsewhere: its three strokes are as long as the scaled
step. -/
theorem Renderer.branched_draw_affine :
    let _ := Scalar.quarterTurns
    let config : Config ℚ := { Config.initial with startSequence := "F[+F]F" }
    let placement : Placement ℚ := ⟨BoundingBox.origin, ⟨3, 2⟩, ⟨5, 50⟩⟩
    (∃ stats,
        ((Renderer.ofConfig config).run Schedule.quiet).result = some (.ok (.finished stats)) ∧
        stats.segments = 3 ∧ stats.pathLength = 3 * (10 * (57 / 2))) ∧
      ∃ trail, config.fit.draw Checkpoint.uninterrupted "F[+F]F".toList placement ()
          = (.complete trail, ()) ∧ ∀ s ∈ trail.segments, s.length = 20 := by
  intro _ config placement
  have hunit : (∀ h, (quarterDirection h).x ^ 2 + (quarterDirection h).y ^ 2 = 1) ∧
      ∀ x, 0 ≤ x → squareRoot (x ^ 2) = x := ⟨quarterDirection_unit, fun _ hx => squareRoot_sq hx⟩
  obtain ⟨hdraw, hrun⟩ := Renderer.draw_affine quarterDirection squareRoot
  have hr : ((Renderer.ofConfig config).run Schedule.quiet).result = some (.ok (.finished
      ⟨6, 3, 855, ⟨⟨⟨0, -20⟩, ⟨10, 0⟩⟩, ⟨57 / 2, 57 / 2⟩, ⟨15, 585⟩⟩⟩)) := by
    decide +kernel
  have hplain : config.fit.turtle.segments "F[+F]F".toList Pose.initial
      = .ok [⟨⟨0, 0⟩, ⟨0, -10⟩⟩, ⟨⟨0, -10⟩, ⟨10, -10⟩⟩, ⟨⟨0, -10⟩, ⟨0, -20⟩⟩] := by
    decide +kernel
  have hstep : config.fit.turtle.stepLength * min 3 2 = 20 := by decide +kernel
  refine ⟨⟨_, hr, rfl, ?_⟩, ?_⟩
  · have hscale : min (57 / 2 : ℚ) (57 / 2) = 57 / 2 := min_self _
    exact (hrun hunit _ _ _ hr).trans (by rw [hscale]; rfl)
  · obtain ⟨trail, htrail, -, hlength⟩ := hdraw _ _ _ placement hplain
    refine ⟨trail, htrail, fun s hs => ?_⟩
    rw [hlength hunit (by rw [hstep]; norm_num) s hs, hstep]

end Lindenmayer
