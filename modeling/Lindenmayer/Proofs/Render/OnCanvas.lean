import Mathlib.Analysis.SpecialFunctions.Trigonometric.Basic
import Lindenmayer.Proofs.Canvas.Scale
import Lindenmayer.Proofs.Render.Course

set_option autoImplicit false

/-! # Pictures on their canvas

The scale of a figure is taken from its measured box, and the box is kept in whole units. So a
figure can stick out of the box by up to one unit, which is as much as the scale when it is drawn,
and the border of a canvas need not be that wide. Over exact scalars a finished picture lies on its
canvas exactly when everything that sticks out finds room there (`Renderer.finished_onCanvas_iff`).
As such this says of the measured figure what the canvas says of the drawn one (`spares_iff`). The
content is in two conditions that are enough: the scale is no greater than the margin
(`spares_of_near`), or the figure comes to whole places only (`spares_of_mem`). A small figure of
uneven step length is a picture that does not lie on its canvas (`Renderer.corner_off_canvas`). -/

namespace Lindenmayer

/-- The ends of some strokes. -/
def Segment.places {α : Type} (segments : List (Segment α)) : List (Point α) :=
  segments.flatMap fun s => [s.start, s.finish]

theorem Segment.places_image {α : Type} (f : Point α → Point α) (segments : List (Segment α)) :
    Segment.places (segments.map (Segment.image f)) = (Segment.places segments).map f := by
  simp [Segment.places, Segment.image, List.flatMap_map, List.map_flatMap]

variable {K : Type} [Field K] [LinearOrder K]

/-! ## Room for what sticks out -/

/-- On one axis, with the box from `lo` to `hi` scaled by `s` and put on the margin of a side, a
coordinate sticks out of the box by no more than the side has left there. This is that the drawn
coordinate lies on the side, rearranged (`spares_iff`). -/
def Spares (s lo hi margin side q : K) : Prop :=
  s * (lo - q) ≤ margin ∧ s * (q - hi) ≤ side - margin - s * (hi - lo)

section Axis

variable [IsStrictOrderedRing K] {s lo hi margin side q : K}

theorem spares_iff :
    Spares s lo hi margin side q ↔ margin - s * lo + s * q ∈ Set.Icc 0 side := by
  unfold Spares
  rw [Set.mem_Icc, mul_sub, mul_sub, mul_sub]
  constructor
  · rintro ⟨hleft, hright⟩
    constructor <;> linarith
  · rintro ⟨hleft, hright⟩
    constructor <;> linarith

/-- What sticks out by less than a unit finds room if the scale is no greater than the margin. -/
theorem spares_of_near (hs : 0 < s) (hfit : s * (hi - lo) ≤ side - 2 * margin) (hlo : lo - 1 < q)
    (hhi : q < hi + 1) (hle : s ≤ margin) : Spares s lo hi margin side q := by
  obtain ⟨hleft, hright⟩ := place_within hs hfit hlo hhi
  rw [spares_iff, Set.mem_Icc]
  constructor <;> linarith

/-- What does not stick out needs no room. -/
theorem spares_of_mem (hs : 0 < s) (hfit : s * (hi - lo) ≤ side - 2 * margin) (hm : 0 ≤ margin)
    (hq : q ∈ Set.Icc lo hi) : Spares s lo hi margin side q := by
  obtain ⟨hlo, hhi⟩ := hq
  have hleft : s * (lo - q) ≤ 0 := mul_nonpos_of_nonneg_of_nonpos hs.le (sub_nonpos.2 hlo)
  have hright : s * (q - hi) ≤ 0 := mul_nonpos_of_nonneg_of_nonpos hs.le (sub_nonpos.2 hhi)
  constructor <;> linarith

end Axis

/-- What sticks out of the measured box at a place of the unscaled figure finds room on the canvas
when it is drawn: the drawn place is on the canvas, told by the unscaled one. -/
def Placement.Spares (placement : Placement K) (frame : Frame) (factor : K) (q : Point K) : Prop :=
  Lindenmayer.Spares factor placement.bounds.min.x placement.bounds.max.x frame.margin frame.width
      q.x ∧
    Lindenmayer.Spares factor placement.bounds.min.y placement.bounds.max.y frame.margin
      frame.height q.y

/-- A place with whole coordinates. -/
def Point.Whole (p : Point K) : Prop := ∃ m n : ℤ, p = ⟨m, n⟩

/-- A whole place less than one unit away from a whole box is in it. -/
theorem BoundingBox.Whole.mem_of_near [IsStrictOrderedRing K] {b : BoundingBox K} {q : Point K}
    (hb : b.Whole) (hn : b.Near q) (hq : q.Whole) :
    q.x ∈ Set.Icc b.min.x b.max.x ∧ q.y ∈ Set.Icc b.min.y b.max.y := by
  have hmem : ∀ {l h m : ℤ}, (l : K) - 1 < m → (m : K) < h + 1 → (m : K) ∈ Set.Icc (l : K) h := by
    intro l h m hlo hhi
    have hl : l - 1 < m := by exact_mod_cast hlo
    have hh : m < h + 1 := by exact_mod_cast hhi
    exact ⟨Int.cast_le.2 (by omega), Int.cast_le.2 (by omega)⟩
  obtain ⟨m, n, rfl⟩ := hq
  obtain ⟨⟨l, hl, -⟩, ⟨t, ht, -⟩, ⟨r, hr, -⟩, ⟨d, hd, -⟩⟩ := hb
  obtain ⟨hleft, htop, hright, hbottom⟩ := hn
  rw [hl] at hleft
  rw [hr] at hright
  rw [ht] at htop
  rw [hd] at hbottom
  rw [hl, hr, ht, hd]
  exact ⟨hmem hleft hright, hmem htop hbottom⟩

/-! ## Drawings on a canvas -/

/-- A drawing whose strokes begin and end on its canvas. -/
def Drawing.OnCanvas (d : Drawing K) : Prop :=
  ∀ p ∈ Segment.places d.segments, p.x ∈ Set.Icc 0 (d.width : K) ∧ p.y ∈ Set.Icc 0 (d.height : K)

variable [FloorRing K] [IsStrictOrderedRing K] (direction : K → Point K) (sqrt : K → K)

/-- The strokes of a walk from the origin begin and end in the box around them or less than one unit
away. -/
theorem Turtle.places_near {turtle : Turtle K} {sequence : List Char} {plain : List (Segment K)}
    (h : @Turtle.segments K (Scalar.exact direction sqrt) turtle sequence
      (@Pose.initial K (Scalar.exact direction sqrt)) = .ok plain) :
    ∀ q ∈ Segment.places plain,
      (@Segment.bounds K (Scalar.exact direction sqrt) plain).Near q := by
  let _ := Scalar.exact direction sqrt
  obtain ⟨-, hnear⟩ := Segment.bounds_near direction sqrt plain
  intro q hq
  obtain ⟨stroke, hstroke, hq⟩ := List.mem_flatMap.1 hq
  rcases List.mem_cons.1 hq with rfl | hq
  · exact hnear _ (Turtle.start_mem_of_segments h stroke hstroke)
  · rw [List.mem_singleton] at hq
    subst hq
    exact hnear _ (List.mem_cons_of_mem _ (List.mem_map_of_mem hstroke))

/-- **When a rendering stays on its canvas**: exactly when whatever sticks out of the measured box
finds room. There is room if the scale is no greater than the margin, and nothing sticks out of a
figure with whole coordinates. -/
theorem Fit.render_onCanvas_iff (fit : Fit K) (sequence : List Char) {placement : Placement K}
    {segments : List (Segment K)}
    (hw : 2 * fit.frame.margin < fit.frame.width) (hh : 2 * fit.frame.margin < fit.frame.height)
    (h : @Fit.render K (Scalar.exact direction sqrt) fit sequence = .ok (placement, segments)) :
    let _ := Scalar.exact direction sqrt
    ∃ plain, fit.turtle.segments sequence Pose.initial = .ok plain ∧
      let s := placement.scale.uniform
      ((∀ p ∈ Segment.places segments,
          p.x ∈ Set.Icc 0 (fit.frame.width : K) ∧ p.y ∈ Set.Icc 0 (fit.frame.height : K)) ↔
        ∀ q ∈ Segment.places plain, placement.Spares fit.frame s q) ∧
      (s ≤ fit.frame.margin → ∀ q ∈ Segment.places plain, placement.Spares fit.frame s q) ∧
      ((∀ q ∈ Segment.places plain, q.Whole) →
        ∀ q ∈ Segment.places plain, placement.Spares fit.frame s q) := by
  intro _
  rw [Fit.render_exact] at h
  cases hplain : fit.turtle.segments sequence Pose.initial with
  | error failure =>
    rw [hplain] at h
    cases h
  | ok plain =>
    rw [hplain] at h
    cases h
    have hnear := Turtle.places_near direction sqrt hplain
    obtain ⟨hwhole, -⟩ := Segment.bounds_near direction sqrt plain
    obtain ⟨hs, hx, hy, horigin⟩ := Placement.ofBounds_fits direction sqrt hwhole hw hh
    refine ⟨plain, rfl, ?_, fun hle q hq => ?_, fun hints q hq => ?_⟩
    · rw [Segment.places_image, List.forall_mem_map]
      simp only [Placement.place, Placement.Spares, spares_iff, horigin]
      rfl
    · have hn := hnear q hq
      exact ⟨spares_of_near hs hx hn.left hn.right hle, spares_of_near hs hy hn.top hn.bottom hle⟩
    · have hm : (0 : K) ≤ fit.frame.margin := Nat.cast_nonneg _
      obtain ⟨hqx, hqy⟩ := hwhole.mem_of_near (hnear q hq) (hints q hq)
      exact ⟨spares_of_mem hs hx hm hqx, spares_of_mem hs hy hm hqy⟩

/-! ## Finished runs -/

/-- There is nothing wrong with the numbers of a configuration that can be run. -/
theorem Config.problem?_eq_none {α : Type} [Scalar α] {c : Config α} {table : RuleTable}
    (hp : c.prepare = .ok table) : c.problem? = none := by
  unfold Config.prepare at hp
  cases hproblem : c.problem? with
  | some problem =>
    rw [hproblem] at hp
    cases hp
  | none => rfl

omit [IsStrictOrderedRing K] in
/-- A configuration that can be run has room between its margins, and a turtle that moves on. -/
theorem Config.sound_of_prepare {c : Config K} {table : RuleTable}
    (hp : @Config.prepare K (Scalar.exact direction sqrt) c = .ok table) :
    2 * c.margin < c.width ∧ 2 * c.margin < c.height ∧ 0 < c.stepLength := by
  let _ := Scalar.exact direction sqrt
  exact (Config.problem?_eq_none_iff direction sqrt).1 (Config.problem?_eq_none hp)

omit [IsStrictOrderedRing K] in
/-- A configuration that can be run has a canvas with room between its margins. -/
theorem Config.room_of_prepare {c : Config K} {table : RuleTable}
    (hp : @Config.prepare K (Scalar.exact direction sqrt) c = .ok table) :
    2 * c.margin < c.width ∧ 2 * c.margin < c.height := by
  obtain ⟨hw, hh, -⟩ := Config.sound_of_prepare direction sqrt hp
  exact ⟨hw, hh⟩

/-- **When a finished picture stays on its canvas**, for any function for the direction of a
heading: exactly when all that sticks out of the measured box of its figure finds room there. That
much is the drawn coordinates rearranged (`spares_iff`). The content is that either of two conditions
is enough: the scale is no greater than the margin, or the figure comes to whole places only. -/
theorem Renderer.finished_onCanvas_iff (r : Renderer K) (schedule : Schedule K) {stats : Stats K}
    (hr : (@Renderer.run K (Scalar.exact direction sqrt) r schedule).result
      = some (.ok (.finished stats))) :
    let _ := Scalar.exact direction sqrt
    ∃ table sequence plain drawing, r.config.prepare = .ok table ∧
      expandWithin table r.config.maxSymbols r.config.startSequence.toList r.config.generations
        = .ok sequence ∧
      r.config.turtle.segments sequence Pose.initial = .ok plain ∧
      (r.run schedule).drawings = [drawing] ∧
      let s := stats.placement.scale.uniform
      (drawing.OnCanvas ↔
        ∀ q ∈ Segment.places plain, stats.placement.Spares r.config.frame s q) ∧
      (s ≤ r.config.margin → drawing.OnCanvas) ∧
      ((∀ q ∈ Segment.places plain, q.Whole) → drawing.OnCanvas) := by
  intro _
  obtain ⟨table, picture, hp, hpicture, rfl, hdrawings⟩ := exists_picture_of_finished hr
  obtain ⟨sequence, placement, segments, hexpand, hrender, rfl⟩ := Config.exists_rendered hpicture
  obtain ⟨hw, hh⟩ := Config.room_of_prepare direction sqrt hp
  obtain ⟨plain, hplain, hiff, hmargin, hwhole⟩ :=
    Fit.render_onCanvas_iff direction sqrt r.config.fit sequence hw hh hrender
  exact ⟨table, sequence, plain, _, hp, hexpand, hplain, hdrawings, hiff,
    fun hle => hiff.2 (hmargin hle), fun hints => hiff.2 (hwhole hints)⟩

/-- A corner of two long strokes is scaled by less than the margin, and stays on its canvas. -/
theorem Renderer.long_corner_onCanvas :
    let _ := Scalar.quarterTurns
    let config : Config ℚ := { Config.initial with startSequence := "F+F", stepLength := 81 / 2 }
    let run := (Renderer.ofConfig config).run Schedule.quiet
    ∃ stats drawing, run.result = some (.ok (.finished stats)) ∧
      stats.placement.scale.uniform ≤ 15 ∧ run.drawings = [drawing] ∧
      drawing.segments.length = 2 ∧ drawing.OnCanvas := by
  intro _ config run
  have hr : run.result = some (.ok (.finished
      ⟨3, 2, 4617 / 4, ⟨⟨⟨0, -40⟩, ⟨40, 0⟩⟩, ⟨57 / 4, 57 / 4⟩, ⟨15, 585⟩⟩⟩)) := by
    decide +kernel
  have hscale : @Scale.uniform ℚ Scalar.quarterTurns ⟨57 / 4, 57 / 4⟩ ≤ 15 := by decide +kernel
  have hcount : run.drawings.map (fun d => d.segments.length) = [2] := by decide +kernel
  obtain ⟨-, -, -, drawing, -, -, -, hdrawings, -, hmargin, -⟩ :=
    finished_onCanvas_iff quarterDirection squareRoot _ _ hr
  have hcount' : run.drawings.map (fun d => d.segments.length) = [drawing.segments.length] :=
    congrArg _ hdrawings
  exact ⟨_, drawing, hr, hscale, hdrawings, List.head_eq_of_cons_eq (hcount'.symm.trans hcount),
    hmargin hscale⟩

/-! ## A picture off its canvas -/

/-- Real numbers as scalars, with the exact direction of every heading. -/
@[reducible] noncomputable def Scalar.real : Scalar ℝ :=
  Scalar.exact
    (fun heading => ⟨Real.cos (heading * (Real.pi / 180)), Real.sin (heading * (Real.pi / 180))⟩)
    Real.sqrt

/-- A corner of two strokes of length 3/2, otherwise as at first. -/
noncomputable def Config.unevenCorner : Config ℝ :=
  let _ := Scalar.real
  { Config.initial with startSequence := "F+F", stepLength := 3 / 2 }

/-- The strokes of a corner: one along the first heading and one after a clockwise turn. -/
theorem Turtle.segments_corner {α : Type} [Scalar α] (turtle : Turtle α) :
    let corner : Point α :=
      Point.origin.move (Point.direction Pose.initialHeading) turtle.stepLength
    turtle.segments ['F', '+', 'F'] Pose.initial
      = .ok [⟨Point.origin, corner⟩,
          ⟨corner, corner.move
            (Point.direction (Pose.initialHeading + turtle.angleStep * Scalar.ofNat 1))
            turtle.stepLength⟩] := by
  have hletter : Command.ofChar 'F' = .forward := by decide
  have hturn : Command.ofChar '+' = .turn .clockwise := by decide
  simp [segments, follow_eq_foldlM, Trail.step, Trail.act, Trail.advance, Trail.start,
    Trail.segments, hletter, hturn, Pose.initial, Pose.upAt, Pose.advance, Pose.turn,
    Pose.direction, Rotation.sign, Except.map, bind, Except.bind, pure, Except.pure]

/-- The corner is measured as if its strokes were of length 1, and drawn with a scale of 570. -/
theorem Config.render_unevenCorner :
    let _ := Scalar.real
    Config.unevenCorner.fit.render ['F', '+', 'F']
      = .ok (⟨⟨⟨0, -1⟩, ⟨1, 0⟩⟩, ⟨570, 570⟩, ⟨15, 585⟩⟩,
          [⟨⟨15, 585⟩, ⟨15, -270⟩⟩, ⟨⟨15, -270⟩, ⟨870, -270⟩⟩]) := by
  intro _
  have hup : Point.direction (Pose.initialHeading : ℝ) = ⟨0, -1⟩ := by
    have hangle : -((90 : ℕ) : ℝ) * (Real.pi / 180) = -(Real.pi / 2) := by
      rw [Nat.cast_ofNat]
      ring
    show (⟨Real.cos (-((90 : ℕ) : ℝ) * (Real.pi / 180)),
      Real.sin (-((90 : ℕ) : ℝ) * (Real.pi / 180))⟩ : Point ℝ) = _
    rw [hangle]
    simp
  have hright : Point.direction
      (Pose.initialHeading + unevenCorner.turtle.angleStep * Scalar.ofNat 1 : ℝ) = ⟨1, 0⟩ := by
    have hangle :
        (Pose.initialHeading + unevenCorner.turtle.angleStep * Scalar.ofNat 1 : ℝ) = 0 := by
      simp [Pose.initialHeading, unevenCorner, Config.turtle, Config.initial]
    rw [hangle]
    show (⟨Real.cos (0 * (Real.pi / 180)), Real.sin (0 * (Real.pi / 180))⟩ : Point ℝ) = _
    simp
  have hplain : unevenCorner.turtle.segments ['F', '+', 'F'] Pose.initial
      = .ok [⟨⟨0, 0⟩, ⟨0, -3 / 2⟩⟩, ⟨⟨0, -3 / 2⟩, ⟨3 / 2, -3 / 2⟩⟩] := by
    rw [Turtle.segments_corner, hup, hright]
    norm_num [Point.move, Point.origin, unevenCorner, Config.turtle]
  have hbounds : Segment.bounds
      [(⟨⟨0, 0⟩, ⟨0, -3 / 2⟩⟩ : Segment ℝ), ⟨⟨0, -3 / 2⟩, ⟨3 / 2, -3 / 2⟩⟩]
        = ⟨⟨0, -1⟩, ⟨1, 0⟩⟩ := by
    norm_num [Segment.bounds, BoundingBox.extend, BoundingBox.origin, Point.origin, truncate]
  rw [Config.fit, Fit.render_exact, hplain]
  simp only [Except.map, hbounds]
  norm_num [Placement.ofBounds, Scale.fit, Scale.stretch, Scale.uniform, Scale.axisFactor_exact,
    BoundingBox.width, BoundingBox.height, Config.frame, unevenCorner, Config.initial,
    Segment.image, Placement.place]

/-- Whether a run finishes. -/
def Run.finishes {α : Type} (run : Run α) : Bool :=
  match run.result with
  | some (.ok (.finished _)) => true
  | _ => false

theorem Run.exists_of_finishes {α : Type} {run : Run α} (h : run.finishes = true) :
    ∃ stats, run.result = some (.ok (.finished stats)) := by
  unfold finishes at h
  split at h
  · next stats hr => exact ⟨stats, hr⟩
  · cases h

/-- The corner is accepted and its run finishes, and the drawing leaves the canvas of 800 by 600 at
the top and on the right. -/
theorem Renderer.corner_off_canvas :
    let _ := Scalar.real
    let run := (Renderer.ofConfig Config.unevenCorner).run Schedule.quiet
    (∃ stats, run.result = some (.ok (.finished stats))) ∧
      ∃ drawing, run.drawings = [drawing] ∧ drawing.width = 800 ∧ drawing.height = 600 ∧
        drawing.segments = [⟨⟨15, 585⟩, ⟨15, -270⟩⟩, ⟨⟨15, -270⟩, ⟨870, -270⟩⟩] ∧
        ¬ drawing.OnCanvas := by
  intro _ run
  have hproblem : Config.unevenCorner.problem? = none := by
    simp [Config.problem?, Config.unevenCorner, Config.initial]
  have hparse : RuleTable.parse Config.unevenCorner.startSequence.toList
      Config.unevenCorner.productionRules.toList = .ok (RuleTable.empty.insert 5 [.letter 5]) := by
    show RuleTable.parse "F+F".toList "".toList = _
    decide +kernel
  have hp : Config.unevenCorner.prepare = .ok (RuleTable.empty.insert 5 [.letter 5]) := by
    simp only [Config.prepare, hproblem, hparse]
  -- how the run ends does not depend on any coordinate
  have hends : run.finishes = true := by
    show (Renderer.run _ _).finishes = true
    unfold Renderer.run
    rw [show (Renderer.ofConfig Config.unevenCorner).config.prepare = _ from hp]
    decide +kernel
  obtain ⟨stats, hr⟩ := Run.exists_of_finishes hends
  obtain ⟨table, picture, hp', hpicture, -, hdrawings⟩ := exists_picture_of_finished hr
  cases hp.symm.trans hp'
  obtain ⟨sequence, placement, segments, hexpand, hrender, rfl⟩ := Config.exists_rendered hpicture
  have hsequence : expandWithin (RuleTable.empty.insert 5 [.letter 5]) (64 * 1024 * 1024)
      "F+F".toList 0 = .ok ['F', '+', 'F'] := by
    decide +kernel
  cases hsequence.symm.trans hexpand
  cases Config.render_unevenCorner.symm.trans hrender
  refine ⟨⟨stats, hr⟩, _, hdrawings, rfl, rfl, rfl, fun hon => ?_⟩
  -- the end of the first stroke
  have htop : (⟨15, -270⟩ : Point ℝ) ∈ Segment.places
      [(⟨⟨15, 585⟩, ⟨15, -270⟩⟩ : Segment ℝ), ⟨⟨15, -270⟩, ⟨870, -270⟩⟩] := by
    simp [Segment.places]
  have hneg : (0 : ℝ) ≤ -270 := (hon _ htop).2.1
  linarith

end Lindenmayer
