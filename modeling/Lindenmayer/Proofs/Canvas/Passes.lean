import Lindenmayer.Proofs.Canvas.Rendering
import Lindenmayer.Proofs.Geometry.Exact
import Lindenmayer.Proofs.Turtle.Figure
import Lindenmayer.Proofs.Turtle.Outcome

set_option autoImplicit false

/-! # The two passes take one course

A figure is walked twice, once to measure it and once to draw it elsewhere with another step length.
That is right only if both walks take the same decisions. They do: where the turtle is and how far
it moves never matters for where it looks (`Trail.Parallel`), and what else there is to decide
depends on the sequence alone. So the course of a walk is told by the sequence, the angle and the
first heading (`Turtle.course_eq`), and a figure that can be measured can be drawn anywhere
(`Fit.draw_of_measure`). -/

namespace Lindenmayer

variable {α : Type} [Scalar α]

/-! ## Walks with the same headings -/

/-- Two walks look in the same direction, and would do so after closing any number of branches. -/
structure Trail.Parallel (t t' : Trail α) : Prop where
  heading : t'.pose.heading = t.pose.heading
  branches : t'.branches.map Pose.heading = t.branches.map Pose.heading

namespace Trail.Parallel

variable {t t' t₁ : Trail α} {turtle turtle' : Turtle α} {mode : Mode}

theorem act (h : t.Parallel t') (hangle : turtle'.angleStep = turtle.angleStep) (mode' : Mode)
    {command : Command} (ht : t.act turtle mode command = some t₁) :
    ∃ t₁', t'.act turtle' mode' command = some t₁' ∧ t₁.Parallel t₁' := by
  cases command with
  | forward =>
    cases ht
    refine ⟨_, rfl, ?_⟩
    cases mode <;> cases mode' <;> exact ⟨h.heading, h.branches⟩
  | turn rotation =>
    cases ht
    refine ⟨_, rfl, ?_, h.branches⟩
    simp only [Pose.turn, h.heading, hangle]
  | push =>
    cases ht
    refine ⟨_, rfl, h.heading, ?_⟩
    simp only [List.map_cons, h.heading, h.branches]
  | pop =>
    obtain ⟨saved, branches, hbranches, rfl⟩ := act_pop_eq_some_iff.1 ht
    have hmap := h.branches
    rw [hbranches, List.map_cons] at hmap
    obtain ⟨saved', branches', hbranches', hsaved, hrest⟩ := List.map_eq_cons_iff.1 hmap
    exact ⟨_, act_pop_eq_some_iff.2 ⟨saved', branches', hbranches', rfl⟩, hsaved, hrest⟩
  | ignore =>
    cases ht
    exact ⟨t', rfl, h⟩

theorem step (h : t.Parallel t') (hangle : turtle'.angleStep = turtle.angleStep) (mode' : Mode)
    {c : Char} (ht : t.step turtle mode c = .ok t₁) :
    ∃ t₁', t'.step turtle' mode' c = .ok t₁' ∧ t₁.Parallel t₁' := by
  obtain ⟨t₂, hact, rfl⟩ := Trail.step_eq_ok_iff.1 ht
  obtain ⟨t₂', hact', h₂⟩ := h.act hangle mode' hact
  exact ⟨_, Trail.step_eq_ok_iff.2 ⟨t₂', hact', rfl⟩, h₂.heading, h₂.branches⟩

end Trail.Parallel

/-! ## The course of a walk -/

/-- What a walk comes to, places left aside. -/
def Summary.course (s : Summary α) : α × Nat × Nat × Nat :=
  (s.pose.heading, s.moves, s.openBranches, s.maxDepth)

section Course

variable {turtle turtle' : Turtle α} {mode : Mode} {pose pose' : Pose α} {sequence : List Char}

theorem Turtle.heading_eq (hangle : turtle'.angleStep = turtle.angleStep)
    (hheading : pose'.heading = pose.heading) {mode' : Mode} {trail trail' : Trail α}
    (h : sequence.foldlM (Trail.step turtle mode) (Trail.start pose) = .ok trail)
    (h' : sequence.foldlM (Trail.step turtle' mode') (Trail.start pose') = .ok trail') :
    trail'.pose.heading = trail.pose.heading := by
  have hstart : (Trail.start pose).Parallel (Trail.start pose') := ⟨hheading, rfl⟩
  obtain ⟨t, ht, hparallel⟩ := foldlM_simulates (Trail.step turtle mode)
    (Trail.step turtle' mode') Trail.Parallel
    (fun _ _ _ _ hp hstep => hp.step hangle mode' hstep) sequence hstart h
  cases ht.symm.trans h'
  exact hparallel.heading

/-- **The course of a walk** is told by the sequence, the angle and the first heading: it is the
same from any place, with any step length, measuring or drawing. -/
theorem Turtle.course_eq (hangle : turtle'.angleStep = turtle.angleStep)
    (hheading : pose'.heading = pose.heading) (mode mode' : Mode) (sequence : List Char) :
    (turtle'.walk mode' Checkpoint.uninterrupted sequence pose' ()).1.map
        (fun t => t.summary.course)
      = (turtle.walk mode Checkpoint.uninterrupted sequence pose ()).1.map
        (fun t => t.summary.course) := by
  by_cases h : ∀ u, u <+: sequence → 0 ≤ level u
  · obtain ⟨trail, hfold, hwalk, hrecords, hcounts⟩ := turtle.exists_walk_counts mode pose h
    obtain ⟨trail', hfold', hwalk', hrecords', hcounts'⟩ := turtle'.exists_walk_counts mode' pose' h
    have hopen : trail'.branches.length = trail.branches.length := by
      have hlevel := hrecords.branches
      have hlevel' := hrecords'.branches
      omega
    rw [hwalk, hwalk']
    simp only [Ending.map, Summary.course, Trail.summary, hopen,
      Turtle.heading_eq hangle hheading hfold hfold', hcounts.moves, hcounts'.moves,
      hrecords.maxDepth, hrecords'.maxDepth]
  · obtain ⟨u, v, rfl, hlevel, hparts⟩ := exists_dip h
    rw [turtle.walk_eq_failed mode pose hparts hlevel v,
      turtle'.walk_eq_failed mode' pose' hparts hlevel v]

end Course

/-! ## From measuring to drawing -/

/-- A figure that is measured, under whatever checkpoint, never goes below level 0. -/
theorem Fit.level_nonneg_of_measure {fit : Fit α} {sequence : List Char} {σ : Type}
    {check : Checkpoint σ} {s : σ} {placement : Placement α}
    (h : (fit.measure check sequence s).1 = .complete placement) :
    ∀ u, u <+: sequence → 0 ≤ level u := by
  by_contra hdip
  obtain ⟨u, v, rfl, hlevel, hparts⟩ := exists_dip hdip
  have hfailed : fit.turtle.bounds (u ++ ']' :: v) = .error (.stackUnderflow u.length) := by
    unfold Turtle.bounds
    rw [fit.turtle.follow_eq_error .measure Pose.initial hparts hlevel v]
    rfl
  obtain ⟨bounds, hbounds, -⟩ := Fit.bounds_of_measure h
  cases hbounds.symm.trans hfailed

/-- **A figure that was measured can be drawn**, wherever it is placed: the drawing walk is
completed and leaves a stroke for every letter, and no checkpoint makes it fail. -/
theorem Fit.draw_of_measure {fit : Fit α} {sequence : List Char} {σ : Type}
    {check : Checkpoint σ} {s : σ} {placement₀ : Placement α}
    (h : (fit.measure check sequence s).1 = .complete placement₀) (placement : Placement α) :
    (∃ trail, fit.draw Checkpoint.uninterrupted sequence placement () = (.complete trail, ()) ∧
        trail.segments.length = letters sequence) ∧
      ∀ {τ : Type} (check' : Checkpoint τ) (s' : τ) (failure : Failure),
        (fit.draw check' sequence placement s').1 ≠ .failed failure := by
  have hlevel := Fit.level_nonneg_of_measure h
  obtain ⟨trail, hfold, hwalk, -, hcounts⟩ := (fit.scaledTurtle placement).exists_walk_counts .draw
    (Pose.upAt placement.origin) hlevel
  refine ⟨⟨trail, hwalk, List.length_reverse.trans (hcounts.strokes rfl)⟩, ?_⟩
  intro τ check' s' failure hfailed
  have hcomputes := fit.draw_computes check'.keeps_trivially sequence placement s' trivial
  rw [Turtle.follow_eq_foldlM, hfold] at hcomputes
  generalize fit.draw check' sequence placement s' = outcome at hfailed hcomputes
  cases hcomputes with
  | complete _ _ => cases hfailed
  | failed hplain _ => cases hplain
  | interrupted _ => cases hfailed

/-- **The two passes agree.** From any pose, measuring and drawing fail at the same place or both
come to the same end; the box measured is that around the ends of the strokes drawn, in order, and
drawing keeps the box it began with. The course of a walk is the same for every turtle with that
angle and every pose with that heading. So once a figure is measured, it is drawn at any placement
with one stroke for every letter. -/
theorem Fit.passes_agree (fit : Fit α) (sequence : List Char) (pose : Pose α) :
    let pass := fun (turtle : Turtle α) (mode : Mode) (pose : Pose α) =>
      (turtle.walk mode Checkpoint.uninterrupted sequence pose ()).1
    ((∃ position, pass fit.turtle .measure pose = .failed (.stackUnderflow position) ∧
          pass fit.turtle .draw pose = .failed (.stackUnderflow position)) ∨
        ∃ measured drawn, pass fit.turtle .measure pose = .complete measured ∧
          pass fit.turtle .draw pose = .complete drawn ∧
          measured.summary = { drawn.summary with
            bounds := drawn.segments.foldl (fun box s => box.extend s.finish)
              BoundingBox.origin } ∧
          drawn.summary.bounds = BoundingBox.origin) ∧
      (∀ (turtle : Turtle α) (mode mode' : Mode) (pose' : Pose α),
        turtle.angleStep = fit.turtle.angleStep → pose'.heading = pose.heading →
          (pass turtle mode' pose').map (fun t => t.summary.course)
            = (pass fit.turtle mode pose).map fun t => t.summary.course) ∧
      ∀ {σ : Type} (check : Checkpoint σ) (s : σ) (placement₀ : Placement α),
        (fit.measure check sequence s).1 = .complete placement₀ → ∀ placement,
          (∃ trail,
              fit.draw Checkpoint.uninterrupted sequence placement () = (.complete trail, ()) ∧
              trail.segments.length = letters sequence) ∧
            ∀ {τ : Type} (check' : Checkpoint τ) (s' : τ) (failure : Failure),
              (fit.draw check' sequence placement s').1 ≠ .failed failure := by
  intro pass
  refine ⟨?_, fun turtle mode mode' pose' hangle hheading =>
    Turtle.course_eq hangle hheading mode mode' sequence,
    fun check s placement₀ h placement => Fit.draw_of_measure h placement⟩
  have hmeasure : pass fit.turtle .measure pose
      = (pass fit.turtle .draw pose).map Trail.measured := by
    simp only [pass, Turtle.walk_uninterrupted, Turtle.follow_measure, Ending.ofExcept_map]
  by_cases h : ∀ u, u <+: sequence → 0 ≤ level u
  · obtain ⟨drawn, hfold, hwalk, -, -⟩ := fit.turtle.exists_walk_counts .draw pose h
    have hdrawn : pass fit.turtle .draw pose = .complete drawn := congrArg Prod.fst hwalk
    have hmeasured : pass fit.turtle .measure pose = .complete drawn.measured := by
      rw [hmeasure, hdrawn]
      rfl
    rw [← Turtle.follow_eq_foldlM] at hfold
    exact .inr ⟨drawn.measured, drawn, hmeasured, hdrawn, rfl, Turtle.bounds_of_draw hfold⟩
  · obtain ⟨u, v, rfl, hlevel, hparts⟩ := exists_dip h
    have hdrawn : pass fit.turtle .draw pose = .failed (.stackUnderflow u.length) :=
      congrArg Prod.fst (fit.turtle.walk_eq_failed .draw pose hparts hlevel v)
    have hmeasured : pass fit.turtle .measure pose = .failed (.stackUnderflow u.length) := by
      rw [hmeasure, hdrawn]
      rfl
    exact .inl ⟨u.length, hmeasured, hdrawn⟩

/-- A figure with a branch is measured, and so is drawn at any placement with three strokes. A
turtle with another step length takes the same course from elsewhere. -/
theorem Fit.branched_passes_agree :
    let _ := Scalar.quarterTurns
    let fit : Fit ℚ := ⟨⟨90, 10⟩, ⟨800, 600, 15⟩⟩
    let figure := ['F', '[', '+', 'F', ']', 'F']
    (∀ placement, ∃ trail, fit.draw Checkpoint.uninterrupted figure placement ()
        = (.complete trail, ()) ∧ trail.segments.length = 3) ∧
      ((⟨90, 7⟩ : Turtle ℚ).walk .draw Checkpoint.uninterrupted figure (Pose.upAt ⟨3, 5⟩) ()).1.map
          (fun t => t.summary.course) = .complete (-90, 3, 0, 1) := by
  intro _ fit figure
  obtain ⟨-, hcourse, hdraw⟩ := Fit.passes_agree fit figure Pose.initial
  have hmeasured : (fit.measure Checkpoint.uninterrupted figure ()).1
      = .complete ⟨⟨⟨0, -20⟩, ⟨10, 0⟩⟩, ⟨57 / 2, 57 / 2⟩, ⟨15, 585⟩⟩ := by
    decide +kernel
  have hwalk : ((fit.turtle.walk .measure Checkpoint.uninterrupted figure Pose.initial ()).1.map
      fun t => t.summary.course) = .complete (-90, 3, 0, 1) := by
    decide +kernel
  refine ⟨fun placement => (hdraw _ _ _ hmeasured placement).1, ?_⟩
  exact (hcourse ⟨90, 7⟩ .measure .draw (Pose.upAt ⟨3, 5⟩) rfl rfl).trans hwalk

end Lindenmayer
