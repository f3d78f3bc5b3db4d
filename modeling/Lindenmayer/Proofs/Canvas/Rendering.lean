import Lindenmayer.Canvas.Fit
import Lindenmayer.Proofs.Turtle.Follow

set_option autoImplicit false

/-! # Rendering a figure

The two walks of a rendering under any checkpoint are the uninterrupted ones unless they are halted
(`Fit.measure_computes`, `Fit.draw_computes`), and `Fit.render` is the second walk at the placement
found by the first (`Fit.render_eq`). -/

namespace Lindenmayer

namespace Fit

variable {α σ : Type} [Scalar α] {I J : σ → Prop} {check : Checkpoint σ}

theorem measure_computes (hc : check.Keeps I J) (fit : Fit α) (sequence : List Char) :
    (fit.measure check sequence).Computes
      ((fit.turtle.bounds sequence).map (Placement.ofBounds fit.frame)) I J := by
  have h := (fit.turtle.walk_computes hc .measure sequence Pose.initial).map
    fun trail => Placement.ofBounds fit.frame trail.bounds
  have hp : (fit.turtle.follow .measure sequence Pose.initial).map
        (fun trail => Placement.ofBounds fit.frame trail.bounds)
      = (fit.turtle.bounds sequence).map (Placement.ofBounds fit.frame) := by
    unfold Turtle.bounds
    cases fit.turtle.follow .measure sequence Pose.initial <;> rfl
  rw [hp] at h
  exact h

/-- A figure that is measured, under whatever checkpoint, gets the placement of its box. -/
theorem bounds_of_measure {fit : Fit α} {sequence : List Char} {s : σ} {placement : Placement α}
    (h : (fit.measure check sequence s).1 = .complete placement) :
    ∃ bounds, fit.turtle.bounds sequence = .ok bounds ∧
      placement = Placement.ofBounds fit.frame bounds := by
  have hplain := (fit.measure_computes check.keeps_trivially sequence).eq_ok trivial h
  cases hbounds : fit.turtle.bounds sequence with
  | error failure =>
    rw [hbounds] at hplain
    cases hplain
  | ok bounds =>
    rw [hbounds] at hplain
    cases hplain
    exact ⟨bounds, rfl, rfl⟩

theorem draw_computes (hc : check.Keeps I J) (fit : Fit α) (sequence : List Char)
    (placement : Placement α) :
    (fit.draw check sequence placement).Computes
      ((fit.scaledTurtle placement).follow .draw sequence (Pose.upAt placement.origin)) I J :=
  (fit.scaledTurtle placement).walk_computes hc .draw sequence (Pose.upAt placement.origin)

/-- A rendering is the second walk at the placement of the first. -/
theorem render_eq (fit : Fit α) (sequence : List Char) :
    fit.render sequence
      = ((fit.turtle.bounds sequence).map (Placement.ofBounds fit.frame)) >>= fun placement =>
          ((fit.scaledTurtle placement).segments sequence (Pose.upAt placement.origin)).map
            fun segments => (placement, segments) := by
  unfold render
  simp only [(fit.measure_computes Checkpoint.uninterrupted_keeps sequence).unwatched]
  cases (fit.turtle.bounds sequence).map (Placement.ofBounds fit.frame) <;> rfl

/-- The two walks that a rendering is made of. -/
theorem render_eq_ok {fit : Fit α} {sequence : List Char} {placement : Placement α}
    {segments : List (Segment α)} (h : fit.render sequence = .ok (placement, segments)) :
    ∃ bounds trail, fit.turtle.bounds sequence = .ok bounds ∧
      placement = Placement.ofBounds fit.frame bounds ∧
      (fit.scaledTurtle placement).follow .draw sequence (Pose.upAt placement.origin) = .ok trail ∧
      segments = trail.segments := by
  rw [render_eq] at h
  cases hbounds : fit.turtle.bounds sequence with
  | error failure =>
    rw [hbounds] at h
    cases h
  | ok bounds =>
    simp only [hbounds, Except.map, bind, Except.bind, Turtle.segments] at h
    cases hdraw : (fit.scaledTurtle (Placement.ofBounds fit.frame bounds)).follow .draw sequence
        (Pose.upAt (Placement.ofBounds fit.frame bounds).origin) with
    | error failure =>
      rw [hdraw] at h
      cases h
    | ok trail =>
      rw [hdraw] at h
      cases h
      exact ⟨bounds, trail, rfl, rfl, hdraw, rfl⟩

end Fit

end Lindenmayer
