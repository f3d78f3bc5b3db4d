import Lindenmayer.Proofs.Canvas.Rendering
import Lindenmayer.Proofs.Expansion.Limit
import Lindenmayer.Render.Picture

set_option autoImplicit false

/-! # The picture of a configuration

Three descriptions of one picture. `Config.picture` makes it under a checkpoint,
`Config.undisturbedPicture` makes it without one, and `Config.plainPicture` says what it is: the
expanded sequence, rendered, with the figures taken from the rendering, unless a generation is
longer than the limit or the sequence closes a branch that is not open. The first computes the
second unless it is halted (`Config.picture_computes`), and the second is the third for every limit
that can be told apart from no limit (`Config.undisturbedPicture_eq`). -/

namespace Lindenmayer

namespace Config

variable {α σ : Type} [Scalar α] {I J : σ → Prop} {check : Checkpoint σ}

/-- The picture of a configuration when nothing interferes. -/
def undisturbedPicture (c : Config α) (table : RuleTable) : Except Failure (Picture α) := do
  let sequence ← expandWithin table c.maxSymbols c.startSequence.toList c.generations
  let rendering ← c.fit.render sequence
  return c.pictureOf sequence rendering.1 rendering.2

/-- The parts that an undisturbed picture is made of. -/
theorem exists_rendered {c : Config α} {table : RuleTable} {picture : Picture α}
    (h : c.undisturbedPicture table = .ok picture) :
    ∃ sequence placement segments,
      expandWithin table c.maxSymbols c.startSequence.toList c.generations = .ok sequence ∧
      c.fit.render sequence = .ok (placement, segments) ∧
      picture = c.pictureOf sequence placement segments := by
  unfold undisturbedPicture at h
  cases hs : expandWithin table c.maxSymbols c.startSequence.toList c.generations with
  | error failure =>
    rw [hs] at h
    cases h
  | ok sequence =>
    rw [hs] at h
    cases hr : c.fit.render sequence with
    | error failure =>
      simp only [bind, Except.bind, hr] at h
      cases h
    | ok rendering =>
      simp only [bind, Except.bind, hr] at h
      cases h
      exact ⟨sequence, rendering.1, rendering.2, rfl, hr, rfl⟩

/-- **A watched run makes the undisturbed picture**, unless it is halted. -/
theorem picture_computes (hc : check.Keeps I J) (c : Config α) (table : RuleTable) :
    (c.picture table check).Computes (c.undisturbedPicture table) I J := by
  have h := (expandWatched_computes hc table c.maxSymbols c.startSequence.toList
    c.generations).andThen fun sequence _ =>
      (c.fit.measure_computes hc sequence).andThen fun placement _ =>
        (c.fit.draw_computes hc sequence placement).andThen fun trail _ =>
          Watched.Computes.done (c.pictureOf sequence placement trail.segments)
  have hp : c.undisturbedPicture table
      = expandWithin table c.maxSymbols c.startSequence.toList c.generations >>= fun sequence =>
          ((c.fit.turtle.bounds sequence).map (Placement.ofBounds c.fit.frame)) >>= fun placement =>
            (c.fit.scaledTurtle placement).follow .draw sequence (Pose.upAt placement.origin)
              >>= fun trail => .ok (c.pictureOf sequence placement trail.segments) := by
    unfold undisturbedPicture
    refine bind_congr fun sequence => ?_
    rw [Fit.render_eq]
    cases (c.fit.turtle.bounds sequence).map (Placement.ofBounds c.fit.frame) with
    | error failure => rfl
    | ok placement =>
      simp only [Turtle.segments, bind, Except.bind]
      cases (c.fit.scaledTurtle placement).follow .draw sequence (Pose.upAt placement.origin) <;> rfl
  rw [hp]
  exact h

/-- What the picture of a configuration is, said by the parts it is made of. -/
def plainPicture (c : Config α) (table : RuleTable) : Except Failure (Picture α) := do
  let sequence ← withinLimit c.maxSymbols c.generations (expand c.startSequence.toList table)
  let (placement, segments) ← c.fit.render sequence
  return {
    drawing := ⟨c.width, c.height, c.background, c.stroke, segments⟩
    stats := ⟨byteLength sequence, segments.length, pathLength segments, placement⟩ }

theorem undisturbedPicture_eq {c : Config α} (hm : c.maxSymbols < maxLength) (table : RuleTable) :
    c.undisturbedPicture table = c.plainPicture table := by
  unfold undisturbedPicture plainPicture
  rw [expandWithin_eq hm]
  rfl

end Config

end Lindenmayer
