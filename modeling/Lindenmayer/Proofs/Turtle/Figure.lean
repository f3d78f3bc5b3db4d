import Lindenmayer.Proofs.Turtle.Follow

set_option autoImplicit false

/-! # Figures

What the strokes of a drawing walk say about the figure. Measuring finds the box around their ends
(`Turtle.bounds_eq_map_segments`); every stroke begins where the walk started or where some stroke
ended (`Turtle.start_mem_of_segments`), and is one move (`Turtle.exists_move_of_segments`); and a
map of the plane that turns moves of one length into moves of another turns the strokes of one
turtle into those of the other (`Turtle.segments_image`). All of this is about any scalars: it says
which places a walk comes to, not what their coordinates are. -/

namespace Lindenmayer

variable {α : Type} [Scalar α]

/-! ## Measuring is drawing without strokes -/

/-- The box around the ends of some strokes. -/
def Segment.bounds (segments : List (Segment α)) : BoundingBox α :=
  segments.foldl (fun box s => box.extend s.finish) BoundingBox.origin

theorem Segment.bounds_concat (segments : List (Segment α)) (s : Segment α) :
    Segment.bounds (segments ++ [s]) = (Segment.bounds segments).extend s.finish := by
  simp [Segment.bounds]

/-- The trail that measuring leaves where drawing leaves `t`. -/
def Trail.measured (t : Trail α) : Trail α :=
  { t with bounds := Segment.bounds t.segments, strokes := [] }

theorem Trail.measured_advance (turtle : Turtle α) (t : Trail α) :
    t.measured.advance turtle .measure = (t.advance turtle .draw).measured := by
  simp [Trail.advance, Trail.measured, Trail.segments, Segment.bounds_concat]

theorem Trail.act_measured (turtle : Turtle α) (t : Trail α) (command : Command) :
    t.measured.act turtle .measure command = (t.act turtle .draw command).map Trail.measured := by
  cases command with
  | forward => exact congrArg some (t.measured_advance turtle)
  | turn rotation => rfl
  | push => rfl
  | pop =>
    obtain ⟨pose, branches, bounds, strokes, moves, maxDepth, read⟩ := t
    cases branches <;> rfl
  | ignore => rfl

theorem Trail.step_measured (turtle : Turtle α) (t : Trail α) (c : Char) :
    t.measured.step turtle .measure c = (t.step turtle .draw c).map Trail.measured := by
  unfold Trail.step
  rw [t.act_measured turtle]
  cases t.act turtle .draw (Command.ofChar c) <;> rfl

/-- **The two kinds of walk are one walk**: measuring leaves the box around the strokes that drawing
leaves, and fails where drawing fails. -/
theorem Turtle.follow_measure (turtle : Turtle α) (sequence : List Char) (pose : Pose α) :
    turtle.follow .measure sequence pose
      = (turtle.follow .draw sequence pose).map Trail.measured := by
  rw [follow_eq_foldlM, follow_eq_foldlM]
  exact foldlM_map Trail.measured (Trail.step_measured turtle) sequence (Trail.start pose)

theorem Turtle.bounds_eq_map_segments (turtle : Turtle α) (sequence : List Char) :
    turtle.bounds sequence = (turtle.segments sequence Pose.initial).map Segment.bounds := by
  unfold bounds segments
  rw [follow_measure]
  cases turtle.follow .draw sequence Pose.initial <;> rfl

/-! ## Where strokes begin -/

/-- The places a drawing walk from `p` has come to. -/
def Trail.places (p : Point α) (t : Trail α) : List (Point α) := p :: t.strokes.map Segment.finish

/-- A drawing walk has its turtle, its saved poses and the beginnings of its strokes at places that
it has come to. -/
structure Trail.Rooted (p : Point α) (t : Trail α) : Prop where
  turtle : t.pose.position ∈ t.places p
  branches : ∀ pose ∈ t.branches, pose.position ∈ t.places p
  starts : ∀ s ∈ t.strokes, s.start ∈ t.places p

theorem Trail.Rooted.start (pose : Pose α) : (Trail.start pose).Rooted pose.position where
  turtle := List.mem_cons_self
  branches _ h := by cases h
  starts _ h := by cases h

/-- A walk that moves has come to one place more. -/
theorem Trail.Rooted.advance {p : Point α} {t : Trail α} (h : t.Rooted p) (turtle : Turtle α) :
    (t.advance turtle .draw).Rooted p := by
  have hmore : ∀ q ∈ t.places p, q ∈ (t.advance turtle .draw).places p := by
    intro q hq
    rcases List.mem_cons.1 hq with rfl | hq
    · exact List.mem_cons_self
    · exact List.mem_cons_of_mem _ (List.mem_cons_of_mem _ hq)
  refine ⟨List.mem_cons_of_mem _ List.mem_cons_self, fun pose hpose => ?_, fun s hs => ?_⟩
  · exact hmore _ (h.branches pose hpose)
  · rcases List.mem_cons.1 hs with rfl | hs
    · exact hmore _ h.turtle
    · exact hmore _ (h.starts s hs)

theorem Trail.Rooted.act {p : Point α} {t t' : Trail α} (h : t.Rooted p) {turtle : Turtle α}
    {command : Command} (ht : t.act turtle .draw command = some t') : t'.Rooted p := by
  cases command with
  | forward =>
    cases ht
    exact h.advance turtle
  | turn rotation =>
    cases ht
    exact ⟨h.turtle, h.branches, h.starts⟩
  | push =>
    cases ht
    refine ⟨h.turtle, fun pose hpose => ?_, h.starts⟩
    rcases List.mem_cons.1 hpose with rfl | hpose
    · exact h.turtle
    · exact h.branches pose hpose
  | pop =>
    obtain ⟨saved, branches, hsaved, rfl⟩ := act_pop_eq_some_iff.1 ht
    have hbranches : ∀ pose ∈ saved :: branches, pose.position ∈ t.places p := hsaved ▸ h.branches
    exact ⟨hbranches saved List.mem_cons_self,
      fun pose hpose => hbranches pose (List.mem_cons_of_mem _ hpose), h.starts⟩
  | ignore =>
    cases ht
    exact h

theorem Trail.Rooted.step {p : Point α} {t t' : Trail α} (h : t.Rooted p) {turtle : Turtle α}
    {c : Char} (ht : t.step turtle .draw c = .ok t') : t'.Rooted p := by
  obtain ⟨t₁, hact, rfl⟩ := step_eq_ok_iff.1 ht
  have h₁ := h.act hact
  exact ⟨h₁.turtle, h₁.branches, h₁.starts⟩

theorem Turtle.start_mem_of_segments {turtle : Turtle α} {sequence : List Char} {pose : Pose α}
    {segments : List (Segment α)} (h : turtle.segments sequence pose = .ok segments) :
    ∀ s ∈ segments, s.start ∈ pose.position :: segments.map Segment.finish := by
  obtain ⟨t, hf, rfl⟩ := segments_eq_ok h
  rw [follow_eq_foldlM] at hf
  -- the places a walk has come to only become more, so the invariant holds at the end for all
  have hr := foldlM_invariant (Trail.Rooted pose.position)
    (fun _ _ _ ht hstep => ht.step hstep) sequence (Trail.Rooted.start pose) hf
  intro s hs
  simpa [Trail.places, Trail.segments] using hr.starts s (List.mem_reverse.1 hs)

/-! ## What drawing leaves -/

theorem Trail.act_draw {turtle : Turtle α} {t t' : Trail α} {command : Command}
    (h : t.act turtle .draw command = some t') :
    t'.bounds = t.bounds ∧ (t'.strokes = t.strokes ∨ t'.strokes =
      ⟨t.pose.position, t.pose.position.move t.pose.direction turtle.stepLength⟩ :: t.strokes) := by
  cases command with
  | forward =>
    cases h
    exact ⟨rfl, .inr rfl⟩
  | pop =>
    obtain ⟨saved, branches, -, rfl⟩ := act_pop_eq_some_iff.1 h
    exact ⟨rfl, .inl rfl⟩
  | _ =>
    cases h
    exact ⟨rfl, .inl rfl⟩

/-- A character leaves the box alone when drawn, and leaves no stroke or that of one move. -/
theorem Trail.step_draw {turtle : Turtle α} {t t' : Trail α} {c : Char}
    (h : t.step turtle .draw c = .ok t') :
    t'.bounds = t.bounds ∧ (t'.strokes = t.strokes ∨ t'.strokes =
      ⟨t.pose.position, t.pose.position.move t.pose.direction turtle.stepLength⟩ :: t.strokes) := by
  obtain ⟨t₁, hact, rfl⟩ := step_eq_ok_iff.1 h
  obtain ⟨hbounds, hstrokes⟩ := act_draw hact
  exact ⟨hbounds, hstrokes⟩

/-- Drawing leaves the box alone. -/
theorem Turtle.bounds_of_draw {turtle : Turtle α} {sequence : List Char} {pose : Pose α}
    {trail : Trail α} (h : turtle.follow .draw sequence pose = .ok trail) :
    trail.bounds = BoundingBox.origin := by
  rw [follow_eq_foldlM] at h
  exact foldlM_invariant (fun t => t.bounds = BoundingBox.origin)
    (fun _ _ _ ht hstep => (Trail.step_draw hstep).1.trans ht) sequence rfl h

/-- Every stroke of a turtle is one move of it. -/
theorem Turtle.exists_move_of_segments {turtle : Turtle α} {sequence : List Char} {pose : Pose α}
    {segments : List (Segment α)} (h : turtle.segments sequence pose = .ok segments) :
    ∀ s ∈ segments, ∃ heading,
      s.finish = s.start.move (Point.direction heading) turtle.stepLength := by
  obtain ⟨t, hf, rfl⟩ := segments_eq_ok h
  rw [follow_eq_foldlM] at hf
  have hmoves := foldlM_invariant
    (fun t : Trail α => ∀ s ∈ t.strokes, ∃ heading,
      s.finish = s.start.move (Point.direction heading) turtle.stepLength)
    (fun t c t' ht hstep s hs => by
      rcases (Trail.step_draw hstep).2 with hsame | hmore
      · exact ht s (hsame ▸ hs)
      · rw [hmore] at hs
        rcases List.mem_cons.1 hs with rfl | hs
        · exact ⟨t.pose.heading, rfl⟩
        · exact ht s hs)
    sequence (fun s hs => by cases hs) hf
  intro s hs
  exact hmoves s (List.mem_reverse.1 hs)

/-! ## Maps of the plane -/

/-- The stroke between the images of the ends. -/
def Segment.image (f : Point α → Point α) (s : Segment α) : Segment α := ⟨f s.start, f s.finish⟩

/-- The pose at the image of the position, with the same heading. -/
def Pose.image (f : Point α → Point α) (pose : Pose α) : Pose α :=
  { pose with position := f pose.position }

/-- The trail with all places in it moved by a map. -/
def Trail.image (f : Point α → Point α) (t : Trail α) : Trail α :=
  { t with
    pose := t.pose.image f
    branches := t.branches.map (Pose.image f)
    strokes := t.strokes.map (Segment.image f) }

variable {f : Point α → Point α} {turtle : Turtle α} {length : α}

theorem Trail.act_image
    (hf : ∀ p d, f (p.move d turtle.stepLength) = (f p).move d length) (t : Trail α)
    (command : Command) :
    (t.image f).act { turtle with stepLength := length } .draw command
      = (t.act turtle .draw command).map (Trail.image f) := by
  cases command with
  | forward =>
    simp [Trail.act, Trail.advance, Trail.image, Pose.image, Pose.advance, Pose.direction,
      Segment.image, hf]
  | turn rotation => rfl
  | push => simp [Trail.act, Trail.image]
  | pop =>
    obtain ⟨pose, branches, bounds, strokes, moves, maxDepth, read⟩ := t
    cases branches <;> rfl
  | ignore => rfl

theorem Trail.step_image
    (hf : ∀ p d, f (p.move d turtle.stepLength) = (f p).move d length) (t : Trail α) (c : Char) :
    (t.image f).step { turtle with stepLength := length } .draw c
      = (t.step turtle .draw c).map (Trail.image f) := by
  unfold Trail.step
  rw [t.act_image hf]
  cases t.act turtle .draw (Command.ofChar c) <;> rfl

/-- **The strokes of a turtle with another step length are the image of its strokes**, under any map
that turns moves of the one length into moves of the other. -/
theorem Turtle.segments_image
    (hf : ∀ p d, f (p.move d turtle.stepLength) = (f p).move d length) (sequence : List Char)
    (pose : Pose α) :
    ({ turtle with stepLength := length } : Turtle α).segments sequence (pose.image f)
      = (turtle.segments sequence pose).map (List.map (Segment.image f)) := by
  have hfold := foldlM_map (Trail.image f) (Trail.step_image hf) sequence (Trail.start pose)
  unfold segments
  rw [follow_eq_foldlM, follow_eq_foldlM]
  refine (congrArg _ hfold).trans ?_
  cases sequence.foldlM (Trail.step turtle .draw) (Trail.start pose) with
  | error failure => rfl
  | ok t => exact congrArg Except.ok List.map_reverse.symm

end Lindenmayer
