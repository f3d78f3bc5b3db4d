import Lindenmayer.Proofs.Watched
import Lindenmayer.Turtle.Walk

set_option autoImplicit false

/-! # Uninterrupted walks

Without interruption a walk is a fold of `Trail.step` over the sequence (`Turtle.follow_eq_foldlM`),
and a watched walk is that fold unless it is halted (`Turtle.walk_computes`). What one step does to
a trail is carried to whole walks by the rules for such folds: `foldlM_invariant` for what a step
keeps, `foldlM_reads` for what it makes of the sequence read so far, `foldlM_map` for a change of
trails that steps do not see, and `foldlM_simulates` for two walks side by side. -/

namespace Lindenmayer

/-! ## Folds that may fail -/

section Fold

variable {ε τ υ ι : Type}

/-- What every successful step makes of a property of the items before it, a successful fold makes
of it. -/
theorem foldlM_reads {step : τ → ι → Except ε τ} (P : List ι → τ → Prop)
    (hstep : ∀ u t i t', P u t → step t i = .ok t' → P (u ++ [i]) t') (items : List ι)
    {u : List ι} {t t' : τ} (ht : P u t) (h : items.foldlM step t = .ok t') :
    P (u ++ items) t' := by
  induction items generalizing u t with
  | nil =>
    cases h
    rwa [List.append_nil]
  | cons i items ih =>
    obtain ⟨t₁, hi, hrest⟩ := foldlM_cons_eq_ok_iff.1 h
    have hread := ih (hstep u t i t₁ ht hi) hrest
    rwa [List.append_assoc] at hread

/-- What every successful step keeps, a successful fold keeps. -/
theorem foldlM_invariant {step : τ → ι → Except ε τ} (P : τ → Prop)
    (hstep : ∀ t i t', P t → step t i = .ok t' → P t') (items : List ι) {t t' : τ} (ht : P t)
    (h : items.foldlM step t = .ok t') : P t' :=
  foldlM_reads (fun _ => P) (fun _ => hstep) items (u := []) ht h

/-- When one of two folds matches every successful step of the other, it matches the whole of it. -/
theorem foldlM_simulates (step : τ → ι → Except ε τ) (step' : υ → ι → Except ε υ) (R : τ → υ → Prop)
    (hstep : ∀ t t' i t₁, R t t' → step t i = .ok t₁ → ∃ t₁', step' t' i = .ok t₁' ∧ R t₁ t₁')
    (items : List ι) {t t₁ : τ} {t' : υ} (ht : R t t') (h : items.foldlM step t = .ok t₁) :
    ∃ t₁', items.foldlM step' t' = .ok t₁' ∧ R t₁ t₁' := by
  induction items generalizing t t' with
  | nil =>
    cases h
    exact ⟨t', rfl, ht⟩
  | cons i items ih =>
    obtain ⟨t₂, hi, hrest⟩ := foldlM_cons_eq_ok_iff.1 h
    obtain ⟨t₂', hi', ht₂⟩ := hstep t t' i t₂ ht hi
    obtain ⟨t₁', hrest', ht₁⟩ := ih ht₂ hrest
    exact ⟨t₁', foldlM_cons_eq_ok_iff.2 ⟨t₂', hi', hrest'⟩, ht₁⟩

/-- A change of values that commutes with every step commutes with the fold. -/
theorem foldlM_map {step : τ → ι → Except ε τ} {step' : υ → ι → Except ε υ} (f : τ → υ)
    (hstep : ∀ t i, step' (f t) i = (step t i).map f) (items : List ι) (t : τ) :
    items.foldlM step' (f t) = (items.foldlM step t).map f := by
  induction items generalizing t with
  | nil => rfl
  | cons i items ih =>
    rw [List.foldlM_cons, List.foldlM_cons, hstep]
    cases step t i with
    | error e => rfl
    | ok t₁ => exact ih t₁

end Fold

/-! ## One character -/

namespace Trail

variable {α : Type} [Scalar α] {turtle : Turtle α} {mode : Mode} {t t' : Trail α}

/-- A branch is closed by taking up the pose saved for it. -/
theorem act_pop_eq_some_iff :
    t.act turtle mode .pop = some t' ↔
      ∃ saved branches, t.branches = saved :: branches ∧
        t' = { t with pose := saved, branches := branches } := by
  unfold act
  cases t.branches with
  | nil => simp
  | cons saved branches =>
    constructor
    · rintro ⟨⟩
      exact ⟨saved, branches, rfl, rfl⟩
    · rintro ⟨_, _, ⟨⟩, rfl⟩
      rfl

/-- A character is read by doing what it commands and counting it. -/
theorem step_eq_ok_iff {c : Char} :
    t.step turtle mode c = .ok t' ↔
      ∃ t₁, t.act turtle mode (Command.ofChar c) = some t₁ ∧
        t' = { t₁ with read := t₁.read + 1 } := by
  unfold step
  cases t.act turtle mode (Command.ofChar c) with
  | none => simp
  | some t₁ => simp [eq_comm]

end Trail

/-! ## Walks -/

namespace Turtle

variable {α σ : Type} [Scalar α] {I J : σ → Prop} {check : Checkpoint σ}

theorem walk_computes_foldlM (hc : check.Keeps I J) (turtle : Turtle α) (mode : Mode)
    (sequence : List Char) (pose : Pose α) :
    (turtle.walk mode check sequence pose).Computes
      (sequence.foldlM (Trail.step turtle mode) (Trail.start pose)) I J :=
  Watched.Computes.ofSweep hc (Trail.step turtle mode) sequence (Trail.start pose)

theorem follow_eq_foldlM (turtle : Turtle α) (mode : Mode) (sequence : List Char) (pose : Pose α) :
    turtle.follow mode sequence pose
      = sequence.foldlM (Trail.step turtle mode) (Trail.start pose) :=
  (turtle.walk_computes_foldlM Checkpoint.uninterrupted_keeps mode sequence pose).unwatched _

/-- **Watching a walk changes nothing**, unless it is halted. -/
theorem walk_computes (hc : check.Keeps I J) (turtle : Turtle α) (mode : Mode)
    (sequence : List Char) (pose : Pose α) :
    (turtle.walk mode check sequence pose).Computes (turtle.follow mode sequence pose) I J := by
  rw [follow_eq_foldlM]
  exact turtle.walk_computes_foldlM hc mode sequence pose

/-- The strokes of a sequence are those of a drawing walk. -/
theorem segments_eq_ok {turtle : Turtle α} {sequence : List Char} {pose : Pose α}
    {segments : List (Segment α)} (h : turtle.segments sequence pose = .ok segments) :
    ∃ trail, turtle.follow .draw sequence pose = .ok trail ∧ trail.segments = segments := by
  unfold Turtle.segments at h
  cases hf : turtle.follow .draw sequence pose with
  | error failure =>
    rw [hf] at h
    cases h
  | ok trail =>
    rw [hf] at h
    cases h
    exact ⟨trail, rfl, rfl⟩

end Turtle

end Lindenmayer
