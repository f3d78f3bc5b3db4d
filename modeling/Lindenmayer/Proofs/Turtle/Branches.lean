import Lindenmayer.Proofs.Nesting
import Lindenmayer.Proofs.Turtle.Follow

set_option autoImplicit false

/-! # Branches of a walk

The branches that a walk has open are those that the text read so far leaves open: the number of
saved poses is the level of that text, and the greatest number of them its nesting depth
(`Trail.Records`). One character keeps this, unless it closes a branch and none is open
(`Trail.Records.step`). So a walk over a text that is never below level 0 is completed
(`Turtle.exists_walk`), whatever the turtle, the pose it starts from and the kind of walk. -/

namespace Lindenmayer

/-! ## Characters and commands -/

/-- The number of branches that a command opens or, when negative, closes. -/
def Command.level : Command → Int
  | .push => 1
  | .pop => -1
  | _ => 0

/-- What a command does to the branches is what its character does to the level. -/
theorem level_singleton (c : Char) : level [c] = (Command.ofChar c).level := by
  unfold Command.ofChar
  cases hs : Symbol.ofChar? c with
  | none =>
    refine level_eq_zero ?_
    intro d hd
    rw [List.mem_singleton.1 hd]
    constructor <;> rintro rfl <;> cases hs
  | some s =>
    rw [← Symbol.toChar_eq_of_ofChar? hs]
    cases s with
    | letter l =>
      refine level_eq_zero ?_
      intro d hd
      rw [List.mem_singleton.1 hd]
      exact ⟨l.toChar_ne (by decide), l.toChar_ne (by decide)⟩
    | plus => rfl
    | minus => rfl
    | openBracket => rfl
    | closeBracket => rfl

variable {α : Type}

/-! ## One character -/

/-- A walk has open what the text `u` leaves open, and its greatest depth is that of `u`. -/
structure Trail.Records (u : List Char) (t : Trail α) : Prop where
  branches : (t.branches.length : Int) = level u
  maxDepth : t.maxDepth = nesting u

namespace Trail.Records

variable {u : List Char} {t : Trail α}

/-- A character that opens no branch leaves the greatest depth as it is. -/
theorem of_le (h : t.Records u) {c : Char} {t' : Trail α} (hdepth : t'.maxDepth = t.maxDepth)
    (hbranches : (t'.branches.length : Int) = level (u ++ [c]))
    (hle : t'.branches.length ≤ t.branches.length) : t'.Records (u ++ [c]) := by
  refine ⟨hbranches, ?_⟩
  have hlevel := h.branches
  rw [hdepth, h.maxDepth, nesting_concat_of_level_le (by omega)]

variable [Scalar α]

theorem start (pose : Pose α) : (Trail.start pose).Records [] where
  branches := rfl
  maxDepth := rfl

theorem act (h : t.Records u) (turtle : Turtle α) (mode : Mode) {c : Char} {command : Command}
    (hlevel : level (u ++ [c]) = level u + command.level) (hc : 0 ≤ level (u ++ [c])) :
    ∃ t', t.act turtle mode command = some t' ∧ t'.Records (u ++ [c]) := by
  have hbranches := h.branches
  cases command with
  | forward =>
    simp only [Command.level, Int.add_zero] at hlevel
    refine ⟨t.advance turtle mode, rfl, ?_⟩
    cases mode <;> exact h.of_le rfl (hbranches.trans hlevel.symm) (Nat.le_refl _)
  | turn rotation =>
    simp only [Command.level, Int.add_zero] at hlevel
    exact ⟨_, rfl, h.of_le rfl (hbranches.trans hlevel.symm) (Nat.le_refl _)⟩
  | push =>
    simp only [Command.level] at hlevel
    refine ⟨_, rfl, ?_, ?_⟩
    · simp only [List.length_cons]
      omega
    · rw [nesting_concat, ← h.maxDepth, hlevel, ← hbranches]
      rfl
  | pop =>
    simp only [Command.level] at hlevel
    obtain ⟨pose, branches, bounds, strokes, moves, maxDepth, read⟩ := t
    cases branches with
    | nil =>
      -- a branch is open, since the level stays at 0 or above
      simp only [List.length_nil] at hbranches
      omega
    | cons saved branches =>
      simp only [List.length_cons] at hbranches
      refine ⟨_, rfl, h.of_le rfl ?_ (Nat.le_succ _)⟩
      simp only
      omega
  | ignore =>
    simp only [Command.level, Int.add_zero] at hlevel
    exact ⟨t, rfl, h.of_le rfl (hbranches.trans hlevel.symm) (Nat.le_refl _)⟩

/-- **One character keeps what a walk records**, unless it closes a branch and none is open. -/
theorem step (h : t.Records u) (turtle : Turtle α) (mode : Mode) {c : Char}
    (hc : 0 ≤ level (u ++ [c])) :
    ∃ t', t.step turtle mode c = .ok t' ∧ t'.Records (u ++ [c]) := by
  have hlevel : level (u ++ [c]) = level u + (Command.ofChar c).level := by
    rw [level_append, level_singleton]
  obtain ⟨t', ht, hrecords⟩ := h.act turtle mode hlevel hc
  refine ⟨{ t' with read := t'.read + 1 }, ?_, hrecords.branches, hrecords.maxDepth⟩
  unfold Trail.step
  rw [ht]

/-! ## Whole walks -/

/-- A walk goes on for as long as the text is not below level 0. -/
theorem foldlM (h : t.Records u) (turtle : Turtle α) (mode : Mode) {v : List Char}
    (hv : ∀ w, w <+: v → 0 ≤ level (u ++ w)) :
    ∃ t', v.foldlM (Trail.step turtle mode) t = .ok t' ∧ t'.Records (u ++ v) := by
  induction v generalizing u t with
  | nil => exact ⟨t, rfl, by simpa using h⟩
  | cons c v ih =>
    obtain ⟨hhere, hlater⟩ := forall_prefix_cons_iff.1 hv
    obtain ⟨t₁, hstep, h₁⟩ := h.step turtle mode (by simpa using hlater [] List.nil_prefix)
    have hrest : ∀ w, w <+: v → 0 ≤ level ((u ++ [c]) ++ w) := by
      intro w hw
      simpa using hlater w hw
    obtain ⟨t₂, hfold, h₂⟩ := ih h₁ hrest
    exact ⟨t₂, foldlM_cons_eq_ok_iff.2 ⟨t₁, hstep, hfold⟩, by simpa using h₂⟩

end Trail.Records

/-- **A text that is never below level 0 is walked to its end**, and the branches open there and the
greatest depth are those of the text. -/
theorem Turtle.exists_walk [Scalar α] (turtle : Turtle α) (mode : Mode) {sequence : List Char} (pose : Pose α)
    (h : ∀ u, u <+: sequence → 0 ≤ level u) :
    ∃ trail, turtle.walk mode Checkpoint.uninterrupted sequence pose () = (.complete trail, ()) ∧
      (trail.summary.openBranches : Int) = level sequence ∧
      trail.summary.maxDepth = nesting sequence := by
  obtain ⟨trail, hfold, hrecords⟩ := (Trail.Records.start pose).foldlM turtle mode h
  refine ⟨trail, ?_, hrecords.branches, hrecords.maxDepth⟩
  have hwalk := turtle.walk_computes_foldlM Checkpoint.uninterrupted_keeps mode sequence pose
  rw [hfold] at hwalk
  exact hwalk.eq_ofExcept

end Lindenmayer
