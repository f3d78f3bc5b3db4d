import Mathlib.Data.List.Induction
import Mathlib.Order.Bounds.Basic
import Lindenmayer.Proofs.Consultation
import Lindenmayer.Proofs.Turtle.Branches

set_option autoImplicit false

/-! # How a walk ends

The sequence alone tells how an uninterrupted walk over it ends, whatever the turtle, the pose it
starts from and the kind of walk. It is completed if the sequence is never below level 0
(`Turtle.trace_eq_complete`), and fails at the first `]` that takes it there
(`Turtle.trace_eq_failed`). On the way it has read every character up to its end, made a move for
each letter among them and, when drawing, left a stroke for each move (`Trail.Counts`). Together
these are the exact outcome of a walk (`Turtle.trace_outcome`). -/

namespace Lindenmayer

/-! ## Texts that go below level 0 -/

theorem Letter.isLetter_toChar (l : Letter) : isLetter l.toChar := by
  rw [isLetter, ofChar?_toChar, Option.isSome_some]

/-- The number of letters in a text. -/
def letters (t : List Char) : Nat := t.countP isLetter

@[simp] theorem letters_append (a b : List Char) : letters (a ++ b) = letters a + letters b :=
  List.countP_append

/-- A text is at level 0 or above when it closes no more branches than it opens. -/
theorem level_nonneg_iff {t : List Char} : 0 ≤ level t ↔ closed t ≤ opened t := by
  unfold level
  omega

/-- Only `]` takes a text to a lower level. -/
theorem level_singleton_nonneg {c : Char} (h : c ≠ ']') : 0 ≤ level [c] := by
  have hclosed : closed [c] = 0 := closed_cons_of_ne h []
  unfold level
  omega

/-- A text that goes below level 0 does so first with a `]` at level 0. -/
theorem exists_dip {t : List Char} (h : ¬ ∀ u, u <+: t → 0 ≤ level u) :
    ∃ u v, t = u ++ ']' :: v ∧ level u = 0 ∧ ∀ w, w <+: u → 0 ≤ level w := by
  induction t using List.reverseRecOn with
  | nil =>
    refine absurd (fun u hu => ?_) h
    rw [List.prefix_nil.1 hu]
    rfl
  | append_singleton t c ih =>
    by_cases ht : ∀ u, u <+: t → 0 ≤ level u
    · -- all but the whole text is at level 0 or above, so the last character takes it below
      have hlast : level (t ++ [c]) < 0 := by
        refine Int.not_le.1 fun hlast => h fun u hu => ?_
        rcases List.prefix_concat_iff.1 hu with rfl | hu
        · exact hlast
        · exact ht u hu
      have hbefore := ht t (List.prefix_refl t)
      rw [level_append] at hlast
      have hc : c = ']' := by
        by_contra hne
        have hup := level_singleton_nonneg hne
        omega
      subst hc
      have hdown : level [']'] = -1 := by decide
      exact ⟨t, [], rfl, by omega, ht⟩
    · obtain ⟨u, v, rfl, hu, hparts⟩ := ih ht
      exact ⟨u, v ++ [c], by simp, hu, hparts⟩

/-- The depth of nesting is a level that the text comes to. -/
theorem isGreatest_nesting (t : List Char) :
    IsGreatest {d : Int | ∃ u, u <+: t ∧ d = level u} (nesting t) := by
  constructor
  · by_contra hnone
    -- if no part came to that level, one less would do for all of them
    have hless : ∀ u, u <+: t → level u ≤ (nesting t - 1 : Nat) := by
      intro u hu
      have hle := level_le_nesting hu
      have hne : (nesting t : Int) ≠ level u := fun h => hnone ⟨u, hu, h⟩
      omega
    have hfirst := hless [] List.nil_prefix
    have hle := nesting_le_iff.2 hless
    have hzero : nesting t = 0 := by omega
    exact hnone ⟨[], List.nil_prefix, by simp [hzero]⟩
  · rintro d ⟨u, hu, rfl⟩
    exact level_le_nesting hu

/-! ## What is counted -/

/-- The number of moves that a command makes. -/
def Command.moves : Command → Nat
  | .forward => 1
  | _ => 0

/-- Letters are the characters that command a move. -/
theorem letters_singleton (c : Char) : letters [c] = (Command.ofChar c).moves := by
  unfold letters isLetter Command.ofChar Symbol.ofChar?
  rw [List.countP_singleton]
  cases Letter.ofChar? c with
  | some l => rfl
  | none =>
    simp only [Option.isSome_none, Bool.false_eq_true, if_false]
    split_ifs <;> rfl

variable {α : Type}

/-- A walk has read the text `u`, and has moved and left strokes as its letters say. -/
structure Trail.Counts (mode : Mode) (u : List Char) (t : Trail α) : Prop where
  read : t.read = u.length
  moves : t.moves = letters u
  strokes : mode = .draw → t.strokes.length = letters u

variable [Scalar α] {turtle : Turtle α} {mode : Mode}

theorem Trail.act_counts {t t' : Trail α} {command : Command}
    (h : t.act turtle mode command = some t') :
    t'.read = t.read ∧ t'.moves = t.moves + command.moves ∧
      (mode = .draw → t'.strokes.length = t.strokes.length + command.moves) := by
  cases command with
  | forward =>
    cases h
    cases mode with
    | measure => exact ⟨rfl, rfl, nofun⟩
    | draw => exact ⟨rfl, rfl, fun _ => rfl⟩
  | turn rotation =>
    cases h
    exact ⟨rfl, rfl, fun _ => rfl⟩
  | push =>
    cases h
    exact ⟨rfl, rfl, fun _ => rfl⟩
  | pop =>
    obtain ⟨saved, branches, -, rfl⟩ := Trail.act_pop_eq_some_iff.1 h
    exact ⟨rfl, rfl, fun _ => rfl⟩
  | ignore =>
    cases h
    exact ⟨rfl, rfl, fun _ => rfl⟩

namespace Trail.Counts

theorem start (mode : Mode) (pose : Pose α) : (Trail.start pose).Counts mode [] where
  read := rfl
  moves := rfl
  strokes _ := rfl

theorem step {u : List Char} {t t' : Trail α} {c : Char} (h : t.Counts mode u)
    (hstep : t.step turtle mode c = .ok t') : t'.Counts mode (u ++ [c]) := by
  obtain ⟨t₁, hact, rfl⟩ := Trail.step_eq_ok_iff.1 hstep
  obtain ⟨hread, hmoves, hstrokes⟩ := Trail.act_counts hact
  have hletters : letters (u ++ [c]) = letters u + (Command.ofChar c).moves := by
    rw [letters_append, letters_singleton]
  refine ⟨?_, ?_, fun hmode => ?_⟩
  · rw [List.length_append, ← h.read, ← hread]
    rfl
  · rw [hletters, ← h.moves]
    exact hmoves
  · rw [hletters, ← h.strokes hmode]
    exact hstrokes hmode

end Trail.Counts

/-! ## Up to the end or the first failure -/

omit [Scalar α] in
theorem Trail.Records.branches_eq_nil {u : List Char} {t : Trail α} (h : t.Records u)
    (hlevel : level u = 0) : t.branches = [] := by
  have hcount := h.branches
  rw [hlevel] at hcount
  exact List.length_eq_zero_iff.1 (by omega)

/-- A `]` fails when no branch is open. -/
theorem Trail.step_close {t : Trail α} (h : t.branches = []) :
    t.step turtle mode ']' = .error (.stackUnderflow t.read) := by
  have hpop : Command.ofChar ']' = .pop := by decide
  simp only [Trail.step, hpop, Trail.act, h]

namespace Turtle

variable (turtle) (mode) (pose : Pose α) {u : List Char}

/-- A walk gets through a text that is never below level 0. -/
theorem exists_trail (h : ∀ w, w <+: u → 0 ≤ level w) :
    ∃ trail, u.foldlM (Trail.step turtle mode) (Trail.start pose) = .ok trail ∧
      trail.Records u ∧ trail.Counts mode u := by
  obtain ⟨trail, hfold, hrecords⟩ := (Trail.Records.start pose).foldlM turtle mode h
  exact ⟨trail, hfold, hrecords, foldlM_reads (Trail.Counts mode) (fun _ _ _ _ => Trail.Counts.step)
    u (Trail.Counts.start mode pose) hfold⟩

/-- **A walk over a text that is never below level 0 is completed.** -/
theorem trace_eq_complete (h : ∀ w, w <+: u → 0 ≤ level w) :
    ∃ trail, turtle.trace mode Checkpoint.uninterrupted u pose () = ((.complete (), trail), ()) ∧
      trail.Records u ∧ trail.Counts mode u := by
  obtain ⟨trail, hfold, hrecords, hcounts⟩ := turtle.exists_trail mode pose h
  exact ⟨trail, sweep_of_proceed hfold fun _ _ => rfl, hrecords, hcounts⟩

/-- **A walk fails at the first `]` that takes the text below level 0.** -/
theorem trace_eq_failed (h : ∀ w, w <+: u → 0 ≤ level w) (hlevel : level u = 0) (v : List Char) :
    ∃ trail, turtle.trace mode Checkpoint.uninterrupted (u ++ ']' :: v) pose ()
        = ((.failed (.stackUnderflow u.length), trail), ()) ∧
      trail.Records u ∧ trail.Counts mode u := by
  obtain ⟨trail, hfold, hrecords, hcounts⟩ := turtle.exists_trail mode pose h
  have hclose : trail.step turtle mode ']' = .error (.stackUnderflow u.length) := by
    rw [Trail.step_close (hrecords.branches_eq_nil hlevel), hcounts.read]
  exact ⟨trail, sweep_of_failing hfold hclose v fun _ _ => rfl, hrecords, hcounts⟩

/-- An uninterrupted walk has the outcome that is followed. -/
theorem walk_uninterrupted (sequence : List Char) :
    turtle.walk mode Checkpoint.uninterrupted sequence pose ()
      = (Ending.ofExcept (turtle.follow mode sequence pose), ()) :=
  (turtle.walk_computes Checkpoint.uninterrupted_keeps mode sequence pose).eq_ofExcept

/-- What a walk over a text that is never below level 0 has come to at its end. -/
theorem exists_walk_counts (h : ∀ w, w <+: u → 0 ≤ level w) :
    ∃ trail, u.foldlM (Trail.step turtle mode) (Trail.start pose) = .ok trail ∧
      turtle.walk mode Checkpoint.uninterrupted u pose () = (.complete trail, ()) ∧
      trail.Records u ∧ trail.Counts mode u := by
  obtain ⟨trail, hfold, hrecords, hcounts⟩ := turtle.exists_trail mode pose h
  have hwalk := turtle.walk_computes_foldlM Checkpoint.uninterrupted_keeps mode u pose
  rw [hfold] at hwalk
  exact ⟨trail, hfold, hwalk.eq_ofExcept, hrecords, hcounts⟩

theorem walk_eq_failed (h : ∀ w, w <+: u → 0 ≤ level w) (hlevel : level u = 0) (v : List Char) :
    turtle.walk mode Checkpoint.uninterrupted (u ++ ']' :: v) pose ()
      = (.failed (.stackUnderflow u.length), ()) := by
  obtain ⟨trail, htrace, -⟩ := turtle.trace_eq_failed mode pose h hlevel v
  unfold walk
  rw [htrace]
  rfl

/-- A walk is completed exactly when the text is never below level 0. -/
theorem exists_complete_iff :
    (∃ trail, (turtle.walk mode Checkpoint.uninterrupted u pose ()).1 = .complete trail) ↔
      ∀ w, w <+: u → 0 ≤ level w := by
  constructor
  · rintro ⟨trail, hwalk⟩
    by_contra hdip
    obtain ⟨u, v, rfl, hlevel, hparts⟩ := exists_dip hdip
    rw [turtle.walk_eq_failed mode pose hparts hlevel v] at hwalk
    cases hwalk
  · intro h
    obtain ⟨trail, -, hwalk, -⟩ := turtle.exists_walk_counts mode pose h
    exact ⟨trail, congrArg Prod.fst hwalk⟩

theorem follow_eq_error (h : ∀ w, w <+: u → 0 ≤ level w) (hlevel : level u = 0) (v : List Char) :
    turtle.follow mode (u ++ ']' :: v) pose = .error (.stackUnderflow u.length) := by
  unfold follow Watched.unwatched
  rw [turtle.walk_eq_failed mode pose h hlevel v]
  rfl

end Turtle

/-- **The exact outcome of a walk.** It is completed exactly when no part of the sequence read from
the left closes more branches than it opens. Then the moves are the letters, the branches left open
are the `[` without the `]`, and the greatest depth is the greatest number of branches that any part
leaves open. Otherwise the walk fails at the first `]` that closes more than is open. In either case
a drawing walk has left one stroke for each letter read. -/
theorem Turtle.trace_outcome (turtle : Turtle α) (mode : Mode) (sequence : List Char)
    (pose : Pose α) :
    let pass := (turtle.trace mode Checkpoint.uninterrupted sequence pose ()).1
    (pass.1 = .complete () ↔ ∀ u, u <+: sequence → closed u ≤ opened u) ∧
    (pass.1 = .complete () →
      pass.2.summary.moves = letters sequence ∧
      (pass.2.summary.openBranches : Int) = opened sequence - closed sequence ∧
      IsGreatest {d : Int | ∃ u, u <+: sequence ∧ d = opened u - closed u}
        pass.2.summary.maxDepth ∧
      (mode = .draw → pass.2.segments.length = letters sequence)) ∧
    (pass.1 ≠ .complete () →
      ∃ u v, sequence = u ++ ']' :: v ∧ (∀ w, w <+: u → closed w ≤ opened w) ∧
        opened (u ++ [']']) < closed (u ++ [']']) ∧
        pass.1 = .failed (.stackUnderflow u.length) ∧
        (mode = .draw → pass.2.segments.length = letters u)) := by
  intro pass
  have hsegments : ∀ {u : List Char} {trail : Trail α}, trail.Counts mode u → mode = .draw →
      trail.segments.length = letters u :=
    fun hcounts hmode => List.length_reverse.trans (hcounts.strokes hmode)
  simp only [← level_nonneg_iff]
  by_cases h : ∀ u, u <+: sequence → 0 ≤ level u
  · obtain ⟨trail, htrace, hrecords, hcounts⟩ := turtle.trace_eq_complete mode pose h
    have hpass : pass = (.complete (), trail) := congrArg Prod.fst htrace
    rw [hpass]
    refine ⟨iff_of_true rfl h, fun _ => ⟨hcounts.moves, hrecords.branches, ?_, hsegments hcounts⟩,
      fun hne => absurd rfl hne⟩
    show IsGreatest _ (trail.maxDepth : Int)
    rw [hrecords.maxDepth]
    exact isGreatest_nesting sequence
  · obtain ⟨u, v, rfl, hlevel, hparts⟩ := exists_dip h
    obtain ⟨trail, htrace, -, hcounts⟩ := turtle.trace_eq_failed mode pose hparts hlevel v
    have hpass : pass = (.failed (.stackUnderflow u.length), trail) := congrArg Prod.fst htrace
    have hdown : level (u ++ [']']) < 0 := by
      rw [level_append, hlevel]
      decide
    have hbelow : opened (u ++ [']']) < closed (u ++ [']']) := by
      unfold level at hdown
      omega
    rw [hpass]
    exact ⟨iff_of_false nofun h, nofun,
      fun _ => ⟨u, v, rfl, hparts, hbelow, rfl, hsegments hcounts⟩⟩

end Lindenmayer
