import Lindenmayer.Proofs.Turtle.Outcome

set_option autoImplicit false

/-! # Interrupted walks

A walk asks before every character, so there are three things that can end it at each: there is no
more of the sequence, the answer is `halt`, or the character closes a branch and none is open. The
question comes first: a walk that is halted at a character does not find out whether it would have
failed there.

What a halted walk leaves behind is what the walk over the characters before the halt leaves
(`Turtle.trace_of_halt`), and as strokes are only added (`Trail.segments_prefix`), its strokes are
the first of those that the walk leaves when it goes on. -/

namespace Lindenmayer

variable {α : Type} [Scalar α] {turtle : Turtle α} {mode : Mode}

/-! ## Strokes are only added -/

theorem Trail.act_strokes {t t' : Trail α} {command : Command}
    (h : t.act turtle mode command = some t') : t.strokes <:+ t'.strokes := by
  cases command with
  | forward =>
    obtain rfl : t.advance turtle mode = t' := Option.some.inj h
    cases mode with
    | measure => exact List.suffix_refl _
    | draw => exact List.suffix_cons ..
  | turn rotation =>
    cases h
    exact List.suffix_refl _
  | push =>
    cases h
    exact List.suffix_refl _
  | pop =>
    obtain ⟨saved, branches, -, rfl⟩ := Trail.act_pop_eq_some_iff.1 h
    exact List.suffix_refl _
  | ignore =>
    cases h
    exact List.suffix_refl _

/-- The strokes of a walk come first among those it has left later. -/
theorem Trail.segments_prefix {sequence : List Char} {t t' : Trail α}
    (h : sequence.foldlM (Trail.step turtle mode) t = .ok t') : t.segments <+: t'.segments := by
  have hstep : ∀ (t₁ : Trail α) c t₂, t.strokes <:+ t₁.strokes →
      t₁.step turtle mode c = .ok t₂ → t.strokes <:+ t₂.strokes := by
    intro t₁ c t₂ ht₁ hc
    obtain ⟨t₃, hact, rfl⟩ := Trail.step_eq_ok_iff.1 hc
    have hadded := Trail.act_strokes hact
    exact ht₁.trans hadded
  have hsuffix := foldlM_invariant (fun t₁ : Trail α => t.strokes <:+ t₁.strokes) hstep sequence
    (List.suffix_refl _) h
  exact List.reverse_prefix.2 hsuffix

/-! ## Walks under a checkpoint -/

namespace Turtle

variable {σ : Type} {check : Checkpoint σ} {s : σ} (pose : Pose α) {u : List Char}
  {trail : Trail α} (hfold : u.foldlM (Trail.step turtle mode) (Trail.start pose) = .ok trail)
include hfold

/-- A walk is completed when every question is answered with `proceed`. -/
theorem trace_of_proceed (hs : ∀ k < u.length, check.answer k s = .proceed) :
    EndsAfter (fun _ check => turtle.trace mode check u pose) check s u.length
      (.complete (), trail) :=
  .of_answers fun _ _ hanswers => sweep_of_proceed hfold fun k hk => (hanswers k).trans (hs k hk)

/-- A walk fails at the first character that cannot be read when the question before it is still
answered with `proceed`. -/
theorem trace_of_failing {c : Char} {failure : Failure}
    (hfails : trail.step turtle mode c = .error failure) (v : List Char)
    (hs : ∀ k < u.length + 1, check.answer k s = .proceed) :
    EndsAfter (fun _ check => turtle.trace mode check (u ++ c :: v) pose) check s (u.length + 1)
      (.failed failure, trail) :=
  .of_answers fun _ _ hanswers =>
    sweep_of_failing hfold hfails v fun k hk => (hanswers k).trans (hs k hk)

/-- **A walk that is halted keeps what it has done**, the trail of the characters before the
halt. -/
theorem trace_of_halt (c : Char) (v : List Char)
    (hs : ∀ k < u.length, check.answer k s = .proceed)
    (hhalt : check.answer u.length s = .halt) :
    EndsAfter (fun _ check => turtle.trace mode check (u ++ c :: v) pose) check s (u.length + 1)
      (.interrupted, trail) :=
  .of_answers fun _ _ hanswers =>
    sweep_of_halt hfold c v (fun k hk => (hanswers k).trans (hs k hk))
      ((hanswers u.length).trans hhalt)

omit hfold in
/-- A walk that is halted on the way through `u`, a text that is never below level 0 and begins the
sequence, has the trail of the characters before the halt, and the first strokes of `u`. -/
theorem trace_halted {sequence : List Char} (hu : u <+: sequence)
    (hlevel : ∀ w, w <+: u → 0 ≤ level w)
    (hfold : u.foldlM (Trail.step turtle mode) (Trail.start pose) = .ok trail) {k : ℕ}
    (hk : k ≤ u.length) (hlast : k < sequence.length) (hb : check.FirstHalt s k) :
    ∃ t, EndsAfter (fun _ check => turtle.trace mode check sequence pose) check s (k + 1)
        (.interrupted, t) ∧
      turtle.trace mode Checkpoint.uninterrupted (sequence.take k) pose ()
        = ((.complete (), t), ()) ∧
      t.segments <+: trail.segments := by
  obtain ⟨v, rfl⟩ := hu
  have htake : (u ++ v).take k = u.take k := List.take_append_of_le_length hk
  have hlength : (u.take k).length = k := List.length_take_of_le hk
  obtain ⟨t, ht, -⟩ := turtle.exists_trail mode pose
    fun w hw => hlevel w (hw.trans (List.take_prefix k u))
  refine ⟨t, ?_, ?_, ?_⟩
  · have hsplit : u ++ v = u.take k ++ (u ++ v)[k] :: (u ++ v).drop (k + 1) := by
      rw [← htake, ← List.drop_eq_getElem_cons hlast, List.take_append_drop]
    have hhalt := turtle.trace_of_halt pose ht (u ++ v)[k] ((u ++ v).drop (k + 1))
      (fun j hj => hb.proceed j (by rw [hlength] at hj; exact_mod_cast hj))
      (hb.halt _ (by rw [hlength]))
    rwa [← hsplit, hlength] at hhalt
  · rw [htake]
    exact (turtle.trace_of_proceed pose ht fun _ _ => rfl).outcome
  · rw [← List.take_append_drop k u, List.foldlM_append, ht] at hfold
    exact Trail.segments_prefix hfold

end Turtle

/-- **A walk that is interrupted keeps an exact prefix.** Let the checkpoint answer question number
`b` with `halt` for the first time. If the uninterrupted walk is completed and `b` is no less than
the number of characters, or if it fails at a `]` that comes before question `b`, the walk has the
uninterrupted outcome, after one question for each character that it came to. Otherwise it is
interrupted by question `b` and asks no other; its trail is that of the first `b` characters, and
the strokes of this trail are the first of those of the uninterrupted walk. -/
theorem Turtle.trace_until_halt {σ : Type} (turtle : Turtle α) (mode : Mode)
    (sequence : List Char) (pose : Pose α) (check : Checkpoint σ) (s : σ) {b : ℕ∞}
    (hb : check.FirstHalt s b) :
    let pass := (turtle.trace mode Checkpoint.uninterrupted sequence pose ()).1
    let run := fun τ (check : Checkpoint τ) => turtle.trace mode check sequence pose
    (pass.1 = .complete () → sequence.length ≤ b →
      EndsAfter run check s sequence.length pass) ∧
    (∀ position : ℕ, pass.1 = .failed (.stackUnderflow position) → position < b →
      EndsAfter run check s (position + 1) pass) ∧
    (¬ (pass.1 = .complete () ∧ sequence.length ≤ b) →
      ¬ (∃ position : ℕ, pass.1 = .failed (.stackUnderflow position) ∧ position < b) →
      ∃ (k : ℕ) (t : Trail α), b = k ∧ EndsAfter run check s (k + 1) (.interrupted, t) ∧
        turtle.trace mode Checkpoint.uninterrupted (sequence.take k) pose ()
          = ((.complete (), t), ()) ∧
        t.segments <+: pass.2.segments) := by
  intro pass run
  by_cases h : ∀ u, u <+: sequence → 0 ≤ level u
  · obtain ⟨trail, hfold, -⟩ := turtle.exists_trail mode pose h
    have hpass : pass = (.complete (), trail) :=
      congrArg Prod.fst (turtle.trace_of_proceed pose hfold fun _ _ => rfl).outcome
    rw [hpass]
    refine ⟨fun _ hlength => ?_, nofun, fun hearly _ => ?_⟩
    · refine turtle.trace_of_proceed pose hfold fun k hk => hb.proceed k ?_
      exact lt_of_lt_of_le (Nat.cast_lt.2 hk) hlength
    · have hlt : b < sequence.length := not_le.1 fun hlength => hearly ⟨rfl, hlength⟩
      obtain ⟨k, rfl, hk⟩ := ENat.le_natCast_iff.1 hlt.le
      obtain ⟨t, hrun, hprefix, hsegments⟩ :=
        turtle.trace_halted pose (List.prefix_refl _) h hfold hk (Nat.cast_lt.1 hlt) hb
      exact ⟨k, t, rfl, hrun, hprefix, hsegments⟩
  · obtain ⟨u, v, rfl, hlevel, hparts⟩ := exists_dip h
    obtain ⟨trail, hfold, hrecords, hcounts⟩ := turtle.exists_trail mode pose hparts
    have hclose : trail.step turtle mode ']' = .error (.stackUnderflow u.length) := by
      rw [Trail.step_close (hrecords.branches_eq_nil hlevel), hcounts.read]
    have hpass : pass = (.failed (.stackUnderflow u.length), trail) :=
      congrArg Prod.fst (turtle.trace_of_failing pose hfold hclose v fun _ _ => rfl).outcome
    rw [hpass]
    refine ⟨nofun, fun position hposition hlate => ?_, fun _ hearly => ?_⟩
    · obtain rfl : u.length = position := by simpa using hposition
      refine turtle.trace_of_failing pose hfold hclose v fun k hk => hb.proceed k ?_
      exact lt_of_le_of_lt (Nat.cast_le.2 (Nat.le_of_lt_succ hk)) hlate
    · have hle : b ≤ u.length := not_lt.1 fun hlate => hearly ⟨u.length, rfl, hlate⟩
      obtain ⟨k, rfl, hk⟩ := ENat.le_natCast_iff.1 hle
      have hlast : k < (u ++ ']' :: v).length := by
        rw [List.length_append, List.length_cons]
        omega
      obtain ⟨t, hrun, hprefix, hsegments⟩ :=
        turtle.trace_halted pose (List.prefix_append ..) hparts hfold hk hlast hb
      exact ⟨k, t, rfl, hrun, hprefix, hsegments⟩

/-- A `]` too many, at position 6: when question 7 is the first to halt, the walk fails after the 7
questions 0 to 6; when question 6 is, it is interrupted after as many, with the strokes of the 6
characters before. -/
theorem Turtle.trace_halted_at_failure :
    let turtle : Turtle Float := ⟨90, 10⟩
    let sequence := "F[+FF]]F".toList
    let pass := (turtle.trace .draw Checkpoint.uninterrupted sequence Pose.initial ()).1
    let run := fun τ (check : Checkpoint τ) => turtle.trace .draw check sequence Pose.initial
    (Checkpoint.budget (some 7)).FirstHalt 0 7 ∧ (Checkpoint.budget (some 6)).FirstHalt 0 6 ∧
      pass.1 = .failed (.stackUnderflow 6) ∧ EndsAfter run (Checkpoint.budget (some 7)) 0 7 pass ∧
      ∃ t, EndsAfter run (Checkpoint.budget (some 6)) 0 7 (.interrupted, t) ∧
        turtle.trace .draw Checkpoint.uninterrupted "F[+FF]".toList Pose.initial ()
          = ((.complete (), t), ()) ∧
        t.segments <+: pass.2.segments := by
  intro turtle sequence pass run
  have hfails : pass.1 = .failed (.stackUnderflow 6) := by decide
  obtain ⟨-, hlate, -⟩ := turtle.trace_until_halt .draw sequence Pose.initial
    (Checkpoint.budget (some 7)) 0 (Checkpoint.firstHalt_budget 7)
  obtain ⟨-, -, hearly⟩ := turtle.trace_until_halt .draw sequence Pose.initial
    (Checkpoint.budget (some 6)) 0 (Checkpoint.firstHalt_budget 6)
  have hincomplete : ¬ (pass.1 = .complete () ∧ sequence.length ≤ (6 : ℕ∞)) := by
    rintro ⟨hcomplete, -⟩
    cases hfails.symm.trans hcomplete
  have hhalted : ¬ ∃ position : ℕ,
      pass.1 = .failed (.stackUnderflow position) ∧ position < (6 : ℕ∞) := by
    rintro ⟨position, hposition, hlt⟩
    cases hfails.symm.trans hposition
    exact lt_irrefl _ hlt
  obtain ⟨k, t, hk, hrun, hprefix, hsegments⟩ := hearly hincomplete hhalted
  obtain rfl : 6 = k := Nat.cast_inj.1 hk
  exact ⟨Checkpoint.firstHalt_budget 7, Checkpoint.firstHalt_budget 6, hfails,
    hlate 6 hfails (by decide), t, hrun, hprefix, hsegments⟩

end Lindenmayer
