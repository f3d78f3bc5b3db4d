import Lindenmayer.Proofs.Turtle.Outcome

set_option autoImplicit false

/-! # Closed branches

A branch that is closed again leaves no trace on the rest of a walk. What a walk does depends on
what it stands on only when it closes a branch that it has not opened, so two walks that stand at
one pose go on alike (`Trail.Mirrors`). Within a balanced text no such branch is closed, and at the
end of it the bracket that follows finds the pose from before (`Turtle.closed_branch`). The rest of
the walk is then the same as without the branch, a number of characters later
(`Turtle.walk_closed_branch`). -/

namespace Lindenmayer

/-! ## Balanced texts in the middle -/

/-- A balanced text within brackets is balanced. -/
theorem Balanced.bracket {w : List Char} (hw : Balanced w) : Balanced ('[' :: (w ++ [']'])) := by
  obtain ⟨hlevel, hparts⟩ := balanced_iff_level.1 hw
  have hopen : level ['['] = 1 := by decide
  have hclose : level [']'] = -1 := by decide
  rw [balanced_iff_level]
  refine ⟨?_, ?_⟩
  · rw [level_cons, level_append, hlevel, hopen, hclose]
    rfl
  · rw [forall_prefix_cons_iff, forall_prefix_append_iff]
    refine ⟨Int.le_refl 0, fun u hu => ?_, fun u hu => ?_⟩
    · have hu := hparts u hu
      rw [level_cons, hopen]
      omega
    · rw [level_cons, level_append, hlevel, hopen]
      rcases List.prefix_cons_iff.1 hu with rfl | ⟨x, rfl, hx⟩
      · decide
      · rw [List.prefix_nil.1 hx]
        decide

/-- A balanced text in the middle takes no text below level 0. -/
theorem Balanced.level_nonneg_insert_iff {b : List Char} (hb : Balanced b) (u v : List Char) :
    (∀ x, x <+: u ++ (b ++ v) → 0 ≤ level x) ↔ ∀ x, x <+: u ++ v → 0 ≤ level x := by
  obtain ⟨hlevel, hparts⟩ := balanced_iff_level.1 hb
  simp only [forall_prefix_append_iff, level_append, hlevel, Int.zero_add]
  refine and_congr_right fun hu => and_iff_right fun x hx => ?_
  have hbefore := hu u (List.prefix_refl u)
  have hwithin := hparts x hx
  omega

theorem letters_bracket (w : List Char) : letters ('[' :: (w ++ [']'])) = letters w := by
  have hopen : letters ['['] = 0 := by decide
  have hclose : letters [']'] = 0 := by decide
  calc letters ('[' :: (w ++ [']'])) = letters ['['] + (letters w + letters [']']) := by
        rw [← letters_append, ← letters_append, List.singleton_append]
    _ = letters w := by omega

variable {α : Type}

/-! ## Walks that stand at one pose -/

/-- The trail `t'` is where `t` is, has the same branches open on top of others, and has left the
same strokes since then: those of `t` were `old` at the time, its own were `old'`. -/
structure Trail.Mirrors (below : List (Pose α)) (old old' : List (Segment α)) (t t' : Trail α) :
    Prop where
  pose : t'.pose = t.pose
  branches : t'.branches = t.branches ++ below
  strokes : ∃ new, t.strokes = new ++ old ∧ t'.strokes = new ++ old'

variable [Scalar α] {turtle : Turtle α} {mode : Mode}

namespace Trail.Mirrors

variable {below : List (Pose α)} {old old' : List (Segment α)} {t t' t₁ : Trail α}

theorem act (h : Mirrors below old old' t t') {command : Command}
    (ht : t.act turtle mode command = some t₁) :
    ∃ t₁', t'.act turtle mode command = some t₁' ∧ Mirrors below old old' t₁ t₁' := by
  obtain ⟨hpose, hbranches, new, hnew, hnew'⟩ := h
  cases command with
  | forward =>
    cases ht
    refine ⟨_, rfl, ?_⟩
    cases mode with
    | measure => exact ⟨by simp only [advance, hpose], hbranches, new, hnew, hnew'⟩
    | draw =>
      refine ⟨by simp only [advance, hpose], hbranches,
        ⟨t.pose.position, (t.pose.advance turtle.stepLength).position⟩ :: new, ?_, ?_⟩
      · simp only [advance, hnew, List.cons_append]
      · simp only [advance, hnew', hpose, List.cons_append]
  | turn rotation =>
    cases ht
    exact ⟨_, rfl, by simp only [hpose], hbranches, new, hnew, hnew'⟩
  | push =>
    cases ht
    exact ⟨_, rfl, hpose, by simp only [hpose, hbranches, List.cons_append], new, hnew, hnew'⟩
  | pop =>
    obtain ⟨saved, branches, hsaved, rfl⟩ := act_pop_eq_some_iff.1 ht
    rw [hsaved, List.cons_append] at hbranches
    exact ⟨_, act_pop_eq_some_iff.2 ⟨saved, branches ++ below, hbranches, rfl⟩, rfl, rfl, new, hnew,
      hnew'⟩
  | ignore =>
    cases ht
    exact ⟨t', rfl, hpose, hbranches, new, hnew, hnew'⟩

theorem step (h : Mirrors below old old' t t') {c : Char} (ht : t.step turtle mode c = .ok t₁) :
    ∃ t₁', t'.step turtle mode c = .ok t₁' ∧ Mirrors below old old' t₁ t₁' := by
  obtain ⟨t₂, hact, rfl⟩ := Trail.step_eq_ok_iff.1 ht
  obtain ⟨t₂', hact', h₂⟩ := h.act hact
  exact ⟨_, Trail.step_eq_ok_iff.2 ⟨t₂', hact', rfl⟩, h₂.pose, h₂.branches, h₂.strokes⟩

/-- **Two walks that stand at one pose go on alike.** -/
theorem foldlM (h : Mirrors below old old' t t') {v : List Char}
    (ht : v.foldlM (Trail.step turtle mode) t = .ok t₁) :
    ∃ t₁', v.foldlM (Trail.step turtle mode) t' = .ok t₁' ∧ Mirrors below old old' t₁ t₁' :=
  foldlM_simulates (Trail.step turtle mode) (Trail.step turtle mode) (Mirrors below old old')
    (fun _ _ _ _ hm hstep => hm.step hstep) v h ht

end Trail.Mirrors

/-! ## From bracket to bracket -/

theorem Trail.step_open (t : Trail α) :
    t.step turtle mode '[' = .ok { t with
      branches := t.pose :: t.branches
      maxDepth := max t.maxDepth (t.branches.length + 1)
      read := t.read + 1 } := by
  have hpush : Command.ofChar '[' = .push := by decide
  simp only [Trail.step, hpush, Trail.act]

theorem Trail.step_close_of_cons {t : Trail α} {saved : Pose α} {branches : List (Pose α)}
    (h : t.branches = saved :: branches) :
    t.step turtle mode ']' = .ok { t with
      pose := saved, branches := branches, read := t.read + 1 } := by
  have hpop : Command.ofChar ']' = .pop := by decide
  simp only [Trail.step, hpop, Trail.act, h]

/-- **A walk comes out of a closed branch as it went in**, but for the strokes that a walk over the
branch leaves from the same pose. -/
theorem Turtle.closed_branch (turtle : Turtle α) (mode : Mode) {w : List Char} (hw : Balanced w)
    (t : Trail α) :
    ∃ inner t', w.foldlM (Trail.step turtle mode) (Trail.start t.pose) = .ok inner ∧
      ('[' :: (w ++ [']'])).foldlM (Trail.step turtle mode) t = .ok t' ∧
      t'.pose = t.pose ∧ t'.branches = t.branches ∧ t'.strokes = inner.strokes ++ t.strokes := by
  obtain ⟨hlevel, hparts⟩ := balanced_iff_level.1 hw
  obtain ⟨inner, hinner, hrecords, -⟩ := turtle.exists_trail mode t.pose hparts
  have hnone : inner.branches = [] := hrecords.branches_eq_nil hlevel
  have hopened : Trail.Mirrors (t.pose :: t.branches) [] t.strokes (Trail.start t.pose)
      { t with
        branches := t.pose :: t.branches
        maxDepth := max t.maxDepth (t.branches.length + 1)
        read := t.read + 1 } := ⟨rfl, rfl, [], rfl, rfl⟩
  obtain ⟨t₁, hbranch, hpose, hbranches, new, hnew, hstrokes⟩ := hopened.foldlM hinner
  -- only the poses from before the branch are left, so its bracket finds the one saved there
  rw [hnone, List.nil_append] at hbranches
  rw [List.append_nil] at hnew
  refine ⟨inner, { t₁ with pose := t.pose, branches := t.branches, read := t₁.read + 1 }, hinner,
    ?_, rfl, rfl, ?_⟩
  · refine foldlM_cons_eq_ok_iff.2 ⟨_, t.step_open, ?_⟩
    rw [List.foldlM_append, hbranch]
    exact foldlM_cons_eq_ok_iff.2 ⟨_, Trail.step_close_of_cons hbranches, rfl⟩
  · rw [hnew]
    exact hstrokes

/-! ## What comes after a closed branch -/

/-- After a closed branch a walk goes on as it would have gone on before it. -/
theorem Turtle.foldlM_closed_branch (turtle : Turtle α) (mode : Mode) {w v : List Char}
    (hw : Balanced w) {before t : Trail α}
    (hv : v.foldlM (Trail.step turtle mode) before = .ok t) :
    ∃ inner t' new, w.foldlM (Trail.step turtle mode) (Trail.start before.pose) = .ok inner ∧
      ('[' :: (w ++ [']']) ++ v).foldlM (Trail.step turtle mode) before = .ok t' ∧
      t'.pose = t.pose ∧ t.strokes = new ++ before.strokes ∧
      t'.strokes = new ++ (inner.strokes ++ before.strokes) := by
  obtain ⟨inner, after, hinner, hbranch, hpose, hbranches, hstrokes⟩ :=
    turtle.closed_branch mode hw before
  have hmirrors : Trail.Mirrors [] before.strokes after.strokes before after := by
    refine ⟨hpose, ?_, [], rfl, rfl⟩
    rw [hbranches, List.append_nil]
  obtain ⟨t', hv', hpose', -, new, hnew, hnew'⟩ := hmirrors.foldlM hv
  refine ⟨inner, t', new, hinner, ?_, hpose', hnew, ?_⟩
  · rw [List.foldlM_append, hbranch]
    exact hv'
  · rw [hnew', hstrokes]

/-- A walk that is completed without a closed branch is completed with it, at the same pose. -/
theorem Turtle.walk_branch_complete (turtle : Turtle α) (mode : Mode) {u w v : List Char}
    (hw : Balanced w) (pose : Pose α) (hlevel : ∀ x, x <+: u ++ v → 0 ≤ level x) :
    ∃ t t' before inner after,
      turtle.walk mode Checkpoint.uninterrupted (u ++ v) pose () = (.complete t, ()) ∧
      turtle.walk mode Checkpoint.uninterrupted (u ++ ('[' :: (w ++ [']']) ++ v)) pose ()
        = (.complete t', ()) ∧
      turtle.walk mode Checkpoint.uninterrupted u pose () = (.complete before, ()) ∧
      turtle.walk mode Checkpoint.uninterrupted w before.pose () = (.complete inner, ()) ∧
      t'.pose = t.pose ∧ t'.branches.length = t.branches.length ∧
      t'.moves = t.moves + letters w ∧ t.segments = before.segments ++ after ∧
      t'.segments = before.segments ++ inner.segments ++ after := by
  obtain ⟨before, hbefore, hwalkBefore, -⟩ :=
    turtle.exists_walk_counts mode pose (forall_prefix_append_iff.1 hlevel).1
  obtain ⟨t, hplain, hwalkPlain, hrecords, hcounts⟩ := turtle.exists_walk_counts mode pose hlevel
  obtain ⟨t', hbranched, hwalkBranched, hrecords', hcounts'⟩ := turtle.exists_walk_counts mode pose
    ((hw.bracket.level_nonneg_insert_iff u v).2 hlevel)
  rw [List.foldlM_append, hbefore] at hplain hbranched
  obtain ⟨inner, t₁, new, hinner, hbranch, hpose, hnew, hnew'⟩ :=
    turtle.foldlM_closed_branch mode hw hplain
  obtain rfl : t' = t₁ := Except.ok.inj (hbranched.symm.trans hbranch)
  obtain ⟨inner₁, hinner₁, hwalkInner, -⟩ :=
    turtle.exists_walk_counts mode before.pose (balanced_iff_level.1 hw).2
  obtain rfl : inner₁ = inner := Except.ok.inj (hinner₁.symm.trans hinner)
  refine ⟨t, t', before, inner₁, new.reverse, hwalkPlain, hwalkBranched, hwalkBefore, hwalkInner,
    hpose, ?_, ?_, ?_, ?_⟩
  · have hopen := hrecords.branches
    have hopen' := hrecords'.branches
    simp only [level_append, (balanced_iff_level.1 hw.bracket).1] at hopen hopen'
    omega
  · rw [hcounts.moves, hcounts'.moves]
    simp only [letters_append, letters_bracket]
    omega
  · simp only [Trail.segments, hnew, List.reverse_append]
  · simp only [Trail.segments, hnew', List.reverse_append]

/-- A walk that fails after the place of a closed branch fails with it too, later by its length. -/
theorem Turtle.walk_branch_failed (turtle : Turtle α) (mode : Mode) {u w v : List Char}
    (hw : Balanced w) {pose : Pose α} {position : Nat} (hposition : u.length ≤ position)
    (h : (turtle.walk mode Checkpoint.uninterrupted (u ++ v) pose ()).1
      = .failed (.stackUnderflow position)) :
    turtle.walk mode Checkpoint.uninterrupted (u ++ ('[' :: (w ++ [']']) ++ v)) pose ()
      = (.failed (.stackUnderflow (position + w.length + 2)), ()) := by
  have hdip : ¬ ∀ x, x <+: u ++ v → 0 ≤ level x := by
    intro hlevel
    obtain ⟨trail, hwalk⟩ := (turtle.exists_complete_iff mode pose).2 hlevel
    cases hwalk.symm.trans h
  obtain ⟨a, c, hac, hlevel, hparts⟩ := exists_dip hdip
  rw [hac, turtle.walk_eq_failed mode pose hparts hlevel c] at h
  cases h
  -- the walk fails in `v`, so all of `u` was read before
  obtain ⟨x, rfl⟩ : u <+: a := List.prefix_of_prefix_length_le (List.prefix_append u v)
    (hac ▸ List.prefix_append a _) hposition
  rw [List.append_assoc, List.append_cancel_left_eq] at hac
  subst hac
  have hlevel' : level (u ++ ('[' :: (w ++ [']']) ++ x)) = 0 := by
    rw [level_append] at hlevel
    rw [level_append, level_append, (balanced_iff_level.1 hw.bracket).1]
    omega
  have hlength : (u ++ ('[' :: (w ++ [']']) ++ x)).length = (u ++ x).length + w.length + 2 := by
    simp only [List.length_append, List.length_cons, List.length_nil]
    omega
  have hfailed := turtle.walk_eq_failed mode pose
    ((hw.bracket.level_nonneg_insert_iff u x).2 hparts) hlevel' c
  rw [hlength] at hfailed
  simpa only [List.append_assoc] using hfailed

/-- **A closed branch leaves no trace on the rest of the walk.** With a bracketed balanced text put
in, a walk is completed exactly when it is completed without, at the same pose, with the same
branches open and the moves of the branch more. Its strokes are those up to the branch, those of a
walk over the branch from there, and then the ones that the rest leaves in either walk. A failure in
the rest comes later by the length of the branch. -/
theorem Turtle.walk_closed_branch (turtle : Turtle α) (mode : Mode) {w : List Char}
    (hw : Balanced w) (u v : List Char) (pose : Pose α) :
    let plain := (turtle.walk mode Checkpoint.uninterrupted (u ++ v) pose ()).1
    let branched :=
      (turtle.walk mode Checkpoint.uninterrupted (u ++ '[' :: (w ++ ']' :: v)) pose ()).1
    ((∃ t, branched = .complete t) ↔ ∃ t, plain = .complete t) ∧
      (∀ t, plain = .complete t → ∃ t' before inner after,
        branched = .complete t' ∧ t'.summary.pose = t.summary.pose ∧
        t'.summary.openBranches = t.summary.openBranches ∧
        t'.summary.moves = t.summary.moves + letters w ∧
        turtle.walk mode Checkpoint.uninterrupted u pose () = (.complete before, ()) ∧
        turtle.walk mode Checkpoint.uninterrupted w before.pose () = (.complete inner, ()) ∧
        t.segments = before.segments ++ after ∧
        t'.segments = before.segments ++ inner.segments ++ after) ∧
      ∀ position, u.length ≤ position → plain = .failed (.stackUnderflow position) →
        branched = .failed (.stackUnderflow (position + w.length + 2)) := by
  have hsequence : '[' :: (w ++ ']' :: v) = '[' :: (w ++ [']']) ++ v := by simp
  rw [hsequence]
  intro plain branched
  refine ⟨?_, fun t ht => ?_, fun position hposition ht => ?_⟩
  · simp only [plain, branched, Turtle.exists_complete_iff, hw.bracket.level_nonneg_insert_iff]
  · have hlevel := (turtle.exists_complete_iff mode pose).1 ⟨t, ht⟩
    obtain ⟨t₁, t', before, inner, after, hplain, hbranched, hbefore, hinner, hpose, hopen, hmoves,
      hsegments, hsegments'⟩ := turtle.walk_branch_complete mode hw pose hlevel
    obtain rfl : t₁ = t := Ending.complete.inj ((congrArg Prod.fst hplain).symm.trans ht)
    exact ⟨t', before, inner, after, congrArg Prod.fst hbranched, hpose, hopen, hmoves, hbefore,
      hinner, hsegments, hsegments'⟩
  · exact congrArg Prod.fst (turtle.walk_branch_failed mode hw hposition ht)

/-- A branch with a branch of its own between two strokes adds three moves, and a bracket too many
after it fails 9 characters later than without it. -/
theorem Turtle.walk_nested_branch :
    let turtle : Turtle Float := ⟨25, 10⟩
    let walk := fun sequence =>
      (turtle.walk .draw Checkpoint.uninterrupted sequence Pose.initial ()).1
    let w := ['+', 'F', '[', '-', 'F', ']', 'F']
    Balanced w ∧
      (∃ t t', walk (['F'] ++ ['F']) = .complete t ∧
        walk (['F'] ++ '[' :: (w ++ ']' :: ['F'])) = .complete t' ∧
        t'.summary.pose = t.summary.pose ∧ t'.summary.moves = t.summary.moves + 3) ∧
      walk (['F'] ++ '[' :: (w ++ ']' :: ['F', ']'])) = .failed (.stackUnderflow 11) := by
  intro turtle walk w
  have hw : Balanced w := by decide
  have hlevel : ∀ u, u <+: ['F', 'F'] → 0 ≤ level u :=
    (balanced_iff_level.1 (by decide : Balanced ['F', 'F'])).2
  refine ⟨hw, ?_, ?_⟩
  · obtain ⟨t, ht⟩ := (turtle.exists_complete_iff .draw Pose.initial).2 hlevel
    obtain ⟨-, hcomplete, -⟩ := turtle.walk_closed_branch .draw hw ['F'] ['F'] Pose.initial
    obtain ⟨t', -, -, -, ht', hpose, -, hmoves, -⟩ := hcomplete t ht
    exact ⟨t, t', ht, ht', hpose, hmoves⟩
  · obtain ⟨-, -, hfailed⟩ := turtle.walk_closed_branch .draw hw ['F'] ['F', ']'] Pose.initial
    have hplain := turtle.walk_eq_failed .draw Pose.initial hlevel rfl []
    exact hfailed 2 (by decide) (congrArg Prod.fst hplain)

end Lindenmayer
