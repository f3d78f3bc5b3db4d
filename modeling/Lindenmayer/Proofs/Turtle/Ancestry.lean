import Lindenmayer.Proofs.Geometry.Exact
import Lindenmayer.Proofs.Turtle.ClosedBranch
import Lindenmayer.Proofs.Turtle.Interruption

set_option autoImplicit false

/-! # Where strokes begin

The strokes of a walk form a tree that is rooted at the place where it starts. A stroke begins where
another ends, and which one that is can be read off the sequence: it is the stroke of the last
letter before that is not in a branch that has been closed since, if there is one (`GrowsFrom`).

What holds of the turtle holds of the poses that it has saved, each at the `[` that saved it: the
text read so far falls into the open brackets and balanced texts between them (`Saved`), and a
balanced text changes nothing about a place that was reached before it. Every character keeps both
(`Trail.Grown.step`). No arithmetic is done on the way, so places are equal and not only near. -/

namespace Lindenmayer

/-! ## Closed branches in a text -/

/-- Place `q` of the text `u` is between two brackets of `u` that belong together. -/
def InClosedBranch (u : List Char) (q : Nat) : Prop :=
  ∃ x w y, u = x ++ '[' :: (w ++ ']' :: y) ∧ Balanced w ∧ x.length < q ∧ q ≤ x.length + w.length

/-- There is a letter at place `q` of the text `u`. -/
def LetterAt (u : List Char) (q : Nat) : Prop := ∃ c, u[q]? = some c ∧ isLetter c

/-- All letters of a text are in branches that it closes. -/
def AllInClosedBranches (u : List Char) : Prop := ∀ q, LetterAt u q → InClosedBranch u q

/-- The last letter of the text `u` that is in no branch closed by `u` is at place `q`. -/
structure LastOpenLetter (u : List Char) (q : Nat) : Prop where
  letter : LetterAt u q
  isOpen : ¬ InClosedBranch u q
  last : ∀ r, q < r → LetterAt u r → InClosedBranch u r

theorem LetterAt.lt {u : List Char} {q : Nat} (h : LetterAt u q) : q < u.length := by
  obtain ⟨c, hc, -⟩ := h
  exact (List.getElem?_eq_some_iff.1 hc).1

theorem letterAt_append_left {x : List Char} {q : Nat} (b : List Char) (hq : q < x.length) :
    LetterAt (x ++ b) q ↔ LetterAt x q := by
  simp only [LetterAt, List.getElem?_append_left hq]

theorem letterAt_append_right {x : List Char} {q : Nat} (b : List Char) (hq : x.length ≤ q) :
    LetterAt (x ++ b) q ↔ LetterAt b (q - x.length) := by
  simp only [LetterAt, List.getElem?_append_right hq]

theorem InClosedBranch.append_right {x : List Char} {q : Nat} (h : InClosedBranch x q)
    (b : List Char) : InClosedBranch (x ++ b) q := by
  obtain ⟨x₁, w, y, rfl, hw, hlow, hhigh⟩ := h
  exact ⟨x₁, w, y ++ b, by simp, hw, hlow, hhigh⟩

theorem InClosedBranch.append_left {b : List Char} {q : Nat} (h : InClosedBranch b q)
    (x : List Char) : InClosedBranch (x ++ b) (x.length + q) := by
  obtain ⟨x₁, w, y, rfl, hw, hlow, hhigh⟩ := h
  refine ⟨x ++ x₁, w, y, by simp, hw, ?_, ?_⟩
  · rw [List.length_append]
    omega
  · rw [List.length_append]
    omega

/-- What is never below level 0 closes no branch that was open before it. -/
theorem inClosedBranch_append_iff {x b : List Char} (hb : ∀ v, v <+: b → 0 ≤ level v) {q : Nat}
    (hq : q < x.length) : InClosedBranch (x ++ b) q ↔ InClosedBranch x q := by
  refine ⟨?_, fun h => h.append_right b⟩
  rintro ⟨x₁, w, y, hsplit, hw, hlow, hhigh⟩
  have hsplit' : (x₁ ++ '[' :: w) ++ (']' :: y) = x ++ b := by simp [hsplit]
  obtain ⟨w₂, hx, hy⟩ | ⟨x₂, hx, rfl⟩ := List.append_eq_append_iff.1 hsplit'
  · cases w₂ with
    | nil =>
      rw [List.nil_append] at hy
      have hclose := hb [']'] (hy ▸ List.prefix_append [']'] y)
      exact absurd hclose (by decide)
    | cons c y₂ =>
      rw [List.cons_append, List.cons_eq_cons] at hy
      obtain ⟨rfl, -⟩ := hy
      exact ⟨x₁, w, y₂, by simp [hx], hw, hlow, hhigh⟩
  · -- the closing bracket would come within `b`, which has opened no branch for it
    have hopen : x₁ ++ ['['] <+: x := by
      refine List.prefix_of_prefix_length_le ?_ (List.prefix_append x x₂) ?_
      · rw [← hx]
        exact ⟨w, by simp⟩
      · rw [List.length_append, List.length_singleton]
        omega
    obtain ⟨w₁, rfl⟩ := hopen
    obtain rfl : w = w₁ ++ x₂ := by simpa using hx
    have hlevel := (balanced_iff_level.1 hw).1
    have hfirst := (balanced_iff_level.1 hw).2 w₁ (List.prefix_append w₁ x₂)
    have hthen := hb (x₂ ++ [']']) ⟨y, by simp⟩
    have hclose : level [']'] = -1 := by decide
    rw [level_append] at hlevel hthen
    omega

theorem not_inClosedBranch_length (x : List Char) (c : Char) :
    ¬ InClosedBranch (x ++ [c]) x.length := by
  rintro ⟨x₁, w, y, hsplit, -, hlow, hhigh⟩
  have hlength := congrArg List.length hsplit
  simp only [List.length_append, List.length_cons, List.length_nil] at hlength
  omega

/-- A letter at the end is not in a closed branch. -/
theorem lastOpenLetter_concat (u : List Char) {c : Char} (hc : isLetter c) :
    LastOpenLetter (u ++ [c]) u.length where
  letter := ⟨c, by simp, hc⟩
  isOpen := not_inClosedBranch_length u c
  last r hr hletter := by
    have hlt := hletter.lt
    rw [List.length_append, List.length_singleton] at hlt
    omega

section Append

variable {x b : List Char} (hletters : AllInClosedBranches b)
include hletters

/-- A letter in a closed branch remains in it, and so do those that come after. -/
theorem inClosedBranch_append_of_letterAt {r : Nat} (h : LetterAt x r → InClosedBranch x r)
    (hr : LetterAt (x ++ b) r) : InClosedBranch (x ++ b) r := by
  rcases Nat.lt_or_ge r x.length with hlt | hge
  · exact (h ((letterAt_append_left b hlt).1 hr)).append_right b
  · have hbranch := hletters _ ((letterAt_append_right b hge).1 hr)
    have hplace : x.length + (r - x.length) = r := Nat.add_sub_cancel' hge
    exact hplace ▸ hbranch.append_left x

theorem AllInClosedBranches.append (h : AllInClosedBranches x) : AllInClosedBranches (x ++ b) :=
  fun r hr => inClosedBranch_append_of_letterAt hletters (h r) hr

/-- The last letter in no closed branch remains the last. -/
theorem LastOpenLetter.append (hb : ∀ v, v <+: b → 0 ≤ level v) {q : Nat}
    (h : LastOpenLetter x q) : LastOpenLetter (x ++ b) q where
  letter := (letterAt_append_left b h.letter.lt).2 h.letter
  isOpen := (inClosedBranch_append_iff hb h.letter.lt).not.2 h.isOpen
  last r hr := inClosedBranch_append_of_letterAt hletters (h.last r hr)

end Append

/-- The letters of a branch are in it. -/
theorem allInClosedBranches_bracket {w : List Char} (hw : Balanced w) :
    AllInClosedBranches ('[' :: (w ++ [']'])) := by
  intro q hq
  have hlt := hq.lt
  obtain ⟨c, hc, hletter⟩ := hq
  have hfirst : q ≠ 0 := by
    rintro rfl
    rw [List.getElem?_cons_zero, Option.some_inj] at hc
    subst hc
    exact absurd hletter (by decide)
  have hlast : q ≠ w.length + 1 := by
    rintro rfl
    rw [List.getElem?_cons_succ, List.getElem?_concat_length, Option.some_inj] at hc
    subst hc
    exact absurd hletter (by decide)
  simp only [List.length_cons, List.length_append, List.length_nil] at hlt
  refine ⟨[], w, [], rfl, hw, ?_, ?_⟩
  · exact Nat.pos_of_ne_zero hfirst
  · rw [List.length_nil]
    omega

/-- There is nothing to show of a text without letters. -/
theorem allInClosedBranches_of_letters {b : List Char} (h : letters b = 0) :
    AllInClosedBranches b := by
  rintro q ⟨c, hc, hletter⟩
  exact absurd hletter (List.countP_eq_zero.1 h c (List.mem_of_getElem? hc))

theorem forall_prefix_singleton_level {c : Char} (h : 0 ≤ level [c]) :
    ∀ v, v <+: [c] → 0 ≤ level v := by
  intro v hv
  rcases List.prefix_cons_iff.1 hv with rfl | ⟨x, rfl, hx⟩
  · exact Int.le_refl 0
  · rwa [List.prefix_nil.1 hx]

theorem balanced_singleton {c : Char} (h : level [c] = 0) : Balanced [c] :=
  balanced_iff_level.2 ⟨h, forall_prefix_singleton_level h.ge⟩

/-! ## Where a stroke begins -/

variable {α : Type}

/-- Of a walk from the place `root` with the given strokes: what comes after the text `u` begins at
`start`, where the stroke of the last letter of `u` ends that is in no closed branch, or at the root
if there is no such letter. -/
def GrowsFrom (segments : List (Segment α)) (root : Point α) (u : List Char) (start : Point α) :
    Prop :=
  (∃ q parent, LastOpenLetter u q ∧ segments[letters (u.take q)]? = some parent ∧
    start = parent.finish) ∨
  (AllInClosedBranches u ∧ start = root)

namespace GrowsFrom

variable {segments segments' : List (Segment α)} {root start : Point α} {x b : List Char}

/-- Later strokes change nothing. -/
theorem mono (h : GrowsFrom segments root x start) (hs : segments <+: segments') :
    GrowsFrom segments' root x start := by
  obtain ⟨new, rfl⟩ := hs
  rcases h with ⟨q, parent, hq, hparent, rfl⟩ | hroot
  · obtain ⟨hlt, -⟩ := List.getElem?_eq_some_iff.1 hparent
    exact .inl ⟨q, parent, hq, (List.getElem?_append_left hlt).trans hparent, rfl⟩
  · exact .inr hroot

theorem append (h : GrowsFrom segments root x start) (hb : ∀ v, v <+: b → 0 ≤ level v)
    (hletters : AllInClosedBranches b) : GrowsFrom segments root (x ++ b) start := by
  rcases h with ⟨q, parent, hq, hparent, rfl⟩ | ⟨hall, rfl⟩
  · refine .inl ⟨q, parent, hq.append hletters hb, ?_, rfl⟩
    rwa [List.take_append_of_le_length hq.letter.lt.le]
  · exact .inr ⟨.append hletters hall, rfl⟩

/-- A letter at the end is where the next stroke begins. -/
theorem concat (u : List Char) {c : Char} (hc : isLetter c) (old : List (Segment α))
    (s : Segment α) (hold : old.length = letters u) :
    GrowsFrom (old ++ [s]) root (u ++ [c]) s.finish := by
  refine .inl ⟨u.length, s, lastOpenLetter_concat u hc, ?_, rfl⟩
  rw [List.take_left, ← hold, List.getElem?_concat_length]

end GrowsFrom

/-! ## What a walk knows -/

/-- The poses saved while the text was read, the newest first: each is where the stroke after its
`[` begins, and what has been read since then is balanced, but for the brackets of newer poses. -/
inductive Saved (segments : List (Segment α)) (root : Point α) :
    List Char → List (Pose α) → Prop where
  | nil (u : List Char) : Saved segments root u []
  | cons {x w : List Char} {saved : Pose α} {branches : List (Pose α)} :
    GrowsFrom segments root x saved.position → Balanced w → Saved segments root x branches →
      Saved segments root (x ++ '[' :: w) (saved :: branches)

namespace Saved

variable {segments segments' : List (Segment α)} {root : Point α} {u b : List Char}
  {branches : List (Pose α)}

theorem mono (h : Saved segments root u branches) (hs : segments <+: segments') :
    Saved segments' root u branches := by
  induction h with
  | nil u => exact .nil u
  | cons hgrows hw _ ih => exact .cons (hgrows.mono hs) hw ih

theorem append (h : Saved segments root u branches) (hb : Balanced b) :
    Saved segments root (u ++ b) branches := by
  cases h with
  | nil => exact .nil _
  | cons hgrows hw hbranches =>
    rw [List.append_assoc, List.cons_append]
    exact .cons hgrows (hw.append_iff.2 hb) hbranches

end Saved

/-- On a walk from `root` that has read the text `u`, the turtle is where the next stroke begins,
and has saved such places. -/
structure Trail.Grown (root : Point α) (u : List Char) (t : Trail α) : Prop where
  turtle : GrowsFrom t.segments root u t.pose.position
  branches : Saved t.segments root u t.branches

namespace Trail.Grown

variable {root : Point α} {u : List Char} {t t' : Trail α}

/-- What is neither a letter nor a bracket moves nothing. -/
theorem still (h : t.Grown root u) {c : Char} (hletters : letters [c] = 0) (hlevel : level [c] = 0)
    (hstrokes : t'.strokes = t.strokes) (hposition : t'.pose.position = t.pose.position)
    (hbranches : t'.branches = t.branches) : t'.Grown root (u ++ [c]) := by
  have hsegments : t'.segments = t.segments := congrArg List.reverse hstrokes
  have hbalanced := balanced_singleton hlevel
  refine ⟨?_, ?_⟩
  · rw [hsegments, hposition]
    exact h.turtle.append (balanced_iff_level.1 hbalanced).2
      (allInClosedBranches_of_letters hletters)
  · rw [hsegments, hbranches]
    exact h.branches.append hbalanced

theorem push (h : t.Grown root u) (maxDepth : Nat) :
    { t with branches := t.pose :: t.branches, maxDepth := maxDepth : Trail α }.Grown root
      (u ++ ['[']) where
  turtle := h.turtle.append (forall_prefix_singleton_level (by decide))
    (allInClosedBranches_of_letters (by decide))
  branches := .cons h.turtle (by decide) h.branches

/-- A branch is closed at the pose saved for it, and its letters are in it. -/
theorem pop (h : t.Grown root u) {saved : Pose α} {branches : List (Pose α)}
    (hopen : t.branches = saved :: branches) :
    { t with pose := saved, branches := branches : Trail α }.Grown root (u ++ [']']) := by
  have hsaved := h.branches
  rw [hopen] at hsaved
  cases hsaved with
  | @cons x w _ _ hgrows hw hbranches =>
    have htext : x ++ '[' :: w ++ [']'] = x ++ '[' :: (w ++ [']']) := by simp
    rw [htext]
    exact ⟨hgrows.append (balanced_iff_level.1 hw.bracket).2 (allInClosedBranches_bracket hw),
      hbranches.append hw.bracket⟩

variable [Scalar α] {turtle : Turtle α}

theorem start (pose : Pose α) : (Trail.start pose).Grown pose.position [] where
  turtle := .inr ⟨fun _ h => absurd h.lt (Nat.not_lt_zero _), rfl⟩
  branches := .nil []

/-- A move leaves a stroke, at the end of which the turtle is. -/
theorem letter (h : t.Grown root u) (hcounts : t.Counts .draw u) (l : Letter) :
    (t.advance turtle .draw).Grown root (u ++ [l.toChar]) := by
  have hbalanced : Balanced [l.toChar] := by
    refine balanced_of_forall_ne fun c hc => ?_
    rw [List.mem_singleton.1 hc]
    exact ⟨l.toChar_ne (by decide), l.toChar_ne (by decide)⟩
  have hcount : t.segments.length = letters u := List.length_reverse.trans (hcounts.strokes rfl)
  let stroke : Segment α := ⟨t.pose.position, (t.pose.advance turtle.stepLength).position⟩
  have hadded : (t.advance turtle .draw).segments = t.segments ++ [stroke] := List.reverse_cons
  refine ⟨?_, ?_⟩
  · rw [hadded]
    exact .concat u l.isLetter_toChar t.segments stroke hcount
  · rw [hadded]
    exact (h.branches.mono (List.prefix_append ..)).append hbalanced

theorem act (h : t.Grown root u) (hcounts : t.Counts .draw u) {c : Char}
    (ht : t.act turtle .draw (Command.ofChar c) = some t') : t'.Grown root (u ++ [c]) := by
  unfold Command.ofChar at ht
  cases hs : Symbol.ofChar? c with
  | none =>
    have hcommand : Command.ofChar c = .ignore := by simp only [Command.ofChar, hs]
    rw [hs] at ht
    cases ht
    refine h.still ?_ ?_ rfl rfl rfl
    · rw [letters_singleton, hcommand]
      rfl
    · rw [level_singleton, hcommand]
      rfl
  | some s =>
    rw [hs] at ht
    obtain rfl := Symbol.toChar_eq_of_ofChar? hs
    cases s with
    | letter l =>
      cases ht
      exact h.letter hcounts l
    | plus =>
      cases ht
      exact h.still (by decide) (by decide) rfl rfl rfl
    | minus =>
      cases ht
      exact h.still (by decide) (by decide) rfl rfl rfl
    | openBracket =>
      cases ht
      exact h.push _
    | closeBracket =>
      obtain ⟨saved, branches, hopen, rfl⟩ := act_pop_eq_some_iff.1 ht
      exact h.pop hopen

/-- **Every character keeps what the walk knows.** -/
theorem step (h : t.Grown root u) (hcounts : t.Counts .draw u) {c : Char}
    (ht : t.step turtle .draw c = .ok t') : t'.Grown root (u ++ [c]) := by
  obtain ⟨t₁, hact, rfl⟩ := step_eq_ok_iff.1 ht
  have h₁ := h.act hcounts hact
  exact ⟨h₁.turtle, h₁.branches⟩

/-- A walk has grown from where it started, with a stroke for each letter. -/
theorem foldlM {pose : Pose α} (h : u.foldlM (Trail.step turtle .draw) (Trail.start pose) = .ok t) :
    t.segments.length = letters u ∧ t.Grown pose.position u := by
  have hboth := foldlM_reads (fun u t => t.Counts .draw u ∧ t.Grown pose.position u)
    (fun _ _ _ _ ht hc => ⟨ht.1.step hc, ht.2.step ht.1 hc⟩) u
    ⟨Trail.Counts.start .draw pose, start pose⟩ h
  exact ⟨List.length_reverse.trans (hboth.1.strokes rfl), hboth.2⟩

end Trail.Grown

/-! ## Strokes and letters -/

/-- Each number below that of the letters of a text is the number of letters before one of them. -/
theorem exists_letter_of_lt {u : List Char} {i : Nat} (h : i < letters u) :
    ∃ v l w, u = v ++ Letter.toChar l :: w ∧ letters v = i := by
  induction u using List.reverseRecOn with
  | nil => exact absurd h (Nat.not_lt_zero i)
  | append_singleton u c ih =>
    rcases Nat.lt_or_ge i (letters u) with hlt | hge
    · obtain ⟨v, l, w, rfl, hv⟩ := ih hlt
      exact ⟨v, l, w ++ [c], by simp, hv⟩
    · rw [letters_append] at h
      have hc : isLetter c := by
        by_contra hc
        have hnone : letters [c] = 0 := by rw [letters, List.countP_singleton, if_neg hc]
        omega
      obtain ⟨l, hl⟩ := Option.isSome_iff_exists.1 hc
      have hone : letters [c] ≤ 1 := List.countP_le_length
      refine ⟨u, l, [], ?_, ?_⟩
      · rw [Letter.toChar_eq_of_ofChar? hl]
      · omega

/-- On a letter, drawing adds a stroke and nothing to those before. -/
theorem Trail.segments_of_letter [Scalar α] {turtle : Turtle α} {t t' : Trail α} {l : Letter}
    (h : t.step turtle .draw l.toChar = .ok t') :
    t'.segments
      = t.segments ++ [⟨t.pose.position, (t.pose.advance turtle.stepLength).position⟩] := by
  have hread : Symbol.ofChar? l.toChar = some (.letter l) := Symbol.ofChar?_toChar (.letter l)
  have hforward : Command.ofChar l.toChar = .forward := by simp only [Command.ofChar, hread]
  obtain ⟨t₁, hact, rfl⟩ := Trail.step_eq_ok_iff.1 h
  rw [hforward] at hact
  cases hact
  exact List.reverse_cons

/-- **Strokes form a tree.** However a drawing walk ends, its strokes are in the order of the
letters: stroke `i` is the one that the letter leaves before which there are `i` others, from where
the walk over the text up to this letter has come to. It begins where the stroke of the last letter
before it ends that is in no branch closed by then, or where the walk started if there is no such
letter. -/
theorem Turtle.segments_grow [Scalar α] {σ : Type} (turtle : Turtle α) (check : Checkpoint σ)
    (sequence : List Char) (pose : Pose α) (s : σ) :
    let segments := (turtle.trace .draw check sequence pose s).1.2.segments
    ∀ (i : Nat) (h : i < segments.length), ∃ u l v, sequence = u ++ Letter.toChar l :: v ∧
      letters u = i ∧
      (∃ t, turtle.follow .draw u pose = .ok t ∧ t.segments = segments.take i ∧
        segments[i] = ⟨t.pose.position, (t.pose.advance turtle.stepLength).position⟩) ∧
      GrowsFrom segments pose.position u segments[i].start := by
  intro segments i h
  obtain ⟨front, others, hsequence, hfold⟩ :=
    exists_foldlM_of_sweep check (Trail.step turtle .draw) sequence (Trail.start pose) s
  obtain ⟨hlength, -⟩ := Trail.Grown.foldlM hfold
  obtain ⟨u, l, v, rfl, hu⟩ := exists_letter_of_lt (hlength ▸ h)
  obtain ⟨t, ht, hrest⟩ := foldlM_append_eq_ok_iff.1 hfold
  obtain ⟨t₁, hstep, hlater⟩ := foldlM_cons_eq_ok_iff.1 hrest
  obtain ⟨hcount, hgrown⟩ := Trail.Grown.foldlM ht
  have hi : t.segments.length = i := hcount.trans hu
  let stroke : Segment α := ⟨t.pose.position, (t.pose.advance turtle.stepLength).position⟩
  obtain ⟨new, hsegments⟩ : ∃ new, segments = t.segments ++ stroke :: new := by
    obtain ⟨new, hnew⟩ := Trail.segments_prefix hlater
    rw [Trail.segments_of_letter hstep, List.append_assoc] at hnew
    exact ⟨new, hnew.symm⟩
  have hstroke : segments[i] = stroke := by
    refine (List.getElem?_eq_some_iff.1 ?_).2
    rw [hsegments, ← hi, List.getElem?_append_right (Nat.le_refl _), Nat.sub_self]
    rfl
  refine ⟨u, l, v ++ others, ?_, hu, ⟨t, ?_, ?_, hstroke⟩, ?_⟩
  · rw [hsequence, List.append_assoc, List.cons_append]
  · rw [Turtle.follow_eq_foldlM, ht]
  · rw [hsegments, ← hi, List.take_left]
  · rw [hstroke]
    exact hgrown.turtle.mono (hsegments ▸ List.prefix_append _ _)

/-- A walk that fails at its second `]` has left three strokes. The last begins where the first
ends, as the letter between them is in a closed branch. -/
theorem Turtle.segments_grow_past_branch :
    let _ := Scalar.quarterTurns
    let turtle : Turtle ℚ := ⟨90, 10⟩
    let sequence := "F[+F]F]F".toList
    let pass := (turtle.trace .draw Checkpoint.uninterrupted sequence Pose.initial ()).1
    pass.1 = .failed (.stackUnderflow 6) ∧
      pass.2.segments = [⟨⟨0, 0⟩, ⟨0, -10⟩⟩, ⟨⟨0, -10⟩, ⟨10, -10⟩⟩, ⟨⟨0, -10⟩, ⟨0, -20⟩⟩] ∧
      ∃ u l v, sequence = u ++ Letter.toChar l :: v ∧ letters u = 2 ∧
        GrowsFrom pass.2.segments ⟨0, 0⟩ u ⟨0, -10⟩ := by
  intro _ turtle sequence pass
  have hfails : pass.1 = .failed (.stackUnderflow 6) := by decide +kernel
  have hsegments : pass.2.segments
      = [⟨⟨0, 0⟩, ⟨0, -10⟩⟩, ⟨⟨0, -10⟩, ⟨10, -10⟩⟩, ⟨⟨0, -10⟩, ⟨0, -20⟩⟩] := by
    decide +kernel
  have hthird : 2 < pass.2.segments.length := by
    rw [hsegments]
    decide
  obtain ⟨u, l, v, hsequence, hu, -, hgrows⟩ :=
    turtle.segments_grow Checkpoint.uninterrupted sequence Pose.initial () 2 hthird
  have hstart : pass.2.segments[2].start = ⟨0, -10⟩ := by simp only [hsegments]; rfl
  rw [hstart] at hgrows
  exact ⟨hfails, hsegments, u, l, v, hsequence, hu, hgrows⟩

end Lindenmayer
