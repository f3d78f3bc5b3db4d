import Lindenmayer.Proofs.Render.Symbols
import Lindenmayer.Proofs.Turtle.Outcome

set_option autoImplicit false

/-! # Stray characters

A sequence that is expanded or walked by itself has passed no check, so it may hold characters that
are no symbols. They are read, and nothing comes of them. `Strewn n t s` says that `s` is the
sequence `t` with `n` such characters put in, wherever that is.

A walk over `s` then comes to where a walk over `t` does, with `n` more characters read
(`Strewn.foldlM`). So it leaves the same strokes and reports the same, and if it fails, it is at the
same `]`, whose position counts the characters put in before it. As a stray character has no
successor, the generations after `s` and `t` are the same. All this is in `strays_neutral`. -/

namespace Lindenmayer

/-- A character that is no symbol: neither one of `A` to `Z` nor a turn nor a bracket. -/
def Stray (c : Char) : Prop := ¬ ('A' ≤ c ∧ c ≤ 'Z') ∧ c ∉ ['+', '-', '[', ']']

instance (c : Char) : Decidable (Stray c) := inferInstanceAs (Decidable (_ ∧ _))

/-- No reader of sequences takes a stray character for a symbol. -/
theorem Stray.ofChar?_eq_none {c : Char} (h : Stray c) : Symbol.ofChar? c = none := by
  have hnone : ¬ isBodySymbol c = true := by
    rw [isBodySymbol_iff, not_or]
    exact h
  simpa [isBodySymbol] using hnone

/-! ## Sequences with stray characters put in -/

/-- The sequence `s` is the sequence `t` with `n` stray characters put in, at any places. The
characters of `t` are kept, also those of them that are stray. -/
inductive Strewn : Nat → List Char → List Char → Prop where
  | nil : Strewn 0 [] []
  | keep (c : Char) {n : Nat} {t s : List Char} : Strewn n t s → Strewn n (c :: t) (c :: s)
  | stray {c : Char} {n : Nat} {t s : List Char} : Stray c → Strewn n t s → Strewn (n + 1) t (c :: s)

/-- A character of the one sequence is found in the other, with the stray characters divided into
those before it and those after it. -/
theorem Strewn.exists_split {n : Nat} {u v s : List Char} {c : Char}
    (h : Strewn n (u ++ c :: v) s) :
    ∃ a b u' v', n = a + b ∧ s = u' ++ c :: v' ∧ Strewn a u u' ∧ Strewn b v v' := by
  generalize ht : u ++ c :: v = t at h
  induction h generalizing u with
  | nil => simp at ht
  | @keep d n t s h ih =>
    cases u with
    | nil =>
      -- the character itself has been kept here, and no stray one stands before it
      cases ht
      exact ⟨0, n, [], s, (Nat.zero_add n).symm, rfl, .nil, h⟩
    | cons e u =>
      rw [List.cons_append, List.cons_eq_cons] at ht
      obtain ⟨rfl, ht⟩ := ht
      obtain ⟨a, b, u', v', hn, rfl, hu, hv⟩ := ih ht
      exact ⟨a, b, e :: u', v', hn, rfl, .keep e hu, hv⟩
  | @stray d n t s hd h ih =>
    obtain ⟨a, b, u', v', hn, rfl, hu, hv⟩ := ih ht
    exact ⟨a + 1, b, d :: u', v', by omega, rfl, .stray hd hu, hv⟩

/-! ## Walks -/

variable {α : Type}

/-- The trail of a walk that has come as far with `n` more characters read. -/
def Trail.delayed (t : Trail α) (n : Nat) : Trail α := { t with read := t.read + n }

section Walks

variable [Scalar α] {turtle : Turtle α} {mode : Mode}

/-- No command looks at the number of characters read. -/
theorem Trail.act_delayed (t : Trail α) (n : Nat) (command : Command) :
    (t.delayed n).act turtle mode command
      = (t.act turtle mode command).map fun t' => t'.delayed n := by
  cases command with
  | forward => cases mode <;> rfl
  | turn rotation => rfl
  | push => rfl
  | pop =>
    obtain ⟨pose, branches, bounds, strokes, moves, maxDepth, read⟩ := t
    cases branches <;> rfl
  | ignore => rfl

theorem Trail.step_delayed {t t' : Trail α} {c : Char} (h : t.step turtle mode c = .ok t')
    (n : Nat) : (t.delayed n).step turtle mode c = .ok (t'.delayed n) := by
  obtain ⟨t₁, hact, rfl⟩ := Trail.step_eq_ok_iff.1 h
  refine Trail.step_eq_ok_iff.2 ⟨t₁.delayed n, ?_, ?_⟩
  · rw [Trail.act_delayed, hact]
    rfl
  · simp only [Trail.delayed, Nat.add_right_comm]

/-- On a stray character a walk does nothing but read it. -/
theorem Trail.step_stray (t : Trail α) {c : Char} (h : Stray c) :
    t.step turtle mode c = .ok (t.delayed 1) := by
  have hignore : Command.ofChar c = .ignore := by simp only [Command.ofChar, h.ofChar?_eq_none]
  simp only [Trail.step, hignore, Trail.act, Trail.delayed]

/-- **Stray characters only delay a walk.** The walk over the sequence with them may itself be `k`
characters late. -/
theorem Strewn.foldlM {n : Nat} {u s : List Char} (h : Strewn n u s) {t t' : Trail α}
    (ht : u.foldlM (Trail.step turtle mode) t = .ok t') (k : Nat) :
    s.foldlM (Trail.step turtle mode) (t.delayed k) = .ok (t'.delayed (k + n)) := by
  induction h generalizing t k with
  | nil =>
    cases ht
    rfl
  | keep c _ ih =>
    obtain ⟨t₁, hstep, hrest⟩ := foldlM_cons_eq_ok_iff.1 ht
    exact foldlM_cons_eq_ok_iff.2 ⟨t₁.delayed k, Trail.step_delayed hstep k, ih hrest k⟩
  | @stray c n _ _ hc _ ih =>
    -- the other walk has not gone on, so this one is a character later than before
    refine foldlM_cons_eq_ok_iff.2 ⟨t.delayed (k + 1), (t.delayed k).step_stray hc, ?_⟩
    have hlater : k + 1 + n = k + (n + 1) := by omega
    exact hlater ▸ ih ht (k + 1)

/-- A walk from the start is late by the stray characters put in. -/
theorem Strewn.foldlM_start {n : Nat} {u s : List Char} (h : Strewn n u s) {pose : Pose α}
    {t : Trail α} (ht : u.foldlM (Trail.step turtle mode) (Trail.start pose) = .ok t) :
    s.foldlM (Trail.step turtle mode) (Trail.start pose) = .ok (t.delayed n) := by
  have hdelayed := h.foldlM ht 0
  rwa [Nat.zero_add] at hdelayed

/-- Uninterrupted, a walk that gets through is completed. -/
theorem Turtle.trace_of_ok {u : List Char} {pose : Pose α} {t : Trail α}
    (ht : u.foldlM (Trail.step turtle mode) (Trail.start pose) = .ok t) :
    (turtle.trace mode Checkpoint.uninterrupted u pose ()).1 = (.complete (), t) :=
  congrArg Prod.fst (sweep_of_proceed ht fun _ _ => rfl)

/-- A walk that has no branch open fails at a `]`. -/
theorem Turtle.trace_of_close {u : List Char} {pose : Pose α} {t : Trail α}
    (ht : u.foldlM (Trail.step turtle mode) (Trail.start pose) = .ok t) (hnone : t.branches = [])
    (v : List Char) :
    (turtle.trace mode Checkpoint.uninterrupted (u ++ ']' :: v) pose ()).1
      = (.failed (.stackUnderflow t.read), t) :=
  congrArg Prod.fst (sweep_of_failing ht (Trail.step_close hnone) v fun _ _ => rfl)

end Walks

/-! ## Generations -/

/-- What is no symbol has no successor. -/
theorem Stray.successor_eq_nil {c : Char} (h : Stray c) (table : RuleTable) :
    successor table c = [] := by
  simp only [successor, h.ofChar?_eq_none]

theorem Strewn.nextGeneration {n : Nat} {t s : List Char} (h : Strewn n t s) (table : RuleTable) :
    nextGeneration table s = nextGeneration table t := by
  unfold Lindenmayer.nextGeneration
  induction h with
  | nil => rfl
  | keep c _ ih => rw [List.flatMap_cons, List.flatMap_cons, ih]
  | stray hc _ ih => rw [List.flatMap_cons, hc.successor_eq_nil table, List.nil_append, ih]

/-- Separating commas are stray characters. -/
theorem exists_strewn_stripCommas (start : List Char) : ∃ n, Strewn n (stripCommas start) start := by
  induction start with
  | nil => exact ⟨0, .nil⟩
  | cons c start ih =>
    obtain ⟨n, hn⟩ := ih
    by_cases hc : c = ','
    · subst hc
      exact ⟨n + 1, .stray (by decide) hn⟩
    · have hkept : stripCommas (c :: start) = c :: stripCommas start :=
        List.filter_cons_of_pos (by simpa using hc)
      exact ⟨n, hkept ▸ .keep c hn⟩

/-- After the first generation nothing tells whether stray characters were put in. -/
theorem Strewn.expand_succ {n : Nat} {t s : List Char} (h : Strewn n t s) (table : RuleTable)
    (m : Nat) : expand s table (m + 1) = expand t table (m + 1) := by
  have hfirst : ∀ start, Lindenmayer.nextGeneration table (stripCommas start)
      = Lindenmayer.nextGeneration table start := by
    intro start
    obtain ⟨k, hk⟩ := exists_strewn_stripCommas start
    exact (hk.nextGeneration table).symm
  simp only [expand, generationAfter, hfirst, h.nextGeneration table]

/-- **Stray characters are neutral.** Let `s` be the sequence `t` with `n` stray characters put in.
The uninterrupted walks over them, whatever the turtle, the kind of walk and the pose they start
from, leave the same strokes and report the same. Either both are completed, or both fail at the
same `]`, with positions that differ by the number of stray characters put in before it. All
generations after the starting sequences are equal, with any table. -/
theorem strays_neutral [Scalar α] {n : Nat} {t s : List Char} (h : Strewn n t s) (turtle : Turtle α)
    (mode : Mode) (pose : Pose α) :
    let plain := (turtle.trace mode Checkpoint.uninterrupted t pose ()).1
    let strewn := (turtle.trace mode Checkpoint.uninterrupted s pose ()).1
    (strewn.2.segments = plain.2.segments ∧ strewn.2.summary = plain.2.summary ∧
      ((plain.1 = .complete () ∧ strewn.1 = .complete ()) ∨
        ∃ a b u u' v v', n = a + b ∧ t = u ++ ']' :: v ∧ s = u' ++ ']' :: v' ∧
          Strewn a u u' ∧ Strewn b v v' ∧ plain.1 = .failed (.stackUnderflow u.length) ∧
          strewn.1 = .failed (.stackUnderflow (u.length + a)))) ∧
      ∀ table m, 1 ≤ m → expand s table m = expand t table m := by
  intro plain strewn
  refine ⟨?_, fun table m hm => ?_⟩
  · by_cases hlevel : ∀ w, w <+: t → 0 ≤ level w
    · obtain ⟨trail, hfold, -⟩ := turtle.exists_trail mode pose hlevel
      have hplain : plain = (.complete (), trail) := Turtle.trace_of_ok hfold
      have hstrewn : strewn = (.complete (), trail.delayed n) :=
        Turtle.trace_of_ok (h.foldlM_start hfold)
      rw [hplain, hstrewn]
      exact ⟨rfl, rfl, .inl ⟨rfl, rfl⟩⟩
    · obtain ⟨u, v, rfl, hground, hparts⟩ := exists_dip hlevel
      obtain ⟨a, b, u', v', hn, rfl, hu, hv⟩ := h.exists_split
      obtain ⟨trail, hfold, hrecords, hcounts⟩ := turtle.exists_trail mode pose hparts
      have hnone : trail.branches = [] := hrecords.branches_eq_nil hground
      have hplain : plain = (.failed (.stackUnderflow trail.read), trail) :=
        Turtle.trace_of_close hfold hnone v
      have hstrewn : strewn = (.failed (.stackUnderflow (trail.read + a)), trail.delayed a) :=
        Turtle.trace_of_close (hu.foldlM_start hfold) hnone v'
      rw [hplain, hstrewn, hcounts.read]
      exact ⟨rfl, rfl, .inr ⟨a, b, u, u', v, v', hn, rfl, rfl, hu, hv, rfl, rfl⟩⟩
  · obtain ⟨k, rfl⟩ := Nat.exists_eq_add_of_le' hm
    exact h.expand_succ table k

/-- Six stray characters, five of them before the `]` at which the walk fails. -/
theorem strays_neutral_before_underflow :
    let turtle : Turtle Float := ⟨90, 10⟩
    let t := "F[+F]]F".toList
    let s := "f😀F[,+F ]\n]F\x00".toList
    let plain := (turtle.trace .draw Checkpoint.uninterrupted t Pose.initial ()).1
    let strewn := (turtle.trace .draw Checkpoint.uninterrupted s Pose.initial ()).1
    Strewn 6 t s ∧ plain.1 = .failed (.stackUnderflow 5) ∧
      strewn.1 = .failed (.stackUnderflow 10) ∧ strewn.2.segments = plain.2.segments ∧
      ∀ table, expand s table 3 = expand t table 3 := by
  intro turtle t s plain strewn
  have hs : Strewn 6 t s :=
    .stray (by decide) (.stray (by decide) (.keep _ (.keep _ (.stray (by decide) (.keep _ (.keep _
      (.stray (by decide) (.keep _ (.stray (by decide) (.keep _ (.keep _ (.stray (by decide)
        .nil))))))))))))
  obtain ⟨⟨hsegments, -, -⟩, hexpand⟩ := strays_neutral hs turtle .draw Pose.initial
  exact ⟨hs, by decide, by decide, hsegments, fun table => hexpand table 3 (by decide)⟩

end Lindenmayer
