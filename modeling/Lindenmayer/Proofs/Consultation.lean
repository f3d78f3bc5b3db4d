import Mathlib.Data.ENat.Basic
import Lindenmayer.Proofs.Watched

set_option autoImplicit false

/-! # How many questions work asks

Work that asks a checkpoint is determined by three things: the number of its questions, the outcome
it comes to when none of them halts it, and the answers. `Checkpoint.consult` asks a number of
questions up to the first that halts, and `Watched.Asks` says of work that it asks `n` questions and
comes to `plain`: it is halted where the consultation is, and in the same state. The rules follow
the ways in which work is put together.

`EndsAfter` says of one run what it comes to and after exactly how many questions. For a loop this
is told by the answers alone: it ends with its items, at the first that fails, or at the first
question that is answered with `halt` (`sweep_of_proceed`, `sweep_of_failing`, `sweep_of_halt`). -/

namespace Lindenmayer

variable {σ ε α β τ ι : Type}

/-! ## Asking several questions -/

namespace Checkpoint

/-- Asks `n` questions, or fewer if one of them halts. -/
def consult (check : Checkpoint σ) : Nat → Checkpoint σ
  | 0, s => (.proceed, s)
  | n + 1, s =>
    match check s with
    | (.halt, s) => (.halt, s)
    | (.proceed, s) => check.consult n s

theorem consult_succ (check : Checkpoint σ) (n : Nat) (s : σ) :
    check.consult (n + 1) s
      = match check s with
        | (.halt, s) => (.halt, s)
        | (.proceed, s) => check.consult n s :=
  rfl

theorem consult_add (check : Checkpoint σ) (m n : Nat) (s : σ) :
    check.consult (m + n) s
      = match check.consult m s with
        | (.halt, s) => (.halt, s)
        | (.proceed, s) => check.consult n s := by
  induction m generalizing s with
  | zero =>
    rw [Nat.zero_add]
    rfl
  | succ m ih =>
    rw [Nat.add_right_comm, consult_succ, consult_succ]
    cases check s with
    | mk verdict s₁ =>
      cases verdict with
      | halt => rfl
      | proceed => exact ih s₁

/-- What one question makes of a property that may depend on the number of questions before it,
several questions make of it. -/
theorem consult_cases {check : Checkpoint σ} {I J : Nat → σ → Prop}
    (hstep : ∀ {k s}, I k s →
      (∃ s', check s = (.proceed, s') ∧ I (k + 1) s') ∨ ∃ s', check s = (.halt, s') ∧ J k s')
    (n : Nat) {k : Nat} {s : σ} (hs : I k s) :
    (∃ s', check.consult n s = (.proceed, s') ∧ I (k + n) s') ∨
      ∃ m s', check.consult n s = (.halt, s') ∧ m < k + n ∧ J m s' := by
  induction n generalizing k s with
  | zero => exact .inl ⟨s, rfl, hs⟩
  | succ n ih =>
    rw [consult_succ]
    rcases hstep hs with ⟨s₁, hq, hs₁⟩ | ⟨s₁, hq, hs₁⟩
    · rw [hq]
      have h := ih hs₁
      rw [Nat.add_right_comm, Nat.add_assoc] at h
      exact h
    · rw [hq]
      exact .inr ⟨k, s₁, rfl, by omega, hs₁⟩

end Checkpoint

/-! ## Answers -/

namespace Checkpoint

variable {check : Checkpoint σ} {s : σ}

theorem after_succ (check : Checkpoint σ) (n : Nat) (s : σ) :
    check.after (n + 1) s = (check (check.after n s)).2 := by
  induction n generalizing s with
  | zero => rfl
  | succ n ih => exact ih (check s).2

/-- A question is its answer and the next state. -/
theorem ask_eq (check : Checkpoint σ) (n : Nat) (s : σ) :
    check (check.after n s) = (check.answer n s, check.after (n + 1) s) := by
  rw [after_succ]
  rfl

/-- Questions that are all answered with `proceed` are all asked. -/
theorem consult_of_proceed {n : Nat} (h : ∀ k < n, check.answer k s = .proceed) :
    check.consult n s = (.proceed, check.after n s) := by
  induction n generalizing s with
  | zero => rfl
  | succ n ih =>
    have hbefore := ih fun k hk => h k (Nat.lt_succ_of_lt hk)
    rw [consult_add, hbefore]
    simp only [consult, ask_eq, h n (Nat.lt_succ_self n)]

/-- No question is asked after one that is answered with `halt`. -/
theorem consult_of_halt {b n : Nat} (hb : b < n) (h : ∀ k < b, check.answer k s = .proceed)
    (hhalt : check.answer b s = .halt) : check.consult n s = (.halt, check.after (b + 1) s) := by
  obtain ⟨later, rfl⟩ := Nat.exists_eq_add_of_lt hb
  rw [Nat.add_assoc, consult_add, consult_of_proceed h]
  simp only [consult_succ, ask_eq, hhalt]

/-- When not all of `n` questions are answered with `proceed`, one is the first that is not. -/
theorem exists_halt {n : Nat} (h : ¬ ∀ k < n, check.answer k s = .proceed) :
    ∃ b < n, (∀ k < b, check.answer k s = .proceed) ∧ check.answer b s = .halt := by
  have hhalt : ∃ b, b < n ∧ check.answer b s ≠ .proceed := by simpa using h
  obtain ⟨hb, hne⟩ := Nat.find_spec hhalt
  refine ⟨Nat.find hhalt, hb, fun k hk => ?_, ?_⟩
  · by_contra hk'
    exact Nat.find_min hhalt hk ⟨hk.trans hb, hk'⟩
  · cases hanswer : check.answer (Nat.find hhalt) s with
    | proceed => exact absurd hanswer hne
    | halt => rfl

/-- The first question that is answered with `halt` is number `b`; if there is none, `b` is
infinite. -/
structure FirstHalt (check : Checkpoint σ) (s : σ) (b : ℕ∞) : Prop where
  proceed : ∀ k : ℕ, k < b → check.answer k s = .proceed
  halt : ∀ k : ℕ, b = k → check.answer k s = .halt

theorem after_budget (allowed : Option Nat) (n asked : Nat) :
    (budget allowed).after n asked = asked + n := by
  induction n with
  | zero => rfl
  | succ n ih =>
    rw [after_succ, ih]
    unfold budget
    split
    · split <;> rfl
    · rfl

/-- Without an allowance the questions are only counted. -/
theorem consult_budget_none (n asked : Nat) :
    (budget none).consult n asked = (.proceed, asked + n) := by
  rw [consult_of_proceed fun _ _ => rfl, after_budget]

/-- With an allowance of `n` questions, numbers 0 to `n - 1`, question number `n` is the first that
is answered with `halt`. -/
theorem firstHalt_budget (n : Nat) : (budget (some n)).FirstHalt 0 n where
  proceed k hk := by
    have hlt : k < n := Nat.cast_lt.1 hk
    simp [answer, after_budget, budget, hlt]
  halt k hk := by
    obtain rfl : n = k := Nat.cast_inj.1 hk
    simp [answer, after_budget, budget]

/-! ## Counting questions -/

/-- The checkpoint `check`, with the number of its questions beside its state. -/
def counted (check : Checkpoint σ) : Checkpoint (σ × Nat) := fun s =>
  ((check s.1).1, ((check s.1).2, s.2 + 1))

theorem after_counted (check : Checkpoint σ) (n asked : Nat) (s : σ) :
    check.counted.after n (s, asked) = (check.after n s, asked + n) := by
  induction n generalizing s asked with
  | zero => rfl
  | succ n ih =>
    calc check.counted.after (n + 1) (s, asked)
        = check.counted.after n ((check s).2, asked + 1) := rfl
      _ = (check.after n (check s).2, asked + 1 + n) := ih ..
      _ = (check.after (n + 1) s, asked + (n + 1)) := by
        rw [Nat.add_assoc, Nat.add_comm 1 n]
        rfl

/-- Counting its questions does not change the answers of a checkpoint. -/
theorem answer_counted (check : Checkpoint σ) (n asked : Nat) (s : σ) :
    check.counted.answer n (s, asked) = check.answer n s := by
  simp only [answer, after_counted, counted]

end Checkpoint

/-- A run under the checkpoint `check` from the state `s` comes to `result` after exactly `n`
questions. -/
structure EndsAfter {ρ : Type} (run : ∀ τ : Type, Checkpoint τ → τ → ρ × τ) (check : Checkpoint σ)
    (s : σ) (n : Nat) (result : ρ) : Prop where
  /-- Nothing but the questions changes the state of the checkpoint. -/
  outcome : run σ check s = (result, check.after n s)
  /-- Counted, they are `n`. -/
  questions : run (σ × Nat) check.counted (s, 0) = (result, (check.after n s, n))

/-- A run that is determined by the answers it gets is not changed when its questions are
counted. -/
theorem EndsAfter.of_answers {ρ : Type} {run : ∀ τ : Type, Checkpoint τ → τ → ρ × τ}
    {check : Checkpoint σ} {s : σ} {n : Nat} {result : ρ}
    (h : ∀ {τ : Type} (c : Checkpoint τ) (t : τ), (∀ k, c.answer k t = check.answer k s) →
      run τ c t = (result, c.after n t)) : EndsAfter run check s n result where
  outcome := h check s fun _ => rfl
  questions := by
    have hcounted := h check.counted (s, 0) fun k => check.answer_counted k 0 s
    rwa [Checkpoint.after_counted, Nat.zero_add] at hcounted

/-! ## Loops in two parts -/

/-- A loop that gets through its first items goes on with the others from what it has reached. -/
theorem sweep_append {check : Checkpoint σ} {step : τ → ι → Except ε τ} {items : List ι}
    {value reached : τ} {s s' : σ} (hc : check.consult items.length s = (.proceed, s'))
    (h : items.foldlM step value = .ok reached) (others : List ι) :
    sweep check step (items ++ others) value s = sweep check step others reached s' := by
  induction items generalizing value s with
  | nil =>
    cases h
    cases hc
    rfl
  | cons item items ih =>
    rw [List.length_cons, Checkpoint.consult_succ] at hc
    obtain ⟨next, hstep, hrest⟩ := foldlM_cons_eq_ok_iff.1 h
    rw [List.cons_append, sweep]
    rcases hq : check s with ⟨verdict, s₁⟩
    rw [hq] at hc
    cases verdict with
    | halt => cases hc
    | proceed =>
      simp only [hstep]
      exact ih hc hrest

/-- However a loop ends, what it has reached is the fold over the items it got through. -/
theorem exists_foldlM_of_sweep (check : Checkpoint σ) (step : τ → ι → Except ε τ) (items : List ι)
    (value : τ) (s : σ) :
    ∃ front others, items = front ++ others ∧
      front.foldlM step value = .ok (sweep check step items value s).1.2 := by
  induction items generalizing value s with
  | nil => exact ⟨[], [], rfl, rfl⟩
  | cons item items ih =>
    unfold sweep
    rcases check s with ⟨verdict, s₁⟩
    cases verdict with
    | halt => exact ⟨[], item :: items, rfl, rfl⟩
    | proceed =>
      cases hstep : step value item with
      | error error => exact ⟨[], item :: items, rfl, rfl⟩
      | ok next =>
        obtain ⟨front, others, rfl, hfold⟩ := ih next s₁
        exact ⟨item :: front, others, rfl, foldlM_cons_eq_ok_iff.2 ⟨next, hstep, hfold⟩⟩

/-! ## Where a loop ends -/

section Ends

variable {check : Checkpoint σ} {step : τ → ι → Except ε τ} {items : List ι} {value reached : τ}
  {s : σ} (h : items.foldlM step value = .ok reached)
include h

/-- A loop gets through its items when every question is answered with `proceed`. -/
theorem sweep_of_proceed (hs : ∀ k < items.length, check.answer k s = .proceed) :
    sweep check step items value s = ((.complete (), reached), check.after items.length s) := by
  have hall := sweep_append (Checkpoint.consult_of_proceed hs) h []
  rwa [List.append_nil] at hall

/-- A loop fails at the first item whose step does, when the question before it is still answered
with `proceed`. -/
theorem sweep_of_failing {item : ι} {error : ε} (herror : step reached item = .error error)
    (others : List ι) (hs : ∀ k < items.length + 1, check.answer k s = .proceed) :
    sweep check step (items ++ item :: others) value s
      = ((.failed error, reached), check.after (items.length + 1) s) := by
  have hbefore : ∀ k < items.length, check.answer k s = .proceed :=
    fun k hk => hs k (Nat.lt_succ_of_lt hk)
  have hlast := hs items.length (Nat.lt_succ_self _)
  rw [sweep_append (Checkpoint.consult_of_proceed hbefore) h]
  simp only [sweep, Checkpoint.ask_eq, hlast, herror]

/-- A loop stops before the item at which a question is answered with `halt`, and keeps what it has
reached. -/
theorem sweep_of_halt (item : ι) (others : List ι)
    (hs : ∀ k < items.length, check.answer k s = .proceed)
    (hhalt : check.answer items.length s = .halt) :
    sweep check step (items ++ item :: others) value s
      = ((.interrupted, reached), check.after (items.length + 1) s) := by
  rw [sweep_append (Checkpoint.consult_of_proceed hs) h]
  simp only [sweep, Checkpoint.ask_eq, hhalt]

end Ends

/-! ## Work and its questions -/

namespace Watched

/-- Work asks `n` questions, and comes to `plain` if none of them halts it. -/
def Asks (work : Watched σ ε α) (check : Checkpoint σ) (n : Nat) (plain : Except ε α) : Prop :=
  ∀ s, work s =
    match check.consult n s with
    | (.halt, s) => (.interrupted, s)
    | (.proceed, s) => (Ending.ofExcept plain, s)

variable {check : Checkpoint σ}

theorem Asks.done (value : α) : (Watched.done value : Watched σ ε α).Asks check 0 (.ok value) :=
  fun _ => rfl

theorem Asks.failed (error : ε) :
    (Watched.failed error : Watched σ ε α).Asks check 0 (.error error) :=
  fun _ => rfl

theorem Asks.ask : (Watched.ask check : Watched σ ε Unit).Asks check 1 (.ok ()) := by
  intro s
  unfold Watched.ask
  rw [Checkpoint.consult_succ]
  rcases check s with ⟨verdict, s₁⟩
  cases verdict <;> rfl

/-- The questions of one piece of work after another. -/
theorem Asks.andThen {work : Watched σ ε α} {next : α → Watched σ ε β} {value : α}
    {plain : Except ε β} {m n : Nat} (hw : work.Asks check m (.ok value))
    (hn : (next value).Asks check n plain) : (work.andThen next).Asks check (m + n) plain := by
  intro s
  unfold Watched.andThen
  rw [hw s, Checkpoint.consult_add]
  cases check.consult m s with
  | mk verdict s₁ =>
    cases verdict with
    | halt => rfl
    | proceed => exact hn s₁

theorem Asks.map {work : Watched σ ε α} {value : α} {n : Nat} (hw : work.Asks check n (.ok value))
    (f : α → β) : (work.map f).Asks check n (.ok (f value)) := by
  intro s
  unfold Watched.map
  rw [hw s]
  cases check.consult n s with
  | mk verdict s₁ => cases verdict <;> rfl

/-- Work is done when its questions are all answered with `proceed`. -/
theorem Asks.of_proceed {work : Watched σ ε α} {n : Nat} {plain : Except ε α}
    (hw : work.Asks check n plain) {s : σ} (h : ∀ k < n, check.answer k s = .proceed) :
    work s = (Ending.ofExcept plain, check.after n s) := by
  rw [hw s, Checkpoint.consult_of_proceed h]

/-- Work ends at the first of its questions that is answered with `halt`. -/
theorem Asks.of_halt {work : Watched σ ε α} {n b : Nat} {plain : Except ε α}
    (hw : work.Asks check n plain) {s : σ} (hb : b < n)
    (h : ∀ k < b, check.answer k s = .proceed) (hhalt : check.answer b s = .halt) :
    work s = (.interrupted, check.after (b + 1) s) := by
  rw [hw s, Checkpoint.consult_of_halt hb h hhalt]

/-- A loop that gets through asks once for each item. -/
theorem Asks.ofSweep {step : τ → ι → Except ε τ} {items : List ι} {value result : τ}
    (h : items.foldlM step value = .ok result) :
    (Watched.ofSweep check step items value).Asks check items.length (.ok result) := by
  intro s
  induction items generalizing value s with
  | nil =>
    cases h
    rfl
  | cons item items ih =>
    obtain ⟨next, hstep, hrest⟩ := foldlM_cons_eq_ok_iff.1 h
    unfold Watched.ofSweep sweep
    rw [List.length_cons, Checkpoint.consult_succ]
    cases hq : check s with
    | mk verdict s₁ =>
      cases verdict with
      | halt => rfl
      | proceed =>
        simp only [hstep]
        exact ih hrest s₁

end Watched

end Lindenmayer
