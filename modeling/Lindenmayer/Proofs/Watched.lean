import Lindenmayer.Checkpoint

set_option autoImplicit false

/-! # Watched work computes what it would compute unwatched

Work that asks a checkpoint either is halted by it or ends as it would end without one. The
predicate `Watched.Computes` says so of one piece of work, together with what becomes of the
checkpoint's states: `I` holds of them for as long as the work goes on, and `J` holds of the state
it is halted in. Its rules follow the ways in which watched work is put together, the loop `sweep`
included, so a fact about one question to a checkpoint (`Checkpoint.Keeps`) becomes a fact about all
work under that checkpoint. -/

namespace Lindenmayer

variable {σ ε α β τ ι : Type}

/-! ## One question -/

/-- An answer `proceed` keeps the states of a checkpoint in `I`, and an answer `halt` leads from `I`
to `J`. -/
structure Checkpoint.Keeps (check : Checkpoint σ) (I J : σ → Prop) : Prop where
  proceed : ∀ {s s' : σ}, I s → check s = (.proceed, s') → I s'
  halt : ∀ {s s' : σ}, I s → check s = (.halt, s') → J s'

/-- Nothing is ever halted by the checkpoint that never halts. -/
theorem Checkpoint.uninterrupted_keeps :
    Checkpoint.uninterrupted.Keeps (fun _ => True) (fun _ => False) where
  proceed _ _ := trivial
  halt _ h := by simp [Checkpoint.uninterrupted] at h

/-- Any checkpoint will do when nothing is said of its states. -/
theorem Checkpoint.keeps_trivially (check : Checkpoint σ) :
    check.Keeps (fun _ => True) (fun _ => True) where
  proceed _ _ := trivial
  halt _ _ := trivial

/-! ## Outcomes -/

/-- The outcome of work that is not halted. -/
def Ending.ofExcept : Except ε α → Ending ε α
  | .ok value => .complete value
  | .error error => .failed error

theorem Ending.ofExcept_map (f : α → β) (plain : Except ε α) :
    (Ending.ofExcept (plain.map f) : Ending ε β) = (Ending.ofExcept plain).map f := by
  cases plain <;> rfl

/-- An outcome and the state it is reached in agree with `plain`, unless the work was halted. -/
inductive Ending.Agrees (plain : Except ε α) (I J : σ → Prop) : Ending ε α × σ → Prop where
  | complete {value : α} {s : σ} : plain = .ok value → I s → Agrees plain I J (.complete value, s)
  | failed {error : ε} {s : σ} : plain = .error error → I s → Agrees plain I J (.failed error, s)
  | interrupted {s : σ} : J s → Agrees plain I J (.interrupted, s)

/-- Watched work computes `plain`: started in a state of `I` it ends as `plain` says, in a state of
`I` again, or is halted in a state of `J`. -/
def Watched.Computes (work : Watched σ ε α) (plain : Except ε α) (I J : σ → Prop) : Prop :=
  ∀ s, I s → Ending.Agrees plain I J (work s)

/-! ## Folds that may fail -/

/-- A fold gets through when its first step succeeds and it gets through the rest from there. -/
theorem foldlM_cons_eq_ok_iff {step : τ → ι → Except ε τ} {item : ι} {items : List ι}
    {value result : τ} :
    (item :: items).foldlM step value = .ok result ↔
      ∃ next, step value item = .ok next ∧ items.foldlM step next = .ok result := by
  rw [List.foldlM_cons]
  cases step value item with
  | error error => exact ⟨nofun, nofun⟩
  | ok next =>
    constructor
    · exact fun h => ⟨next, rfl, h⟩
    · rintro ⟨_, ⟨⟩, h⟩
      exact h

/-- A fold gets through two lists when it gets through the first and through the second from
there. -/
theorem foldlM_append_eq_ok_iff {step : τ → ι → Except ε τ} {items others : List ι}
    {value result : τ} :
    (items ++ others).foldlM step value = .ok result ↔
      ∃ next, items.foldlM step value = .ok next ∧ others.foldlM step next = .ok result := by
  rw [List.foldlM_append]
  cases items.foldlM step value with
  | error error => exact ⟨nofun, nofun⟩
  | ok next =>
    constructor
    · exact fun h => ⟨next, rfl, h⟩
    · rintro ⟨_, ⟨⟩, h⟩
      exact h

namespace Watched

variable {I J : σ → Prop}

/-! ## Rules -/

theorem Computes.done (value : α) : (Watched.done value : Watched σ ε α).Computes (.ok value) I J :=
  fun _ hs => .complete rfl hs

/-- Work that cannot be done. -/
def failed (error : ε) : Watched σ ε α := fun s => (.failed error, s)

theorem Computes.failed (error : ε) :
    (Watched.failed error : Watched σ ε α).Computes (.error error) I J :=
  fun _ hs => .failed rfl hs

/-- One question, and no work. -/
def ask (check : Checkpoint σ) : Watched σ ε Unit := fun s =>
  match check s with
  | (.halt, s) => (.interrupted, s)
  | (.proceed, s) => (.complete (), s)

/-- A question, and then work. -/
theorem ask_andThen (check : Checkpoint σ) (next : Unit → Watched σ ε β) (s : σ) :
    ((Watched.ask check).andThen next) s
      = match check s with
        | (.halt, s) => (.interrupted, s)
        | (.proceed, s) => next () s := by
  unfold Watched.andThen Watched.ask
  rcases check s with ⟨verdict, s₁⟩
  cases verdict <;> rfl

theorem Computes.ask {check : Checkpoint σ} (hc : check.Keeps I J) :
    (Watched.ask check : Watched σ ε Unit).Computes (.ok ()) I J := by
  intro s hs
  unfold Watched.ask
  rcases hq : check s with ⟨verdict, s₁⟩
  cases verdict with
  | halt => exact .interrupted (hc.halt hs hq)
  | proceed => exact .complete rfl (hc.proceed hs hq)

/-- One piece of work after another. -/
theorem Computes.andThen {work : Watched σ ε α} {next : α → Watched σ ε β} {plain : Except ε α}
    {rest : α → Except ε β} (hw : work.Computes plain I J)
    (hn : ∀ value, plain = .ok value → (next value).Computes (rest value) I J) :
    (work.andThen next).Computes (plain >>= rest) I J := by
  intro s hs
  have h := hw s hs
  unfold Watched.andThen
  split
  · next value s' hws =>
    rw [hws] at h
    cases h with
    | complete hp hs' =>
      subst hp
      exact hn value rfl s' hs'
  · next s' hws =>
    rw [hws] at h
    cases h with
    | interrupted hs' => exact .interrupted hs'
  · next error s' hws =>
    rw [hws] at h
    cases h with
    | failed hp hs' =>
      subst hp
      exact .failed rfl hs'

/-- Work after work whose value is known. -/
theorem Computes.andThen_ok {work : Watched σ ε α} {next : α → Watched σ ε β} {value : α}
    {plain : Except ε β} (hw : work.Computes (.ok value) I J)
    (hn : (next value).Computes plain I J) : (work.andThen next).Computes plain I J := by
  have h : (work.andThen next).Computes (.ok value >>= fun _ => plain) I J :=
    hw.andThen fun _ hvalue => by
      cases hvalue
      exact hn
  exact h

/-- Work whose value is changed when it is done. -/
def map (f : α → β) (work : Watched σ ε α) : Watched σ ε β := fun s =>
  match work s with
  | (outcome, s) => (outcome.map f, s)

theorem Computes.map {work : Watched σ ε α} {plain : Except ε α} (hw : work.Computes plain I J)
    (f : α → β) : (work.map f).Computes (plain.map f) I J := by
  intro s hs
  have h := hw s hs
  unfold Watched.map
  split
  next outcome s' hws =>
  rw [hws] at h
  cases h with
  | complete hp hs' =>
    subst hp
    exact .complete rfl hs'
  | failed hp hs' =>
    subst hp
    exact .failed rfl hs'
  | interrupted hs' => exact .interrupted hs'

/-- The loop as watched work: its value is the one reached when it got through. -/
def ofSweep (check : Checkpoint σ) (step : τ → ι → Except ε τ) (items : List ι) (value : τ) :
    Watched σ ε τ := fun s =>
  match sweep check step items value s with
  | ((walk, value), s) => (walk.map fun _ => value, s)

/-- **A watched loop computes its fold**: the questions in between can halt it and change nothing
else. -/
theorem Computes.ofSweep {check : Checkpoint σ} (hc : check.Keeps I J)
    (step : τ → ι → Except ε τ) (items : List ι) (value : τ) :
    (Watched.ofSweep check step items value).Computes (items.foldlM step value) I J := by
  intro s hs
  induction items generalizing value s with
  | nil => exact .complete rfl hs
  | cons item items ih =>
    rw [List.foldlM_cons]
    unfold Watched.ofSweep sweep
    cases hq : check s with
    | mk verdict s₁ =>
      cases verdict with
      | halt => exact .interrupted (hc.halt hs hq)
      | proceed =>
        -- the states are in `I` again when the step is made, and the step does not touch them
        have hs₁ := hc.proceed hs hq
        cases hstep : step value item with
        | error error => exact .failed rfl hs₁
        | ok value₁ => exact ih value₁ s₁ hs₁

/-- Work that is completed has the value that it computes. -/
theorem Computes.eq_ok {work : Watched σ ε α} {plain : Except ε α} (hw : work.Computes plain I J)
    {s : σ} (hs : I s) {value : α} (h : (work s).1 = .complete value) : plain = .ok value := by
  have hagrees := hw s hs
  generalize work s = outcome at h hagrees
  cases hagrees with
  | complete hp _ =>
    cases h
    exact hp
  | failed _ _ => cases h
  | interrupted _ => cases h

/-! ## Work under the checkpoint that never halts -/

/-- Under the checkpoint that never halts, work has the outcome that it computes. -/
theorem Computes.eq_ofExcept {work : Watched Unit ε α} {plain : Except ε α}
    (hw : work.Computes plain (fun _ => True) (fun _ => False)) :
    work () = (Ending.ofExcept plain, ()) := by
  have h := hw () trivial
  generalize work () = outcome at h ⊢
  cases h with
  | complete hp _ => rw [hp, Ending.ofExcept]
  | failed hp _ => rw [hp, Ending.ofExcept]
  | interrupted hs => exact hs.elim

/-- Without interruption work has the plain outcome, and the fallback for halted work is not
needed. -/
theorem Computes.unwatched {work : Watched Unit ε α} {plain : Except ε α}
    (hw : work.Computes plain (fun _ => True) (fun _ => False)) (fallback : α) :
    work.unwatched fallback = plain := by
  unfold Watched.unwatched
  rw [hw.eq_ofExcept]
  cases plain <;> rfl

end Watched

end Lindenmayer
