set_option autoImplicit false

/-! # Checkpoints

Long work is done in small steps, and between the steps it asks a *checkpoint* whether to go on. A
checkpoint has a state of its own, which every consultation may change: the number of questions it
has answered, say, or the flags of a running render.

`Ending` is the outcome of work that asks a checkpoint, `Watched` such work itself, and `sweep` the
loop that all of it is made of: one question before every item. -/

namespace Lindenmayer

/-- The answer of a checkpoint. -/
inductive Verdict where
  | proceed
  | halt
  deriving DecidableEq, Repr

/-- Answers whether to go on, and moves on to its next state. -/
abbrev Checkpoint (σ : Type) := σ → Verdict × σ

namespace Checkpoint

/-- The checkpoint that never halts. -/
def uninterrupted : Checkpoint Unit := fun _ => (.proceed, ())

/-- Halts at every question after the first `allowed`, or never if there is no allowance. The state
is the number of questions asked. -/
def budget (allowed : Option Nat) : Checkpoint Nat := fun asked =>
  match allowed with
  | some n => if asked < n then (.proceed, asked + 1) else (.halt, asked + 1)
  | none => (.proceed, asked + 1)

/-- The state after `n` questions. -/
def after {σ : Type} (check : Checkpoint σ) : Nat → σ → σ
  | 0, s => s
  | n + 1, s => check.after n (check s).2

/-- The answer to question number `n`, counted from 0. -/
def answer {σ : Type} (check : Checkpoint σ) (n : Nat) (s : σ) : Verdict :=
  (check (check.after n s)).1

end Checkpoint

/-! ## Outcomes -/

/-- How work that asks a checkpoint ends. -/
inductive Ending (ε α : Type) where
  /-- The work was done. -/
  | complete (value : α)
  /-- The checkpoint halted it. -/
  | interrupted
  /-- It cannot be done. -/
  | failed (error : ε)
  deriving DecidableEq, Repr

namespace Ending

variable {ε α β : Type}

/-- Changes the value of completed work. -/
def map (f : α → β) : Ending ε α → Ending ε β
  | complete value => complete (f value)
  | interrupted => interrupted
  | failed error => failed error

/-- The outcome of work that is not halted; `fallback` stands for work that was. -/
def toExcept (fallback : α) : Ending ε α → Except ε α
  | complete value => .ok value
  | interrupted => .ok fallback
  | failed error => .error error

end Ending

/-! ## Watched work -/

/-- Work that may ask a checkpoint with states in `σ`. -/
def Watched (σ ε α : Type) : Type := σ → Ending ε α × σ

namespace Watched

variable {σ ε α β : Type}

/-- Work that is done at once. -/
def done (value : α) : Watched σ ε α := fun s => (.complete value, s)

/-- Goes on with `next` if the first work was completed. -/
def andThen (first : Watched σ ε α) (next : α → Watched σ ε β) : Watched σ ε β := fun s =>
  match first s with
  | (.complete value, s) => next value s
  | (.interrupted, s) => (.interrupted, s)
  | (.failed error, s) => (.failed error, s)

instance : Monad (Watched σ ε) where
  pure := done
  bind := andThen

/-- The outcome of work under the checkpoint that never halts. -/
def unwatched (fallback : α) (work : Watched Unit ε α) : Except ε α := (work ()).1.toExcept fallback

end Watched

/-! ## The loop -/

/-- Takes `step` with every item in turn, and asks the checkpoint before each. The result holds how
the loop ended and the last value reached, also when it did not get through. -/
def sweep {σ ε τ ι : Type} (check : Checkpoint σ) (step : τ → ι → Except ε τ) :
    List ι → τ → σ → (Ending ε Unit × τ) × σ
  | [], value, s => ((.complete (), value), s)
  | item :: items, value, s =>
    match check s with
    | (.halt, s) => ((.interrupted, value), s)
    | (.proceed, s) =>
      match step value item with
      | .error error => ((.failed error, value), s)
      | .ok value => sweep check step items value s

end Lindenmayer
