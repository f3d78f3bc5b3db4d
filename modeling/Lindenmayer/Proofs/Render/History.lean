import Lindenmayer.Proofs.Geometry.Exact
import Lindenmayer.Proofs.Render.Course

set_option autoImplicit false

/-! # Histories of a renderer

A renderer is made, given other inputs, run, and called upon through its control, in any order and
any number of times (`History`). Between any two of these deeds its status says what became of its
inputs: it is idle until a run gets past the check of the inputs, and from then on tells of the
latest run that did (`History.standing`). A run cannot get past the check and a later one be turned
away with the same inputs, which is why a run that is turned away finds the renderer idle and leaves
it idle (`History.status_between_deeds`). -/

namespace Lindenmayer

variable {α : Type}

/-! ## Deeds -/

/-- One thing done with a renderer, and what came of it. -/
inductive Deed (α : Type) where
  /-- It was given other inputs. -/
  | setConfig (config : Config α)
  /-- Its control was called. -/
  | call (c : Call)
  /-- It was run with the inputs it had, and the run returned. -/
  | run (config : Config α) (run : Run α)

/-- Whether other inputs were given. -/
def Deed.isSetConfig : Deed α → Bool
  | .setConfig _ => true
  | .call _ => false
  | .run _ _ => false

variable [Scalar α]

/-- What was returned by a run that got past the check of its inputs. -/
def Deed.result? : Deed α → Option (Except (RunError α) (Outcome α))
  | .setConfig _ => none
  | .call _ => none
  | .run config made =>
    match config.prepare with
    | .ok _ => made.result
    | .error _ => none

/-- What the latest run returned that got past the check of the inputs, if one has since the inputs
were given. Deeds are listed from the latest on. -/
def latestResult? (deeds : List (Deed α)) : Option (Except (RunError α) (Outcome α)) :=
  (deeds.takeWhile fun deed => !deed.isSetConfig).findSome? Deed.result?

/-- The deeds done with a renderer since it was made, from the latest on, and the renderer after
them. No deed follows a run that waits forever. -/
inductive History : List (Deed α) → Renderer α → Prop where
  | made (config : Config α) : History [] (Renderer.ofConfig config)
  | setConfig {deeds : List (Deed α)} {r : Renderer α} (before : History deeds r)
      (config : Config α) : History (.setConfig config :: deeds) (r.setConfig config)
  | call {deeds : List (Deed α)} {r : Renderer α} (before : History deeds r) (c : Call) :
      History (.call c :: deeds) (r.call c)
  | run {deeds : List (Deed α)} {r : Renderer α} (before : History deeds r)
      (schedule : Schedule α) (returns : (r.run schedule).result.isSome) :
      History (.run r.config (r.run schedule) :: deeds) (r.run schedule).renderer

/-! ## What a status tells -/

omit [Scalar α] in
/-- The status that tells of what a run returned. -/
def Status.ofResult : Except (RunError α) (Outcome α) → Status
  | .ok (.finished _) => .finished
  | .ok .stopped => .stopped
  | .error (.failed failure) => .error failure.message
  | .error (.rejected _) => .idle

namespace Renderer

variable {r : Renderer α} {schedule : Schedule α} {table : RuleTable} {run : Run α}
  {result : Except (RunError α) (Outcome α)}

/-- What a course leaves behind: the inputs as they were, and a status that tells of the result and
is not idle. -/
theorem Course.status_eq_ofResult (h : r.Course schedule table run)
    (hr : run.result = some result) :
    run.renderer.config = r.config ∧ run.renderer.status = .ofResult result ∧
      Status.ofResult result ≠ .idle := by
  cases h with
  | finished computed work =>
    cases hr
    exact ⟨rfl, rfl, fun h => by cases h⟩
  | failed computed work =>
    cases hr
    exact ⟨rfl, rfl, fun h => by cases h⟩
  | stopped halted running =>
    cases hr
    exact ⟨rfl, rfl, fun h => by cases h⟩
  | waiting halted waits => cases hr

/-- Only inputs that do not pass the check are turned away. -/
theorem prepare_of_rejected {rejection : Rejection α}
    (h : (r.run schedule).result = some (.error (.rejected rejection))) :
    r.config.prepare = .error rejection := by
  cases hp : r.config.prepare with
  | ok table =>
    have hstatus := (r.run_course schedule hp).status_eq_ofResult h
    exact absurd rfl hstatus.2.2
  | error rejection' =>
    rw [r.run_rejected schedule hp] at h
    cases h
    rfl

/-- How a renderer stands with its inputs: no run got past the check of them and it is idle, or the
latest that did returned `result` and the status tells so. -/
inductive Standing (r : Renderer α) : Option (Except (RunError α) (Outcome α)) → Prop where
  | idle (status : r.status = .idle) : Standing r none
  | told {result : Except (RunError α) (Outcome α)} (status : r.status = .ofResult result)
      (begun : Status.ofResult result ≠ .idle) (accepted : ∃ table, r.config.prepare = .ok table) :
      Standing r (some result)

/-- A call of the control says nothing about the inputs. -/
theorem Standing.call {latest : Option (Except (RunError α) (Outcome α))} (h : r.Standing latest)
    (c : Call) : (r.call c).Standing latest := by
  cases h with
  | idle status => exact .idle status
  | told status begun accepted => exact .told status begun accepted

end Renderer

/-! ## Every history -/

theorem latestResult?_run (config : Config α) (run : Run α) (deeds : List (Deed α)) :
    latestResult? (.run config run :: deeds)
      = (Deed.result? (.run config run)).or (latestResult? deeds) := by
  cases hresult : Deed.result? (.run config run) <;>
    simp [latestResult?, Deed.isSetConfig, hresult]

namespace History

variable {deeds : List (Deed α)} {r : Renderer α}

/-- The status always tells how the renderer stands with its inputs. -/
theorem standing (h : History deeds r) : r.Standing (latestResult? deeds) := by
  induction h with
  | made config => exact .idle rfl
  | setConfig before config ih => exact .idle rfl
  | call before c ih => exact ih.call c
  | @run deeds r before schedule returns ih =>
    rw [latestResult?_run]
    cases hp : r.config.prepare with
    | error rejection =>
      -- the renderer is left as it was, and the deed has no result
      simp only [Deed.result?, hp, Option.none_or, r.run_rejected schedule hp]
      exact ih
    | ok table =>
      obtain ⟨result, hresult⟩ := Option.isSome_iff_exists.1 returns
      obtain ⟨hconfig, hstatus, hbegun⟩ := (r.run_course schedule hp).status_eq_ofResult hresult
      simp only [Deed.result?, hp, hresult, Option.some_or]
      exact .told hstatus hbegun ⟨table, by rw [hconfig, hp]⟩

/-- **Between the deeds of a history** a renderer is idle, finished, stopped or failed; it is idle
exactly when no run has got past the check of the inputs since they were given, and tells of the
latest run that has; and inputs that are turned away are turned away by an idle renderer, which
stays exactly as it is, its inputs and its flags included, and tells the canvas nothing. -/
theorem status_between_deeds (h : History deeds r) :
    (r.status = .idle ∨ r.status = .finished ∨ r.status = .stopped ∨
        ∃ message, r.status = .error message) ∧
      (r.status = .idle ↔ latestResult? deeds = none) ∧
      (∀ result, latestResult? deeds = some result → r.status = .ofResult result) ∧
      ∀ schedule rejection,
        (r.run schedule).result = some (.error (.rejected rejection)) →
          r.status = .idle ∧ (r.run schedule).renderer = r ∧ (r.run schedule).events = [] ∧
            (r.run schedule).calls = [] := by
  have hstanding := h.standing
  have hrejected : ∀ schedule rejection,
      (r.run schedule).result = some (.error (.rejected rejection)) →
        r.status = .idle ∧ (r.run schedule).renderer = r ∧ (r.run schedule).events = [] ∧
          (r.run schedule).calls = [] := by
    intro schedule rejection hresult
    have hp := Renderer.prepare_of_rejected hresult
    rw [r.run_rejected schedule hp]
    refine ⟨?_, rfl, rfl, rfl⟩
    generalize latestResult? deeds = latest at hstanding
    cases hstanding with
    | idle status => exact status
    | told status begun accepted =>
      obtain ⟨table, htable⟩ := accepted
      cases hp.symm.trans htable
  generalize latestResult? deeds = latest at hstanding ⊢
  cases hstanding with
  | idle status =>
    exact ⟨.inl status, iff_of_true status rfl, nofun, hrejected⟩
  | @told result status begun accepted =>
    refine ⟨?_, ?_, ?_, hrejected⟩
    · rw [status]
      match result with
      | .ok (.finished _) => exact .inr (.inl rfl)
      | .ok .stopped => exact .inr (.inr (.inl rfl))
      | .error (.failed failure) => exact .inr (.inr (.inr ⟨_, rfl⟩))
      | .error (.rejected _) => exact absurd rfl begun
    · rw [status]
      exact iff_of_false begun (Option.some_ne_none result)
    · intro result' hresult
      rw [← Option.some.inj hresult]
      exact status

/-- A renderer finishes a run, is given a canvas without room, and is stopped and run again: it is
turned away, idle, with the stop still asked for. -/
theorem turned_away_after_finished :
    letI := Scalar.quarterTurns
    let finished : Run ℚ := (Renderer.ofConfig Config.initial).run Schedule.quiet
    let narrow : Config ℚ := { Config.initial with width := 30 }
    let r := (finished.renderer.setConfig narrow).call .stop
    finished.renderer.status = .finished ∧
      History [.call .stop, .setConfig narrow, .run Config.initial finished] r ∧
      (r.run Schedule.quiet).result = some (.error (.rejected (.config (.noRoom 30 600 15)))) ∧
      r.status = .idle ∧ (r.run Schedule.quiet).renderer = r ∧ r.flags.stopped = true := by
  let _ := Scalar.quarterTurns
  intro finished narrow r
  have hreturns : finished.result.isSome := by decide +kernel
  have hhistory : History [.call .stop, .setConfig narrow, .run Config.initial finished] r :=
    (((History.made Config.initial).run Schedule.quiet hreturns).setConfig narrow).call .stop
  have hrejected : (r.run Schedule.quiet).result
      = some (.error (.rejected (.config (.noRoom 30 600 15)))) := by
    decide +kernel
  obtain ⟨-, -, -, hunchanged⟩ := status_between_deeds hhistory
  obtain ⟨hidle, hsame, -, -⟩ := hunchanged Schedule.quiet _ hrejected
  exact ⟨by decide +kernel, hhistory, hrejected, hidle, hsame, rfl⟩

end History

end Lindenmayer
