import Lindenmayer.Proofs.Geometry.Exact
import Lindenmayer.Proofs.Render.Course

set_option autoImplicit false

/-! # Runs refine the plain pipeline

Whatever others do to a run, what it comes to is what the plain pipeline comes to, or nothing: a run
returns and presents exactly what `Config.plainEnd` says, or is stopped and presents nothing, or
waits forever. `Renderer.run_refines_plainEnd` says when which of them is possible. Nothing is asked
of the renderer, so it may have any history: its flags may be up, and it may have been run with
other inputs. -/

namespace Lindenmayer

variable {α : Type} [Scalar α]

/-- What the plain pipeline comes to: what is returned, and the drawings that are presented. -/
def Config.plainEnd (c : Config α) (table : RuleTable) :
    Except (RunError α) (Outcome α) × List (Drawing α) :=
  match c.plainPicture table with
  | .ok picture => (.ok (.finished picture.stats), [picture.drawing])
  | .error failure => (.error (.failed failure), [])

omit [Scalar α] in
/-- What a run came to, or nothing if it waits forever. -/
def Run.end? (run : Run α) : Option (Except (RunError α) (Outcome α) × List (Drawing α)) :=
  run.result.map fun result => (result, run.drawings)

namespace Renderer

variable {r : Renderer α} {schedule : Schedule α} {table : RuleTable} {run : Run α}

omit [Scalar α] in
theorem end?_record (r : Renderer α) (s : Session α) (result : Except (RunError α) (Outcome α)) :
    (r.record s (some result)).end?
      = some (result, s.events.toList.filterMap Event.drawing?) := rfl

/-- A course comes to the plain end, or to a stop that was called for, or to nothing because of a
pause that is never ended. -/
theorem Course.end? (h : r.Course schedule table run) (hm : r.config.maxSymbols < maxLength) :
    run.end? = some (r.config.plainEnd table) ∨
      (run.end? = some (.ok .stopped, []) ∧ Call.stop ∈ run.calls) ∨
      (run.end? = none ∧ ¬ schedule.Releases ∧
        (Call.pause ∈ run.calls ∨ r.flags.paused = true)) := by
  cases h with
  | finished computed work =>
    rw [Config.undisturbedPicture_eq hm] at computed
    refine .inl ?_
    rw [end?_record, Session.events_report, drawings_append_status, Session.events_tell,
      drawings_append_presented, work.drawings]
    simp only [Config.plainEnd, computed, List.nil_append]
  | failed computed work =>
    rw [Config.undisturbedPicture_eq hm] at computed
    refine .inl ?_
    rw [end?_record, Session.events_report, drawings_append_status, work.drawings]
    simp only [Config.plainEnd, computed]
  | stopped halted running =>
    refine .inr (.inl ⟨?_, ?_⟩)
    · rw [end?_record, Session.events_report, drawings_append_status, halted.drawings]
    · exact Session.mem_calls_report (halted.called running) schedule .stopped
  | waiting halted waits => exact .inr (.inr ⟨rfl, halted.unreleased waits⟩)

/-- **A run refines the plain pipeline.** If it returns, it has come to the plain end or was
stopped; if no stop was called for, it has come to the plain end. It returns unless a pause that
was called for is never ended. -/
theorem run_refines_plainEnd (r : Renderer α) (schedule : Schedule α)
    (hp : r.config.prepare = .ok table) (hm : r.config.maxSymbols < maxLength) :
    (∀ e, (r.run schedule).end? = some e →
        e = r.config.plainEnd table ∨ e = (.ok .stopped, [])) ∧
      (Call.stop ∉ (r.run schedule).calls →
        ∀ e, (r.run schedule).end? = some e → e = r.config.plainEnd table) ∧
      ((r.run schedule).end? = none → ¬ schedule.Releases ∧
        (Call.pause ∈ (r.run schedule).calls ∨ r.flags.paused = true)) := by
  rcases (r.run_course schedule hp).end? hm with hend | ⟨hend, hstop⟩ | ⟨hend, hwaits⟩
  · rw [hend]
    exact ⟨fun e he => .inl (Option.some.inj he).symm, fun _ e he => (Option.some.inj he).symm,
      fun he => by cases he⟩
  · rw [hend]
    exact ⟨fun e he => .inr (Option.some.inj he).symm, fun hns => absurd hstop hns,
      fun he => by cases he⟩
  · rw [hend]
    exact ⟨fun e he => (by cases he), fun _ e he => (by cases he), fun _ => hwaits⟩

/-- A run that is paused before its second question and released again finishes with the picture of
its inputs. -/
theorem paused_run_refines_plainEnd :
    letI := Scalar.quarterTurns
    let r : Renderer ℚ := Renderer.ofConfig Config.initial
    let table := RuleTable.empty.insert 5 [.letter 5]
    let schedule : Schedule ℚ :=
      { Schedule.quiet with
        before := fun n => if n = 1 then [.pause] else []
        waiting := fun _ => [[.resume]] }
    r.config.prepare = .ok table ∧ Call.pause ∈ (r.run schedule).calls ∧
      (r.run schedule).end? = some (r.config.plainEnd table) := by
  let _ := Scalar.quarterTurns
  intro r table schedule
  have hp : r.config.prepare = .ok table := by decide +kernel
  have hcalls : (r.run schedule).calls = [.pause, .resume] := by decide +kernel
  have hreleases : schedule.Releases := fun n =>
    ⟨[.resume], List.mem_singleton.2 rfl, .resume, rfl, by decide⟩
  obtain ⟨-, hend, hwaits⟩ := run_refines_plainEnd r schedule hp (by decide)
  refine ⟨hp, by rw [hcalls]; decide, ?_⟩
  cases he : (r.run schedule).end? with
  | none => exact absurd hreleases (hwaits he).1
  | some e => exact congrArg some (hend (by rw [hcalls]; decide) e he)

end Renderer

end Lindenmayer
