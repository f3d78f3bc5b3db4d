import Lindenmayer.Proofs.Render.Picture
import Lindenmayer.Proofs.Render.Session
import Lindenmayer.Render.Renderer

set_option autoImplicit false

/-! # The course of a run

A run whose inputs are accepted takes one of four courses (`Renderer.Course`): it finishes with the
undisturbed picture, it fails as the undisturbed picture does, it is halted by a stop, or it waits
in a pause that nobody ends. `Renderer.run_course` shows that there are no others. Results about
runs are read off the four. -/

namespace Lindenmayer

/-! ## What a run presents -/

section Drawings

variable {α : Type}

/-- The drawing that an event presents, if it does. -/
def Event.drawing? : Event α → Option (Drawing α)
  | .presented drawing => some drawing
  | .status _ => none

/-- The drawings that a run presented. -/
def Run.drawings (run : Run α) : List (Drawing α) := run.events.filterMap Event.drawing?

theorem drawings_append_status (events : List (Event α)) (status : Status) :
    (events ++ [Event.status status]).filterMap Event.drawing? = events.filterMap Event.drawing? := by
  rw [List.filterMap_append]
  exact List.append_nil _

theorem drawings_append_presented (events : List (Event α)) (drawing : Drawing α) :
    (events ++ [Event.presented drawing]).filterMap Event.drawing?
      = events.filterMap Event.drawing? ++ [drawing] := by
  rw [List.filterMap_append]
  rfl

theorem drawings_progress (n : Nat) :
    (progress n : List (Event α)).filterMap Event.drawing? = [] := by
  induction n with
  | zero => rfl
  | succ n ih =>
    rw [progress_succ, List.filterMap_append, ih]
    rfl

theorem Session.InProgress.drawings {begun : Flags} {s : Session α} (h : s.InProgress begun) :
    s.events.toList.filterMap Event.drawing? = [] := by
  rw [h.events]
  exact drawings_progress s.pauses

theorem Session.Halted.drawings {schedule : Schedule α} {begun : Flags} {s : Session α}
    (h : s.Halted schedule begun) : s.events.toList.filterMap Event.drawing? = [] := by
  cases h with
  | stopped n _ events =>
    rw [events]
    exact drawings_progress n
  | stoppedInPause n _ events =>
    rw [events, drawings_append_status]
    exact drawings_progress n
  | waiting n _ events =>
    rw [events, drawings_append_status]
    exact drawings_progress n

end Drawings

namespace Renderer

variable {α : Type}

/-! ## The four courses -/

/-- The session that a run begins with is in progress. -/
theorem session_inProgress (r : Renderer α) (schedule : Schedule α) :
    (r.session schedule).InProgress r.flags where
  running := rfl
  events := rfl
  pauses := pauses_session
  stops := Session.stops_receive (fun h => absurd h Bool.false_ne_true) _
where
  pauses_session : 0 + (r.session schedule).flags.paused.toNat
      ≤ (r.session schedule).calls.toList.count .pause + r.flags.paused.toNat :=
    Session.pauses_receive (by simp [Flags.clearStop]) _

variable [Scalar α]

/-- A run, by the session it comes to the end of its work in. -/
inductive Course (r : Renderer α) (schedule : Schedule α) (table : RuleTable) : Run α → Prop where
  | finished {picture : Picture α} {s : Session α}
      (computed : r.config.undisturbedPicture table = .ok picture) (work : s.InProgress r.flags) :
      Course r schedule table
        (r.record ((s.tell schedule (.presented picture.drawing)).report schedule .finished)
          (some (.ok (.finished picture.stats))))
  | failed {failure : Failure} {s : Session α}
      (computed : r.config.undisturbedPicture table = .error failure)
      (work : s.InProgress r.flags) :
      Course r schedule table
        (r.record (s.report schedule (.error failure.message)) (some (.error (.failed failure))))
  | stopped {s : Session α} (halted : s.Halted schedule r.flags) (running : s.stuck = false) :
      Course r schedule table (r.record (s.report schedule .stopped) (some (.ok .stopped)))
  | waiting {s : Session α} (halted : s.Halted schedule r.flags) (waits : s.stuck = true) :
      Course r schedule table (r.record s none)

/-- **Every run with accepted inputs takes one of the four courses.** -/
theorem run_course (r : Renderer α) (schedule : Schedule α) {table : RuleTable}
    (hp : r.config.prepare = .ok table) : r.Course schedule table (r.run schedule) := by
  have h := r.config.picture_computes (Session.checkpoint_keeps schedule r.flags) table _
    (r.session_inProgress schedule)
  unfold run
  rw [hp]
  simp only
  generalize r.config.picture table (Session.checkpoint schedule) (r.session schedule) = work at h ⊢
  cases h with
  | complete hc hs => exact .finished hc hs
  | failed hc hs => exact .failed hc hs
  | interrupted hs =>
    simp only
    split
    · next hwaits => exact .waiting hs hwaits
    · next hrun => exact .stopped hs (Bool.eq_false_iff.2 hrun)

/-- Inputs that are turned away leave no trace. -/
theorem run_rejected (r : Renderer α) (schedule : Schedule α) {rejection : Rejection α}
    (hp : r.config.prepare = .error rejection) :
    r.run schedule = ⟨r, [], [], some (.error (.rejected rejection))⟩ := by
  unfold run
  rw [hp]

/-- A run that finishes presents the undisturbed picture of its inputs and nothing else. -/
theorem exists_picture_of_finished {r : Renderer α} {schedule : Schedule α} {stats : Stats α}
    (hr : (r.run schedule).result = some (.ok (.finished stats))) :
    ∃ table picture, r.config.prepare = .ok table ∧
      r.config.undisturbedPicture table = .ok picture ∧ stats = picture.stats ∧
      (r.run schedule).drawings = [picture.drawing] := by
  cases hp : r.config.prepare with
  | error rejection =>
    rw [r.run_rejected schedule hp] at hr
    cases hr
  | ok table =>
    have hcourse := r.run_course schedule hp
    generalize r.run schedule = run at hcourse hr ⊢
    cases hcourse with
    | @finished picture s computed work =>
      cases hr
      refine ⟨table, picture, rfl, computed, rfl, ?_⟩
      simp only [Run.drawings, record, Session.events_report, Session.events_tell]
      rw [drawings_append_status, drawings_append_presented, work.drawings]
      rfl
    | failed computed work => cases hr
    | stopped halted running => cases hr
    | waiting halted waits => cases hr

end Renderer

end Lindenmayer
