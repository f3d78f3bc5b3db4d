import Mathlib.Data.List.Chain
import Lindenmayer.Proofs.Geometry.Exact
import Lindenmayer.Proofs.Render.Course

set_option autoImplicit false

/-! # The stream of statuses

What a canvas is told in a run that returns, and what the run returns, are a word and a result of
one small grammar (`Stream`): any number of pauses, each of them over before the next, and one end.
The grammar decides what can be presented and when (`Stream.drawings`) and that no pause is told of
twice (`Stream.resumed`). `Renderer.run_stream` says that every run keeps to it, whatever calls are
made and whatever the renderer has been through. -/

namespace Lindenmayer

/-! ## The grammar -/

/-- What a canvas is told of a whole run with some inputs, and what the run returns. -/
inductive Stream {α : Type} [Scalar α] (c : Config α) :
    List (Event α) → Except (RunError α) (Outcome α) → Prop where
  | rejected (rejection : Rejection α) : Stream c [] (.error (.rejected rejection))
  | finished (n : Nat) {table : RuleTable} {sequence : List Char} {placement : Placement α}
      {segments : List (Segment α)} (prepared : c.prepare = .ok table)
      (expanded : expandWithin table c.maxSymbols c.startSequence.toList c.generations
        = .ok sequence)
      (rendered : c.fit.render sequence = .ok (placement, segments)) :
      Stream c (progress n ++ [.presented (c.drawing segments), .status .finished])
        (.ok (.finished (c.pictureOf sequence placement segments).stats))
  | stopped (n : Nat) : Stream c (progress n ++ [.status .stopped]) (.ok .stopped)
  | stoppedInPause (n : Nat) :
      Stream c (progress n ++ [.status .paused, .status .stopped]) (.ok .stopped)
  | failed (n : Nat) (failure : Failure) :
      Stream c (progress n ++ [.status (.error failure.message)]) (.error (.failed failure))

section Events

variable {α : Type}

/-- The status that an event is the news of, if it is. -/
def Event.status? : Event α → Option Status
  | .status s => some s
  | .presented _ => none

/-- The second of two events is the news of a pause only if the first is the news of work. -/
def Event.Precedes (a b : Event α) : Prop := b = .status .paused → a = .status .calculating

theorem isChain_progress_append {events : List (Event α)} (h : events.IsChain Event.Precedes)
    (n : Nat) : (progress n ++ events).IsChain Event.Precedes := by
  have hlast : ∀ n, ∀ a ∈ (progress n : List (Event α)).getLast?, a = .status .calculating := by
    intro n a ha
    rw [getLast?_progress] at ha
    exact (Option.some.inj ha).symm
  have hprogress : (progress n : List (Event α)).IsChain Event.Precedes := by
    induction n with
    | zero => exact List.isChain_singleton _
    | succ n ih =>
      rw [progress_succ, List.isChain_append]
      refine ⟨ih, ?_, fun a ha _ _ _ => hlast n a ha⟩
      exact List.isChain_pair.2 fun h => by cases h
  rw [List.isChain_append]
  exact ⟨hprogress, h, fun a ha _ _ _ => hlast n a ha⟩

/-- Between two pauses there is work. -/
theorem calculating_mem_of_isChain {u v w : List (Event α)}
    (h : (u ++ .status .paused :: (v ++ .status .paused :: w)).IsChain Event.Precedes) :
    .status .calculating ∈ v := by
  have hv : (.status .paused :: v ++ .status .paused :: w).IsChain Event.Precedes :=
    (List.isChain_split.1 h).2
  rw [List.isChain_append] at hv
  -- the event right before the second pause is not the first pause
  obtain ⟨a, ha⟩ : ∃ a, (Event.status .paused :: v).getLast? = some a :=
    ⟨_, List.getLast?_eq_some_getLast (List.cons_ne_nil _ _)⟩
  have hcalc : a = .status .calculating := hv.2.2 a ha _ rfl rfl
  rw [hcalc] at ha
  rcases List.mem_cons.1 (List.mem_of_getLast? ha) with heq | hmem
  · cases heq
  · exact hmem

end Events

/-! ## What the grammar decides -/

namespace Stream

variable {α : Type} [Scalar α] {c : Config α} {events : List (Event α)}
  {result : Except (RunError α) (Outcome α)}

/-- A drawing is presented when the run finishes, and then once. -/
theorem drawings (h : Stream c events result) :
    (events.filterMap Event.drawing?).length ≤ 1 ∧
      (events.filterMap Event.drawing? ≠ [] ↔ ∃ stats, result = .ok (.finished stats)) := by
  cases h with
  | rejected rejection => simp
  | finished n prepared expanded rendered => simp [drawings_progress, List.filterMap_cons, Event.drawing?]
  | stopped n => simp [drawings_progress, List.filterMap_cons, Event.drawing?]
  | stoppedInPause n => simp [drawings_progress, List.filterMap_cons, Event.drawing?]
  | failed n failure => simp [drawings_progress, List.filterMap_cons, Event.drawing?]

theorem isChain (h : Stream c events result) : events.IsChain Event.Precedes := by
  cases h with
  | rejected rejection => exact .nil
  | finished n prepared expanded rendered =>
    refine isChain_progress_append ?_ n
    exact List.isChain_pair.2 fun h => by cases h
  | stopped n => exact isChain_progress_append (.singleton _) n
  | stoppedInPause n =>
    refine isChain_progress_append ?_ n
    exact List.isChain_pair.2 fun h => by cases h
  | failed n failure => exact isChain_progress_append (.singleton _) n

/-- No pause is told of before the one before is over. -/
theorem resumed (h : Stream c events result) {u v w : List (Event α)}
    (he : events = u ++ .status .paused :: (v ++ .status .paused :: w)) :
    .status .calculating ∈ v :=
  calculating_mem_of_isChain (he ▸ h.isChain)

end Stream

/-! ## Runs -/

namespace Renderer

variable {α : Type} [Scalar α] {r : Renderer α} {schedule : Schedule α} {table : RuleTable}
  {run : Run α} {result : Except (RunError α) (Outcome α)}

/-- A course that returns keeps to the grammar. -/
theorem Course.stream (hp : r.config.prepare = .ok table) (h : r.Course schedule table run)
    (hr : run.result = some result) : Stream r.config run.events result := by
  cases h with
  | finished computed work =>
    cases hr
    obtain ⟨sequence, placement, segments, hexpand, hrender, rfl⟩ :=
      Config.exists_rendered computed
    simp only [record, Session.events_report, Session.events_tell, work.events, List.append_assoc]
    exact .finished _ hp hexpand hrender
  | failed computed work =>
    cases hr
    simp only [record, Session.events_report, work.events]
    exact .failed _ _
  | stopped halted running =>
    cases hr
    simp only [record, Session.events_report]
    cases halted with
    | stopped n _ events =>
      rw [events]
      exact .stopped n
    | stoppedInPause n _ events =>
      rw [events, List.append_assoc]
      exact .stoppedInPause n
    | waiting n waits => exact absurd (running.symm.trans waits) Bool.false_ne_true
  | waiting halted waits => cases hr

/-- Pauses are told of at most once for each pause call, and once for a pause from before. -/
theorem Course.countP_isPaused_le (h : r.Course schedule table run) :
    run.events.countP Event.isPaused ≤ run.calls.count .pause + r.flags.paused.toNat := by
  cases h with
  | finished computed work => exact (work.paid.tell rfl schedule).tell rfl schedule
  | failed computed work => exact work.paid.tell rfl schedule
  | stopped halted running => exact halted.paid.tell rfl schedule
  | waiting halted waits => exact halted.paid

omit [Scalar α] in
/-- The status of a record that ends with the news of it. -/
theorem status_record_report (r : Renderer α) (s : Session α) (status : Status)
    (result : Option (Except (RunError α) (Outcome α))) :
    (r.record (s.report schedule status) result).renderer.status
      = (((r.record (s.report schedule status) result).events.filterMap
          Event.status?).getLast?).getD r.status := by
  simp only [record, Session.events_report, List.filterMap_append]
  simp [Session.report, Event.status?]

/-- The status after a course that returns is the one told last. -/
theorem Course.status_eq (h : r.Course schedule table run) (hr : run.result = some result) :
    run.renderer.status = ((run.events.filterMap Event.status?).getLast?).getD r.status := by
  cases h with
  | finished computed work => exact status_record_report r _ _ _
  | failed computed work => exact status_record_report r _ _ _
  | stopped halted running => exact status_record_report r _ _ _
  | waiting halted waits => cases hr

/-- **The stream of statuses of a run that returns**, whatever the renderer has been through and
whatever calls are made: it is a word of the grammar, a drawing is presented at most once and
exactly when the run finishes, no pause is told of before the one before is over, every pause told
of is paid for by a pause call or by the pause flag at the beginning, and the status afterwards is
the one told last. -/
theorem run_stream (r : Renderer α) (schedule : Schedule α)
    {result : Except (RunError α) (Outcome α)} (hr : (r.run schedule).result = some result) :
    Stream r.config (r.run schedule).events result ∧
      ((r.run schedule).drawings.length ≤ 1 ∧
        ((r.run schedule).drawings ≠ [] ↔ ∃ stats, result = .ok (.finished stats))) ∧
      (∀ u v w, (r.run schedule).events
          = u ++ .status .paused :: (v ++ .status .paused :: w) → .status .calculating ∈ v) ∧
      (r.run schedule).events.countP Event.isPaused
        ≤ (r.run schedule).calls.count .pause + r.flags.paused.toNat ∧
      (r.run schedule).renderer.status
        = (((r.run schedule).events.filterMap Event.status?).getLast?).getD r.status := by
  cases hp : r.config.prepare with
  | error rejection =>
    rw [r.run_rejected schedule hp] at hr ⊢
    cases hr
    have hstream : Stream r.config [] (.error (.rejected rejection)) := .rejected rejection
    exact ⟨hstream, hstream.drawings, fun _ _ _ => hstream.resumed, Nat.zero_le _, rfl⟩
  | ok table =>
    have hcourse := r.run_course schedule hp
    have hstream := hcourse.stream hp hr
    exact ⟨hstream, hstream.drawings, fun _ _ _ => hstream.resumed, hcourse.countP_isPaused_le,
      hcourse.status_eq hr⟩

/-- A run that begins in a pause and is released tells of one pause and finishes. -/
theorem released_run_stream :
    letI := Scalar.quarterTurns
    let r : Renderer ℚ := { Renderer.ofConfig Config.initial with flags := ⟨false, true⟩ }
    let schedule : Schedule ℚ := { Schedule.quiet with waiting := fun _ => [[.resume]] }
    ∃ result, (r.run schedule).result = some result ∧
      Stream r.config (r.run schedule).events result ∧
      (r.run schedule).events.countP Event.isPaused = 1 ∧
      (r.run schedule).renderer.status = .finished := by
  let _ := Scalar.quarterTurns
  intro r schedule
  have hsome : (r.run schedule).result.isSome = true := by decide +kernel
  obtain ⟨result, hr⟩ := Option.isSome_iff_exists.1 hsome
  exact ⟨result, hr, (run_stream r schedule hr).1, by decide +kernel, by decide +kernel⟩

end Renderer

end Lindenmayer
