import Mathlib.Data.List.Induction
import Lindenmayer.Control.Handles
import Lindenmayer.Proofs.Geometry.Exact
import Lindenmayer.Proofs.Render.Course

set_option autoImplicit false

/-! # Several renderers and their controls

The flags of a control are what its *log* makes of them: the calls that were made through any of its
handles, before, during and after runs, and the places where a run whose inputs were accepted took
an earlier stop back. A stop is pending when it was called for and not taken back since, and a pause
when it is what was called for last (`Flags.Reflects`).

A run reads and writes the flags of one control and makes no other use of them, which is shown for
every session by the rules for checkpoints (`Session.checkpoint_tracked`). So what is seen in a
callback is what the log up to then makes of the flags, and the log of a run is added to that of its
control alone. `Studio.flags_of_history` says this of any number of renderers and handles and of all
that can be done with them, in any order. -/

namespace Lindenmayer

/-! ## Logs -/

/-- An entry in the log of a control. -/
inductive Mark where
  /-- A call was made. -/
  | called (c : Call)
  /-- A run began and took earlier stops back. -/
  | cleared
  deriving DecidableEq, Repr

/-- The call of an entry, if it is one. -/
def Mark.call? : Mark → Option Call
  | called c => some c
  | cleared => none

namespace Flags

/-- The flags after one more entry. -/
def mark (f : Flags) : Mark → Flags
  | .called c => f.after c
  | .cleared => f.clearStop

/-- The flags after some more entries. -/
def markAll (f : Flags) (log : List Mark) : Flags := log.foldl mark f

theorem markAll_append (f : Flags) (log later : List Mark) :
    f.markAll (log ++ later) = (f.markAll log).markAll later :=
  List.foldl_append

theorem markAll_called (f : Flags) (calls : List Call) :
    f.markAll (calls.map .called) = f.afterAll calls :=
  List.foldl_map

theorem markAll_cleared (f : Flags) (calls : List Call) :
    f.markAll (.cleared :: calls.map .called) = f.clearStop.afterAll calls :=
  markAll_called f.clearStop calls

end Flags

/-- The log ends with a stop and no run that took it back. -/
def StopPending (log : List Mark) : Prop :=
  ∃ earlier later, log = earlier ++ .called .stop :: later ∧ .cleared ∉ later

/-- The flags are up as the log says: a stop was called for after the latest run that took earlier
ones back, and the latest of all calls was for a pause. -/
structure Flags.Reflects (f : Flags) (log : List Mark) : Prop where
  stopped : f.stopped = true ↔ StopPending log
  paused : f.paused = true ↔ (log.filterMap Mark.call?).getLast? = some .pause

theorem stopPending_concat {log : List Mark} {m : Mark} :
    StopPending (log ++ [m]) ↔ m = .called .stop ∨ (m ≠ .cleared ∧ StopPending log) := by
  constructor
  · rintro ⟨earlier, later, hlog, hlater⟩
    rcases List.eq_nil_or_concat later with rfl | ⟨later, m', rfl⟩
    · exact .inl (List.singleton_inj.1 (List.append_inj_right' hlog rfl))
    · rw [List.concat_eq_append] at hlog hlater
      rw [← List.cons_append, ← List.append_assoc] at hlog
      obtain ⟨hfront, hm⟩ := List.append_inj' hlog rfl
      obtain rfl := List.singleton_inj.1 hm
      rw [List.mem_append, not_or] at hlater
      refine .inr ⟨?_, earlier, later, hfront, hlater.1⟩
      rintro rfl
      exact hlater.2 (List.mem_singleton_self _)
  · rintro (rfl | ⟨hm, earlier, later, rfl, hlater⟩)
    · exact ⟨log, [], rfl, List.not_mem_nil⟩
    · refine ⟨earlier, later ++ [m], by simp, ?_⟩
      rw [List.mem_append, List.mem_singleton]
      exact fun h => h.elim hlater fun h => hm h.symm

namespace Flags

/-- One more entry is reflected. -/
theorem Reflects.mark {f : Flags} {log : List Mark} (h : f.Reflects log) (m : Mark) :
    (f.mark m).Reflects (log ++ [m]) := by
  have hstopped := h.stopped
  have hpaused := h.paused
  refine ⟨?_, ?_⟩
  · rw [stopPending_concat, ← hstopped]
    rcases m with c | _
    · cases c <;> simp [Flags.mark, after]
    · simp [Flags.mark, clearStop]
  · rw [List.filterMap_append]
    rcases m with c | _
    · cases c <;> simp [Flags.mark, after, Mark.call?]
    · simpa [Flags.mark, clearStop, Mark.call?] using hpaused

/-- **Flags that were down at first are what the log makes of them.** -/
theorem reflects_markAll (log : List Mark) : (({} : Flags).markAll log).Reflects log := by
  induction log using List.reverseRecOn with
  | nil => exact ⟨by simp [markAll, StopPending], by simp [markAll]⟩
  | append_singleton log m ih =>
    rw [markAll_append]
    exact ih.mark m

end Flags

/-! ## Sessions -/

namespace Session

variable {α : Type} {schedule : Schedule α} {begun : Flags} {s : Session α}

/-- The flags are what the calls so far have made of those at the beginning, and so were those seen
by the canvas when it was told of anything. -/
structure Tracked (schedule : Schedule α) (begun : Flags) (s : Session α) : Prop where
  flags : s.flags = begun.afterAll s.calls.toList
  told : ∀ n event, s.events.toList[n]? = some event → ∃ before after,
    s.calls.toList = before ++ schedule.during n event (begun.afterAll before) ++ after

namespace Tracked

theorem receive (h : s.Tracked schedule begun) (calls : List Call) :
    (s.receive calls).Tracked schedule begun where
  flags := by
    rw [calls_receive, Flags.afterAll_append, ← h.flags]
    rfl
  told n event hn := by
    obtain ⟨before, after, hcalls⟩ := h.told n event hn
    refine ⟨before, after ++ calls, ?_⟩
    rw [calls_receive, hcalls, List.append_assoc]

theorem tell (h : s.Tracked schedule begun) (event : Event α) :
    (s.tell schedule event).Tracked schedule begun := by
  have hreceived := h.receive (schedule.during s.events.size event s.flags)
  refine ⟨hreceived.flags, fun n event' hn => ?_⟩
  rw [events_tell] at hn
  have hlt : n < s.events.toList.length + 1 := by
    have hlt := (List.getElem?_eq_some_iff.1 hn).1
    rwa [List.length_append] at hlt
  rcases Nat.lt_succ_iff_lt_or_eq.1 hlt with hlt | rfl
  · rw [List.getElem?_append_left hlt] at hn
    exact hreceived.told n event' hn
  · -- the event is the new one, and its callback has seen the flags as they were
    rw [List.getElem?_concat_length, Option.some_inj] at hn
    subst hn
    refine ⟨s.calls.toList, [], ?_⟩
    rw [← h.flags, List.append_nil, Array.length_toList]
    exact calls_receive s _

theorem report (h : s.Tracked schedule begun) (status : Status) :
    (s.report schedule status).Tracked schedule begun :=
  have htold := h.tell (.status status)
  ⟨htold.flags, htold.told⟩

theorem wait (h : s.Tracked schedule begun) (groups : List (List Call)) :
    (Session.wait groups s).Tracked schedule begun := by
  induction groups generalizing s with
  | nil =>
    unfold Session.wait
    split
    · exact ⟨h.flags, h.told⟩
    · exact h
  | cons calls later ih =>
    unfold Session.wait
    split
    · exact ih (h.receive calls)
    · exact h

theorem pause (h : s.Tracked schedule begun) : (s.pause schedule).Tracked schedule begun := by
  have htold := h.report .paused
  have hwaited := wait (s := { s.report schedule .paused with pauses := s.pauses + 1 })
    ⟨htold.flags, htold.told⟩ (schedule.waiting s.pauses)
  unfold Session.pause
  simp only
  split
  · exact hwaited
  · exact hwaited.receive _

theorem checkpoint (h : s.Tracked schedule begun) :
    (Session.checkpoint schedule s).2.Tracked schedule begun := by
  have hasked := h.receive (schedule.before s.asked)
  have hlooked := Tracked.receive
    (s := { s.receive (schedule.before s.asked) with asked := s.asked + 1 })
    ⟨hasked.flags, hasked.told⟩ (schedule.between s.asked)
  unfold Session.checkpoint
  simp only
  split
  · exact ⟨hasked.flags, hasked.told⟩
  · split
    · split
      · exact hlooked.pause
      · exact hlooked.pause.report .calculating
    · exact hlooked

end Tracked

/-- **Questions keep track of the flags**, whatever they are answered with. -/
theorem checkpoint_tracked (schedule : Schedule α) (begun : Flags) :
    (Session.checkpoint schedule).Keeps (Tracked schedule begun) (Tracked schedule begun) where
  proceed hs hq := by
    have hnext := hs.checkpoint
    rwa [hq] at hnext
  halt hs hq := by
    have hnext := hs.checkpoint
    rwa [hq] at hnext

end Session

/-! ## Runs -/

namespace Renderer

variable {α : Type} [Scalar α]

/-- What a run adds to the log of its control. -/
def marks (r : Renderer α) (schedule : Schedule α) : List Mark :=
  let called := (r.run schedule).calls.map .called
  match r.config.prepare with
  | .ok _ => .cleared :: called
  | .error _ => called

/-- A run with accepted inputs is the record of a session that kept track of the flags. -/
theorem exists_tracked (r : Renderer α) (schedule : Schedule α) {table : RuleTable}
    (hp : r.config.prepare = .ok table) :
    ∃ s result, r.run schedule = r.record s result ∧ s.Tracked schedule r.flags.clearStop := by
  have hbegun : (r.session schedule).Tracked schedule r.flags.clearStop := by
    refine Session.Tracked.report ⟨rfl, fun n event hn => ?_⟩ .calculating
    cases hn
  have h := r.config.picture_computes (Session.checkpoint_tracked schedule r.flags.clearStop)
    table _ hbegun
  unfold run
  rw [hp]
  simp only
  generalize r.config.picture table (Session.checkpoint schedule) (r.session schedule) = work at h ⊢
  cases h with
  | complete hc hs => exact ⟨_, _, rfl, (hs.tell _).report _⟩
  | failed hc hs => exact ⟨_, _, rfl, hs.report _⟩
  | interrupted hs =>
    simp only
    split
    · exact ⟨_, _, rfl, hs⟩
    · exact ⟨_, _, rfl, hs.report _⟩

/-- **A run makes the flags what it adds to the log makes of them**, and changes them in no other
way. -/
theorem flags_run (r : Renderer α) (schedule : Schedule α) :
    (r.run schedule).renderer.flags = r.flags.markAll (r.marks schedule) := by
  unfold marks
  cases hp : r.config.prepare with
  | error rejection =>
    rw [r.run_rejected schedule hp]
    rfl
  | ok table =>
    obtain ⟨s, result, hrun, hs⟩ := r.exists_tracked schedule hp
    rw [hrun, Flags.markAll_cleared]
    exact hs.flags

/-- A callback sees what the calls before it in the run have made of the flags, and makes its own
calls then. -/
theorem exists_seen {r : Renderer α} {schedule : Schedule α} {n : Nat} {event : Event α}
    (h : (r.run schedule).events[n]? = some event) :
    ∃ before after, (r.run schedule).calls = before
      ++ schedule.during n event (r.flags.markAll (.cleared :: before.map .called)) ++ after := by
  cases hp : r.config.prepare with
  | error rejection =>
    rw [r.run_rejected schedule hp] at h
    cases h
  | ok table =>
    obtain ⟨s, result, hrun, hs⟩ := r.exists_tracked schedule hp
    rw [hrun] at h ⊢
    simp only [Flags.markAll_cleared]
    exact hs.told n event h

end Renderer

/-! ## Handles -/

namespace Handles

/-- The number of the control that handle number `i` leads to, if there is such a handle. -/
def target? (h : Handles) (i : Nat) : Option Nat := (h.targets[i]?).map Fin.val

/-- The flags of control number `k`; they are down where there is no control. -/
def flagsOf (h : Handles) (k : Nat) : Flags := (h.controls[k]?).getD {}

/-- The handles when the flags of control number `k` have become others. -/
def put (h : Handles) (k : Nat) (flags : Flags) : Handles :=
  { h with controls := h.controls.setIfInBounds k flags }

/-- No controls and no handles. -/
def empty : Handles := ⟨0, #v[], #[]⟩

theorem count_call (h : Handles) (i : Nat) (c : Call) : (h.call i c).count = h.count := by
  unfold call
  split <;> rfl

theorem count_duplicate (h : Handles) (i : Nat) : (h.duplicate i).count = h.count := by
  unfold duplicate
  split <;> rfl

/-- What is seen through a handle are the flags of the control that it leads to. -/
theorem getElem?_flags (h : Handles) (i : Nat) : h.flags[i]? = (h.target? i).map h.flagsOf := by
  unfold flags target?
  rw [List.getElem?_map, Array.getElem?_toList]
  cases h.targets[i]? with
  | none => rfl
  | some target => simp [flagsOf]

theorem flagsOf_call (h : Handles) (i : Nat) (c : Call) (k : Nat) :
    (h.call i c).flagsOf k
      = if h.target? i = some k then (h.flagsOf k).after c else h.flagsOf k := by
  unfold call target?
  cases h.targets[i]? with
  | none => rfl
  | some target =>
    simp only [Option.map_some, Option.some_inj, flagsOf]
    split
    · next hk =>
      subst hk
      simp
    · next hk => rw [Vector.getElem?_set_ne target.isLt hk]

theorem flagsOf_duplicate (h : Handles) (i k : Nat) : (h.duplicate i).flagsOf k = h.flagsOf k := by
  unfold duplicate
  split <;> rfl

/-- A new control has its flags down. -/
theorem flagsOf_fresh (h : Handles) (k : Nat) : h.fresh.flagsOf k = h.flagsOf k := by
  unfold fresh flagsOf
  simp only [Vector.getElem?_push]
  split
  · next hk =>
    subst hk
    simp
  · rfl

theorem flagsOf_put (h : Handles) {j : Nat} (hj : j < h.count) (flags : Flags) (k : Nat) :
    (h.put j flags).flagsOf k = if k = j then flags else h.flagsOf k := by
  unfold put flagsOf
  simp only
  split
  · next hk =>
    subst hk
    simp [hj]
  · next hk => rw [Vector.getElem?_setIfInBounds_ne (Ne.symm hk)]

end Handles

/-! ## Studios -/

/-- Some renderers, each with a control of its own, and the handles for the controls. -/
structure Studio (α : Type) where
  handles : Handles
  /-- The inputs and the status of the renderer of each control. -/
  inputs : List (Config α × Status)
  length_inputs : inputs.length = handles.count

namespace Studio

variable {α : Type}

/-- No renderers yet. -/
def empty : Studio α := ⟨.empty, [], rfl⟩

/-- Renderer number `k`, if there is one. -/
def renderer? (s : Studio α) (k : Nat) : Option (Renderer α) :=
  (s.inputs[k]?).map fun (config, status) => ⟨config, s.handles.flagsOf k, status⟩

/-- The studio when renderer number `k`, if there is one, has become another. -/
def change (s : Studio α) (k : Nat) (f : Renderer α → Renderer α) : Studio α :=
  match s.renderer? k with
  | some r =>
    ⟨s.handles.put k (f r).flags, s.inputs.set k ((f r).config, (f r).status),
      List.length_set.trans s.length_inputs⟩
  | none => s

/-- One thing that can be done in a studio. -/
inductive Action (α : Type) where
  /-- A renderer is made, and a handle for its control. -/
  | make (config : Config α)
  /-- A further handle is made for the control that handle number `i` leads to. -/
  | duplicate (i : Nat)
  /-- A call is made through handle number `i`. -/
  | call (i : Nat) (c : Call)
  /-- Renderer number `k` is given other inputs. -/
  | setConfig (k : Nat) (config : Config α)
  /-- Renderer number `k` is run, and the schedule says what is called for meanwhile. A run looks at
  its own control only, so calls for other controls are told of before it or after it. -/
  | run (k : Nat) (schedule : Schedule α)

variable [Scalar α]

/-- The studio after an action; nothing happens if its renderer or its handle does not exist. -/
def perform (s : Studio α) : Action α → Studio α
  | .make config =>
    let r := Renderer.ofConfig config
    ⟨s.handles.fresh, s.inputs ++ [(r.config, r.status)], by
      rw [List.length_append, s.length_inputs]
      rfl⟩
  | .duplicate i =>
    ⟨s.handles.duplicate i, s.inputs, s.length_inputs.trans (s.handles.count_duplicate i).symm⟩
  | .call i c =>
    ⟨s.handles.call i c, s.inputs, s.length_inputs.trans (s.handles.count_call i c).symm⟩
  | .setConfig k config => s.change k fun r => r.setConfig config
  | .run k schedule => s.change k fun r => (r.run schedule).renderer

/-- The studio after some actions. -/
def performAll (s : Studio α) (actions : List (Action α)) : Studio α := actions.foldl perform s

/-- What an action adds to the log of control number `k`. -/
def marks (s : Studio α) (k : Nat) : Action α → List Mark
  | .call i c => if s.handles.target? i = some k then [.called c] else []
  | .run j schedule =>
    if j = k then
      match s.renderer? k with
      | some r => r.marks schedule
      | none => []
    else []
  | .make _ | .duplicate _ | .setConfig _ _ => []

/-- The log of control number `k` during some actions. -/
def log (s : Studio α) (k : Nat) : List (Action α) → List Mark
  | [] => []
  | action :: actions => s.marks k action ++ (s.perform action).log k actions

omit [Scalar α] in
theorem flags_of_renderer? {s : Studio α} {k : Nat} {r : Renderer α} (h : s.renderer? k = some r) :
    r.flags = s.handles.flagsOf k := by
  obtain ⟨inputs, -, rfl⟩ := Option.map_eq_some_iff.1 h
  rfl

omit [Scalar α] in
/-- What becomes of one renderer changes the flags of no other. -/
theorem flagsOf_change (s : Studio α) (j : Nat) (f : Renderer α → Renderer α) (k : Nat) :
    (s.change j f).handles.flagsOf k
      = if j = k then ((s.renderer? k).map fun r => (f r).flags).getD (s.handles.flagsOf k)
        else s.handles.flagsOf k := by
  unfold change
  cases hr : s.renderer? j with
  | none =>
    simp only
    by_cases hk : j = k
    · subst hk
      rw [if_pos rfl, hr]
      rfl
    · rw [if_neg hk]
  | some r =>
    obtain ⟨inputs, hinputs, -⟩ := Option.map_eq_some_iff.1 hr
    have hj := (List.getElem?_eq_some_iff.1 hinputs).1
    rw [s.length_inputs] at hj
    refine (s.handles.flagsOf_put hj (f r).flags k).trans ?_
    by_cases hk : j = k
    · subst hk
      rw [if_pos rfl, if_pos rfl, hr]
      rfl
    · rw [if_neg (Ne.symm hk), if_neg hk]

/-- **Every action makes the flags of a control what it adds to its log makes of them.** -/
theorem flagsOf_perform (s : Studio α) (k : Nat) (action : Action α) :
    (s.perform action).handles.flagsOf k = (s.handles.flagsOf k).markAll (s.marks k action) := by
  cases action with
  | make config => exact s.handles.flagsOf_fresh k
  | duplicate i => exact s.handles.flagsOf_duplicate i k
  | call i c =>
    refine (s.handles.flagsOf_call i c k).trans ?_
    simp only [marks]
    split <;> rfl
  | setConfig j config =>
    refine (s.flagsOf_change j _ k).trans ?_
    split
    · cases hr : s.renderer? k with
      | none => rfl
      | some r =>
        rw [← flags_of_renderer? hr]
        rfl
    · rfl
  | run j schedule =>
    refine (s.flagsOf_change j _ k).trans ?_
    simp only [marks]
    split
    · cases hr : s.renderer? k with
      | none => rfl
      | some r =>
        rw [← flags_of_renderer? hr]
        exact r.flags_run schedule
    · rfl

theorem flagsOf_performAll (s : Studio α) (k : Nat) (actions : List (Action α)) :
    (s.performAll actions).handles.flagsOf k
      = (s.handles.flagsOf k).markAll (s.log k actions) := by
  induction actions generalizing s with
  | nil => rfl
  | cons action actions ih =>
    calc ((s.perform action).performAll actions).handles.flagsOf k
        = ((s.perform action).handles.flagsOf k).markAll ((s.perform action).log k actions) := ih _
      _ = (s.handles.flagsOf k).markAll (s.log k (action :: actions)) := by
        rw [flagsOf_perform, log, Flags.markAll_append]

omit [Scalar α] in
/-- Before anything is done all flags are down. -/
theorem flagsOf_empty (k : Nat) : (empty : Studio α).handles.flagsOf k = {} := rfl

/-- A run that is turned away adds nothing to any log. -/
theorem marks_of_rejected {s : Studio α} {k : Nat} {r : Renderer α} (h : s.renderer? k = some r)
    {rejection : Rejection α} (hp : r.config.prepare = .error rejection) (schedule : Schedule α) :
    s.marks k (.run k schedule) = [] := by
  simp only [marks, if_pos, h, Renderer.marks, hp, r.run_rejected schedule hp, List.map_nil]

/-- **The flags over whole histories.** However renderers are made, called upon, given other inputs
and run, what is seen through a handle is what the log of its control says: a stop is pending when
it was called for after the latest accepted run began, and a pause when it is the latest of all
calls. The same is seen in a callback, by the log up to then, and its own calls are made after that.
A run that is turned away adds nothing to the log, and an action that does not leaves the flags
alone: so does a call through a handle of another control. -/
theorem flags_of_history (actions : List (Action α)) :
    let studio : Studio α := empty.performAll actions
    (∀ i flags, studio.handles.flags[i]? = some flags → ∃ k, studio.handles.target? i = some k ∧
        flags.Reflects (empty.log k actions)) ∧
      (∀ k r, studio.renderer? k = some r → r.flags.Reflects (empty.log k actions) ∧
        (∀ schedule rejection, r.config.prepare = .error rejection →
          studio.marks k (.run k schedule) = []) ∧
        ∀ schedule n event, (r.run schedule).events[n]? = some event → ∃ before after seen,
          (r.run schedule).calls = before ++ schedule.during n event seen ++ after ∧
            seen.Reflects (empty.log k actions ++ .cleared :: before.map .called)) ∧
      ∀ k action, studio.marks k action = [] →
        (studio.perform action).handles.flagsOf k = studio.handles.flagsOf k := by
  intro studio
  have hflags : ∀ k, studio.handles.flagsOf k = ({} : Flags).markAll (empty.log k actions) := by
    intro k
    rw [← flagsOf_empty (α := α) k]
    exact empty.flagsOf_performAll k actions
  refine ⟨?_, ?_, ?_⟩
  · intro i flags hi
    rw [Handles.getElem?_flags] at hi
    obtain ⟨k, hk, rfl⟩ := Option.map_eq_some_iff.1 hi
    refine ⟨k, hk, ?_⟩
    rw [hflags]
    exact Flags.reflects_markAll _
  · intro k r hr
    have hnow : r.flags = ({} : Flags).markAll (empty.log k actions) :=
      (flags_of_renderer? hr).trans (hflags k)
    refine ⟨?_, fun schedule rejection hp => marks_of_rejected hr hp schedule, ?_⟩
    · rw [hnow]
      exact Flags.reflects_markAll _
    · intro schedule n event hn
      obtain ⟨before, after, hcalls⟩ := Renderer.exists_seen hn
      refine ⟨before, after, _, hcalls, ?_⟩
      rw [hnow, ← Flags.markAll_append]
      exact Flags.reflects_markAll _
  · intro k action hk
    rw [flagsOf_perform, hk]
    rfl

/-- Two renderers, and a further handle for the control of the first. It is stopped through that
handle, turned away for want of room, given room again and paused; the other is only stopped. When
it is run, the callback that tells of the pause sees the pause and not the stop, and resumes. -/
theorem flags_of_shared_control :
    let _ := Scalar.quarterTurns
    let narrow : Config ℚ := { Config.initial with width := 30 }
    let actions : List (Action ℚ) := [.make Config.initial, .make Config.initial, .duplicate 0,
      .call 2 .stop, .setConfig 0 narrow, .run 0 Schedule.quiet, .setConfig 0 Config.initial,
      .call 0 .pause, .call 1 .stop]
    let studio : Studio ℚ := empty.performAll actions
    let r : Renderer ℚ := ⟨Config.initial, ⟨true, true⟩, .idle⟩
    let schedule : Schedule ℚ :=
      { (Schedule.quiet : Schedule ℚ) with
        during := fun n _ _ => [[], [.resume], [.stop, .pause]].getD n [] }
    studio.handles.flags = [⟨true, true⟩, ⟨true, false⟩, ⟨true, true⟩] ∧
      empty.log 0 actions = [.called .stop, .called .pause] ∧
      (⟨true, true⟩ : Flags).Reflects (empty.log 0 actions) ∧
      studio.renderer? 0 = some r ∧ (r.run schedule).calls = [.resume, .stop, .pause] ∧
      (∃ before after, ∃ seen : Flags, (r.run schedule).calls = before ++ [.resume] ++ after ∧
        seen.Reflects (empty.log 0 actions ++ .cleared :: before.map .called)) ∧
      (studio.perform (.call 1 .pause)).handles.flagsOf 0 = ⟨true, true⟩ := by
  intro _ narrow actions studio r schedule
  have hflags : studio.handles.flags = [⟨true, true⟩, ⟨true, false⟩, ⟨true, true⟩] := by
    decide +kernel
  have hlog : empty.log 0 actions = [.called .stop, .called .pause] := by decide +kernel
  have htarget : studio.handles.target? 2 = some 0 := by decide +kernel
  have hr : studio.renderer? 0 = some r := by decide +kernel
  have hevent : (r.run schedule).events[1]? = some (.status .paused) := by decide +kernel
  have hcalls : (r.run schedule).calls = [.resume, .stop, .pause] := by decide +kernel
  have hother : studio.marks 0 (.call 1 .pause) = [] := by decide +kernel
  have hfirst : studio.handles.flagsOf 0 = ⟨true, true⟩ := by decide +kernel
  obtain ⟨hhandles, hrenderers, hframe⟩ := flags_of_history actions
  obtain ⟨k, hk, hreflects⟩ := hhandles 2 ⟨true, true⟩ (by rw [hflags]; rfl)
  obtain rfl : 0 = k := Option.some_inj.1 (htarget.symm.trans hk)
  obtain ⟨-, -, hcallbacks⟩ := hrenderers 0 r hr
  exact ⟨hflags, hlog, hreflects, hr, hcalls, hcallbacks schedule 1 _ hevent,
    (hframe 0 _ hother).trans hfirst⟩

end Studio

end Lindenmayer
