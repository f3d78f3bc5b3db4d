import Lindenmayer.Proofs.Watched
import Lindenmayer.Render.Session

set_option autoImplicit false

/-! # Sessions in progress

What is true of a session between two questions to its checkpoint (`Session.InProgress`), and what
is true when a question has halted it (`Session.Halted`), whatever calls others make and whenever
they make them. `Session.checkpoint_keeps` shows that one question leads from the first to the
first or to the second; everything that is claimed of the events of a run rests on it.

Two accounts are kept. A stop flag that is up stands for a call in the record of the session. And
the pauses told of so far, together with the pause flag, are paid for by the pause calls in the
record and by the pause flag at the beginning (`begun`); so the pauses told of alone are paid for at
any time (`Session.Paid`). -/

namespace Lindenmayer

/-! ## Flags -/

namespace Flags

theorem afterAll_cons (f : Flags) (c : Call) (calls : List Call) :
    f.afterAll (c :: calls) = (f.after c).afterAll calls := rfl

theorem afterAll_append (f : Flags) (calls later : List Call) :
    f.afterAll (calls ++ later) = (f.afterAll calls).afterAll later :=
  List.foldl_append

theorem stopped_afterAll (f : Flags) (calls : List Call) :
    (f.afterAll calls).stopped = true ↔ f.stopped = true ∨ Call.stop ∈ calls := by
  induction calls generalizing f with
  | nil => simp [afterAll]
  | cons c calls ih =>
    rw [afterAll_cons, ih]
    cases c <;> simp [after]

/-- A pause flag that calls have put up is paid for by a pause call. -/
theorem paused_afterAll_le (f : Flags) (calls : List Call) :
    (f.afterAll calls).paused.toNat ≤ f.paused.toNat + calls.count .pause := by
  induction calls generalizing f with
  | nil => simp [afterAll]
  | cons c calls ih =>
    rw [afterAll_cons]
    refine Nat.le_trans (ih (f.after c)) ?_
    cases c with
    | pause =>
      simp only [after, List.count_cons_self, Bool.toNat_true]
      omega
    | resume => simp [after]
    | stop => simp [after]

theorem holds_afterAll (f : Flags) {calls : List Call} {c : Call} (h : calls.getLast? = some c)
    (hc : c ≠ .pause) : (f.afterAll calls).holds = false := by
  obtain ⟨earlier, rfl⟩ := List.getLast?_eq_some_iff.1 h
  rw [afterAll_append, afterAll_cons]
  cases c with
  | pause => exact absurd rfl hc
  | resume => rfl
  | stop => rfl

end Flags

/-! ## What a canvas is told -/

section Events

variable {α : Type}

/-- What a canvas is told of a run up to the end of its `n`-th pause. -/
def progress (n : Nat) : List (Event α) :=
  .status .calculating :: (List.replicate n [.status .paused, .status .calculating]).flatten

theorem progress_succ (n : Nat) :
    (progress (n + 1) : List (Event α))
      = progress n ++ [.status .paused, .status .calculating] := by
  simp [progress, List.replicate_succ']

theorem length_progress (n : Nat) : (progress n : List (Event α)).length = 2 * n + 1 := by
  induction n with
  | zero => rfl
  | succ n ih =>
    rw [progress_succ, List.length_append, ih]
    rfl

theorem getLast?_progress (n : Nat) :
    (progress n : List (Event α)).getLast? = some (.status .calculating) := by
  induction n with
  | zero => rfl
  | succ n ih =>
    rw [progress_succ, List.getLast?_append]
    rfl

/-- Whether an event is the news of a pause. -/
def Event.isPaused : Event α → Bool
  | .status .paused => true
  | _ => false

theorem countP_progress (n : Nat) : (progress n : List (Event α)).countP Event.isPaused = n := by
  induction n with
  | zero => rfl
  | succ n ih =>
    rw [progress_succ, List.countP_append, ih]
    rfl

end Events

/-- In every pause there is a moment at which the flags are looked at and the latest call was not a
pause. -/
def Schedule.Releases {α : Type} (schedule : Schedule α) : Prop :=
  ∀ n, ∃ calls ∈ schedule.waiting n, ∃ c, calls.getLast? = some c ∧ c ≠ .pause

namespace Session

variable {α : Type} {begun : Flags} {s : Session α} {n : Nat}

/-! ## Invariants -/

/-- A session between two questions. -/
structure InProgress (begun : Flags) (s : Session α) : Prop where
  running : s.stuck = false
  events : s.events.toList = progress s.pauses
  pauses : s.pauses + s.flags.paused.toNat ≤ s.calls.toList.count .pause + begun.paused.toNat
  stops : s.flags.stopped = true → Call.stop ∈ s.calls.toList

/-- A session in a pause, after `n` others. -/
structure InPause (begun : Flags) (n : Nat) (s : Session α) : Prop where
  count : s.pauses = n + 1
  events : s.events.toList = progress n ++ [.status .paused]
  pauses : n + 1 ≤ s.calls.toList.count .pause + begun.paused.toNat
  stops : s.flags.stopped = true → Call.stop ∈ s.calls.toList

/-- A session that was halted: by a stop, in a pause or not, or because nobody ends a pause. -/
inductive Halted (schedule : Schedule α) (begun : Flags) (s : Session α) : Prop where
  | stopped (n : Nat) (running : s.stuck = false) (events : s.events.toList = progress n)
      (pauses : n ≤ s.calls.toList.count .pause + begun.paused.toNat)
      (called : Call.stop ∈ s.calls.toList)
  | stoppedInPause (n : Nat) (running : s.stuck = false)
      (events : s.events.toList = progress n ++ [.status .paused])
      (pauses : n + 1 ≤ s.calls.toList.count .pause + begun.paused.toNat)
      (called : Call.stop ∈ s.calls.toList)
  | waiting (n : Nat) (waits : s.stuck = true)
      (events : s.events.toList = progress n ++ [.status .paused])
      (pauses : n + 1 ≤ s.calls.toList.count .pause + begun.paused.toNat)
      (unreleased : ¬ schedule.Releases)

/-- A session that was halted and does not wait was stopped by a call. -/
theorem Halted.called {schedule : Schedule α} (h : s.Halted schedule begun)
    (hrun : s.stuck = false) : Call.stop ∈ s.calls.toList := by
  cases h with
  | stopped _ _ _ _ called => exact called
  | stoppedInPause _ _ _ _ called => exact called
  | waiting _ waits => exact absurd (hrun.symm.trans waits) Bool.false_ne_true

/-- A session that waits does so because a pause that was called for is never ended. -/
theorem Halted.unreleased {schedule : Schedule α} (h : s.Halted schedule begun)
    (hwaits : s.stuck = true) :
    ¬ schedule.Releases ∧ (Call.pause ∈ s.calls.toList ∨ begun.paused = true) := by
  cases h with
  | stopped _ running => exact absurd (running.symm.trans hwaits) Bool.false_ne_true
  | stoppedInPause _ running => exact absurd (running.symm.trans hwaits) Bool.false_ne_true
  | waiting n _ _ pauses unreleased =>
    refine ⟨unreleased, ?_⟩
    cases hb : begun.paused with
    | true => exact .inr rfl
    | false =>
      rw [hb, Bool.toNat_false] at pauses
      exact .inl (List.count_pos_iff.1 (by omega))

/-! ## Calls and news -/

theorem calls_receive (s : Session α) (calls : List Call) :
    (s.receive calls).calls.toList = s.calls.toList ++ calls := by
  simp [receive]

theorem stops_receive (h : s.flags.stopped = true → Call.stop ∈ s.calls.toList)
    (calls : List Call) :
    (s.receive calls).flags.stopped = true → Call.stop ∈ (s.receive calls).calls.toList := by
  rw [calls_receive, List.mem_append]
  exact fun hs => ((s.flags.stopped_afterAll calls).1 hs).imp_left h

theorem pauses_receive
    (h : n + s.flags.paused.toNat ≤ s.calls.toList.count .pause + begun.paused.toNat)
    (calls : List Call) :
    n + (s.receive calls).flags.paused.toNat
      ≤ (s.receive calls).calls.toList.count .pause + begun.paused.toNat := by
  have hc := s.flags.paused_afterAll_le calls
  rw [calls_receive, List.count_append]
  simp only [receive]
  omega

theorem InProgress.receive (h : s.InProgress begun) (calls : List Call) :
    (s.receive calls).InProgress begun where
  running := h.running
  events := h.events
  pauses := pauses_receive h.pauses calls
  stops := stops_receive h.stops calls

theorem InPause.receive (h : s.InPause begun n) (calls : List Call) :
    (s.receive calls).InPause begun n where
  count := h.count
  events := h.events
  pauses := by
    have hp := h.pauses
    rw [calls_receive, List.count_append]
    omega
  stops := stops_receive h.stops calls

theorem events_tell (schedule : Schedule α) (event : Event α) (s : Session α) :
    (s.tell schedule event).events.toList = s.events.toList ++ [event] := by
  simp [tell, Session.receive]

theorem events_report (schedule : Schedule α) (status : Status) (s : Session α) :
    (s.report schedule status).events.toList = s.events.toList ++ [.status status] :=
  events_tell schedule _ s

theorem calls_tell (schedule : Schedule α) (event : Event α) (s : Session α) :
    ∃ calls, (s.tell schedule event).calls.toList = s.calls.toList ++ calls :=
  ⟨_, calls_receive s _⟩

theorem calls_report (schedule : Schedule α) (status : Status) (s : Session α) :
    ∃ calls, (s.report schedule status).calls.toList = s.calls.toList ++ calls :=
  calls_tell schedule _ s

theorem mem_calls_report {c : Call} (h : c ∈ s.calls.toList) (schedule : Schedule α)
    (status : Status) : c ∈ (s.report schedule status).calls.toList := by
  obtain ⟨calls, hcalls⟩ := calls_report schedule status s
  rw [hcalls]
  exact List.mem_append_left calls h

/-! ## Pauses -/

theorem wait_eq_self (h : s.flags.holds = false) (groups : List (List Call)) :
    wait groups s = s := by
  cases groups with
  | nil => simp [wait, h]
  | cons calls later => simp [wait, h]

/-- A wait ends when the flags no longer hold the run, or never, and then no group of calls ended
with anything but a pause. -/
theorem InPause.wait (h : s.InPause begun n) (hs : s.stuck = false) (groups : List (List Call)) :
    (wait groups s).InPause begun n ∧
      ((Session.wait groups s).stuck = false → (Session.wait groups s).flags.holds = false) ∧
      ((Session.wait groups s).stuck = true →
        ∀ calls ∈ groups, ∀ c, calls.getLast? = some c → c = .pause) := by
  induction groups generalizing s with
  | nil =>
    unfold Session.wait
    split
    · refine ⟨⟨h.count, h.events, h.pauses, h.stops⟩, fun hrun => ?_, fun _ _ hg => ?_⟩
      · cases hrun
      · cases hg
    · next hfree => exact ⟨h, fun _ => Bool.eq_false_iff.2 hfree, fun _ _ hg => by cases hg⟩
  | cons calls later ih =>
    unfold Session.wait
    split
    · obtain ⟨hp, hfree, hheld⟩ := ih (h.receive calls) hs
      refine ⟨hp, hfree, fun hstuck group hg c hc => ?_⟩
      rcases List.mem_cons.1 hg with rfl | hg
      · refine Decidable.byContradiction fun hne => ?_
        -- the look after this group would have ended the wait
        rw [wait_eq_self (s.flags.holds_afterAll hc hne)] at hstuck
        exact absurd (hs.symm.trans hstuck) Bool.false_ne_true
      · exact hheld hstuck group hg c hc
    · next hfree =>
      exact ⟨h, fun _ => Bool.eq_false_iff.2 hfree,
        fun hstuck => absurd (hs.symm.trans hstuck) Bool.false_ne_true⟩

/-- A pause that ends without a stop has taken the pause flag down, so that its own news is paid
for. -/
theorem InProgress.pause (h : s.InProgress begun) (hp : s.flags.paused = true)
    (schedule : Schedule α) :
    (s.pause schedule).InPause begun s.pauses ∧
      ((s.pause schedule).stuck = true → ¬ schedule.Releases) ∧
      ((s.pause schedule).stuck = false → (s.pause schedule).flags.stopped = false →
        s.pauses + 1 + (s.pause schedule).flags.paused.toNat
          ≤ (s.pause schedule).calls.toList.count .pause + begun.paused.toNat) := by
  have htold : InPause begun s.pauses { s.report schedule .paused with pauses := s.pauses + 1 } := by
    refine ⟨rfl, ?_, ?_, stops_receive h.stops _⟩
    · exact (events_report schedule _ s).trans (by rw [h.events])
    · have hpaid := h.pauses
      obtain ⟨calls, hcalls⟩ := calls_report schedule .paused s
      have hcount : (s.report schedule .paused).calls.toList.count .pause
          = s.calls.toList.count .pause + calls.count .pause := by
        rw [hcalls, List.count_append]
      simp only [hp, Bool.toNat_true] at hpaid
      show s.pauses + 1 ≤ (s.report schedule .paused).calls.toList.count .pause + _
      omega
  obtain ⟨hw, hfree, hheld⟩ := htold.wait h.running (schedule.waiting s.pauses)
  unfold Session.pause
  simp only
  split
  · next hstuck =>
    refine ⟨hw, fun _ hrel => ?_, fun hrun => absurd (hstuck.symm.trans hrun) (by simp)⟩
    obtain ⟨calls, hmem, c, hlast, hne⟩ := hrel s.pauses
    exact hne (hheld hstuck calls hmem c hlast)
  · next hstuck =>
    have hrun := Bool.eq_false_iff.2 hstuck
    refine ⟨hw.receive _, fun hstuck' => absurd hstuck' hstuck, fun _ hns => ?_⟩
    refine pauses_receive ?_ _
    -- nothing takes a stop flag down, so without one the wait ended because the pause flag is down
    have hnostop : ¬ (Session.wait (schedule.waiting s.pauses)
        { s.report schedule .paused with pauses := s.pauses + 1 }).flags.stopped = true := by
      intro hstop
      have := (Flags.stopped_afterAll _ (schedule.released s.pauses)).2 (Or.inl hstop)
      exact absurd (hns.symm.trans this) Bool.false_ne_true
    have hfree' := hfree hrun
    simp only [Flags.holds, Bool.eq_false_iff.2 hnostop, Bool.not_false, Bool.and_true] at hfree'
    have hpaid := hw.pauses
    rw [hfree']
    exact hpaid

/-! ## One question -/

/-- The news that a pause is over puts a session in progress again. -/
theorem InPause.report (h : s.InPause begun n) (hrun : s.stuck = false)
    (hpaid : n + 1 + s.flags.paused.toNat ≤ s.calls.toList.count .pause + begun.paused.toNat)
    (schedule : Schedule α) : (s.report schedule .calculating).InProgress begun := by
  have hcount : (s.report schedule .calculating).pauses = n + 1 := h.count
  refine ⟨hrun, ?_, ?_, stops_receive h.stops _⟩
  · rw [events_report, hcount, h.events, List.append_assoc]
    exact (progress_succ n).symm
  · rw [hcount]
    exact pauses_receive hpaid _

/-- A pause that a question comes to ends in a session in progress or in a halted one. -/
theorem InProgress.resume (h : s.InProgress begun) (hp : s.flags.paused = true)
    (schedule : Schedule α) :
    if (s.pause schedule).stuck || (s.pause schedule).flags.stopped then
      (s.pause schedule).Halted schedule begun
    else ((s.pause schedule).report schedule .calculating).InProgress begun := by
  obtain ⟨hpause, hheld, hpaid⟩ := h.pause hp schedule
  cases hstuck : (s.pause schedule).stuck with
  | true => exact .waiting _ hstuck hpause.events hpause.pauses (hheld hstuck)
  | false =>
    cases hstop : (s.pause schedule).flags.stopped with
    | true => exact .stoppedInPause _ hstuck hpause.events hpause.pauses (hpause.stops hstop)
    | false => exact hpause.report hstuck (hpaid hstuck hstop) schedule

/-- A question as its two looks at the flags decide it. -/
theorem checkpoint_cases (schedule : Schedule α) (hs : s.InProgress begun) :
    (∃ s', Session.checkpoint schedule s = (.proceed, s') ∧ s'.InProgress begun) ∨
      (∃ s', Session.checkpoint schedule s = (.halt, s') ∧ s'.Halted schedule begun) := by
  have hasked : InProgress begun
      { s.receive (schedule.before s.asked) with asked := s.asked + 1 } :=
    have hr := hs.receive (schedule.before s.asked)
    ⟨hr.running, hr.events, hr.pauses, hr.stops⟩
  unfold Session.checkpoint
  simp only
  split
  · next hstop =>
    exact .inr ⟨_, rfl, .stopped _ hasked.running hasked.events
      (Nat.le_trans (Nat.le_add_right ..) hasked.pauses) (hasked.stops hstop)⟩
  · -- more calls can come in between the look for a stop and the one for a pause
    have hlooked := hasked.receive (schedule.between s.asked)
    split
    · next hpaused =>
      have h := hlooked.resume hpaused schedule
      split at h
      · next hend => exact .inr ⟨_, if_pos hend, h⟩
      · next hend => exact .inl ⟨_, if_neg hend, h⟩
    · exact .inl ⟨_, rfl, hlooked⟩

/-- **One question keeps a session in progress or halts it**, whatever calls are made before it, in
it and while it waits. -/
theorem checkpoint_keeps (schedule : Schedule α) (begun : Flags) :
    (Session.checkpoint schedule).Keeps (InProgress begun) (Halted schedule begun) where
  proceed {s s'} hs hq := by
    rcases checkpoint_cases schedule hs with ⟨s₁, h, hs₁⟩ | ⟨s₁, h, -⟩
    · cases h.symm.trans hq
      exact hs₁
    · cases h.symm.trans hq
  halt {s s'} hs hq := by
    rcases checkpoint_cases schedule hs with ⟨s₁, h, -⟩ | ⟨s₁, h, hs₁⟩
    · cases h.symm.trans hq
    · cases h.symm.trans hq
      exact hs₁

/-! ## Pauses are paid for -/

/-- The pauses told of are no more than the pause calls, and one for a pause flag at the
beginning. -/
def Paid (begun : Flags) (s : Session α) : Prop :=
  s.events.toList.countP Event.isPaused ≤ s.calls.toList.count .pause + begun.paused.toNat

theorem InProgress.paid (h : s.InProgress begun) : s.Paid begun := by
  have hp := h.pauses
  unfold Paid
  rw [h.events, countP_progress]
  omega

theorem Halted.paid {schedule : Schedule α} (h : s.Halted schedule begun) : s.Paid begun := by
  have hpause : ∀ n, (progress n ++ [(.status .paused : Event α)]).countP Event.isPaused
      = n + 1 := by
    intro n
    rw [List.countP_append, countP_progress]
    rfl
  unfold Paid
  cases h with
  | stopped n _ events pauses =>
    rw [events, countP_progress]
    exact pauses
  | stoppedInPause n _ events pauses =>
    rw [events, hpause]
    exact pauses
  | waiting n _ events pauses =>
    rw [events, hpause]
    exact pauses

/-- News of anything but a pause costs nothing. -/
theorem Paid.tell (h : s.Paid begun) {event : Event α} (he : event.isPaused = false)
    (schedule : Schedule α) : (s.tell schedule event).Paid begun := by
  obtain ⟨calls, hcalls⟩ := calls_tell schedule event s
  unfold Paid at h ⊢
  rw [events_tell, hcalls, List.countP_append, List.count_append, List.countP_singleton, he]
  simp only [Bool.false_eq_true, if_false]
  omega

end Session

end Lindenmayer
