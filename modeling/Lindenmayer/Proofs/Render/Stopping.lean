import Lindenmayer.Proofs.Render.Questions
import Lindenmayer.Proofs.Render.StatusStream

set_option autoImplicit false

/-! # Stops asked for in callbacks

A run looks for a stop when it asks its checkpoint, and again at the end of a pause; so a stop that
is asked for while the canvas is told of a status takes effect at the next look. There is one status
after which no look follows: the `calculating` at the end of a pause that the last question of the
run came to. A stop asked for then comes too late and the run finishes
(`Renderer.stop_after_last_question`); a stop asked for in any other status before the drawing is
presented ends the run (`Renderer.stop_in_callback`).

Calls are made in callbacks only here (`Schedule.InCallbacks`). Then a pause can be called for only
in the callback before a question, so after `k` questions there have been `k` pauses or nobody asks
for anything any more (`Session.Heeding`). -/

namespace Lindenmayer

/-! ## Calls in callbacks -/

namespace Schedule

variable {α : Type}

/-- Calls are made while the canvas is told of something, and at no other time. -/
structure InCallbacks (schedule : Schedule α) : Prop where
  before : ∀ n, schedule.before n = []
  between : ∀ n, schedule.between n = []
  waiting : ∀ n, schedule.waiting n = []
  released : ∀ n, schedule.released n = []

/-- The schedule that makes a list of calls in each callback, and none when the lists are used up.
-/
def inTurn (calls : List (List Call)) : Schedule α :=
  { (quiet : Schedule α) with during := fun n _ _ => calls.getD n [] }

theorem inTurn_inCallbacks (calls : List (List Call)) :
    (inTurn calls : Schedule α).InCallbacks :=
  ⟨fun _ => rfl, fun _ => rfl, fun _ => rfl, fun _ => rfl⟩

/-- The calls made during each of some events, when there are no others. The first of the events is
event number `n`, and is told when the flags are as given. -/
def replies (schedule : Schedule α) : Nat → Flags → List (Event α) → List (List Call)
  | _, _, [] => []
  | n, flags, event :: later =>
    schedule.during n event flags ::
      schedule.replies (n + 1) (flags.afterAll (schedule.during n event flags)) later

theorem length_replies (schedule : Schedule α) (n : Nat) (flags : Flags) (events : List (Event α)) :
    (schedule.replies n flags events).length = events.length := by
  induction events generalizing n flags with
  | nil => rfl
  | cons event later ih => exact congrArg (· + 1) (ih _ _)

theorem replies_append (schedule : Schedule α) (n : Nat) (flags : Flags)
    (events later : List (Event α)) :
    schedule.replies n flags (events ++ later)
      = schedule.replies n flags events ++
          schedule.replies (n + events.length)
            (flags.afterAll (schedule.replies n flags events).flatten) later := by
  induction events generalizing n flags with
  | nil => rfl
  | cons event rest ih =>
    rw [List.cons_append]
    simp only [replies, ih, List.flatten_cons, Flags.afterAll_append, List.cons_append,
      List.length_cons]
    rw [Nat.add_right_comm, Nat.add_assoc]

end Schedule

/-! ## One question -/

namespace Session

variable {α : Type} {schedule : Schedule α} {begun : Flags} {s : Session α} {k : Nat}

/-- The calls made so far are the replies to the events, and have made the flags what they are. -/
structure Replied (schedule : Schedule α) (begun : Flags) (s : Session α) : Prop where
  calls : s.calls.toList = (schedule.replies 0 begun s.events.toList).flatten
  flags : s.flags = begun.afterAll (schedule.replies 0 begun s.events.toList).flatten

theorem Replied.replies_tell (h : s.Replied schedule begun) (event : Event α) :
    schedule.replies 0 begun (s.tell schedule event).events.toList
      = schedule.replies 0 begun s.events.toList
          ++ [schedule.during s.events.size event s.flags] := by
  rw [events_tell, Schedule.replies_append, ← h.flags, Nat.zero_add]
  rfl

theorem Replied.tell (h : s.Replied schedule begun) (event : Event α) :
    (s.tell schedule event).Replied schedule begun := by
  constructor
  · rw [h.replies_tell, List.flatten_append, ← h.calls, List.flatten_singleton]
    exact calls_receive s _
  · rw [h.replies_tell, List.flatten_append, Flags.afterAll_append, ← h.flags,
      List.flatten_singleton]
    rfl

theorem Replied.stopped_iff (h : s.Replied schedule begun) (hb : begun.stopped = false) :
    s.flags.stopped = true ↔
      ∃ calls ∈ schedule.replies 0 begun s.events.toList, Call.stop ∈ calls := by
  rw [h.flags, Flags.stopped_afterAll, hb, List.mem_flatten]
  simp

/-- Without a stop flag there was no stop in any reply. -/
theorem Replied.not_mem (h : s.Replied schedule begun) (hb : begun.stopped = false)
    (hs : s.flags.stopped = false) :
    ∀ calls ∈ schedule.replies 0 begun s.events.toList, Call.stop ∉ calls := by
  intro calls hcalls hstop
  have := (h.stopped_iff hb).2 ⟨calls, hcalls, hstop⟩
  exact Bool.false_ne_true (hs.symm.trans this)

/-- A session after `k` questions, none of which halted it. -/
structure Heeding (schedule : Schedule α) (begun : Flags) (k : Nat) (s : Session α) : Prop where
  running : s.stuck = false
  events : s.events.toList = progress s.pauses
  replied : s.Replied schedule begun
  lag : s.pauses ≤ k
  quiet : s.pauses < k → s.flags.stopped = false ∧ s.flags.paused = false
  earlier : ∀ calls ∈ (schedule.replies 0 begun s.events.toList).dropLast, Call.stop ∉ calls

/-- A session that question number `k` has halted. -/
structure Heeded (schedule : Schedule α) (begun : Flags) (k : Nat) (s : Session α) : Prop where
  events : ∃ n ≤ k, s.events.toList = progress n ∨ s.events.toList = progress n ++ [.status .paused]
  replied : s.Replied schedule begun
  unstopped : s.stuck = true →
    ∀ calls ∈ schedule.replies 0 begun s.events.toList, Call.stop ∉ calls

theorem receive_nil (s : Session α) : s.receive [] = s := by
  simp [receive, Flags.afterAll]

/-- The session after one more question. -/
def ask (s : Session α) : Session α := { s with asked := s.asked + 1 }

/-- The session when its canvas was told of a pause. -/
def toldOfPause (schedule : Schedule α) (s : Session α) : Session α :=
  { s.report schedule .paused with pauses := s.pauses + 1 }

/-- A pause when calls are made in callbacks only: it is over at once or never. -/
theorem pause_inCallbacks (hc : schedule.InCallbacks) (s : Session α) :
    s.pause schedule =
      if (s.toldOfPause schedule).flags.holds then { s.toldOfPause schedule with stuck := true }
      else s.toldOfPause schedule := by
  unfold Session.pause
  simp only [hc.waiting, hc.released, receive_nil, ite_self, wait]
  rfl

/-- A question when calls are made in callbacks only: the stop flag is looked at first, and in a
pause again once the canvas was told of it. -/
theorem checkpoint_inCallbacks (hc : schedule.InCallbacks) (hs : s.stuck = false) :
    Session.checkpoint schedule s =
      if s.flags.stopped then (.halt, s.ask)
      else if s.flags.paused then
        if (s.ask.toldOfPause schedule).flags.holds then
          (.halt, { s.ask.toldOfPause schedule with stuck := true })
        else if (s.ask.toldOfPause schedule).flags.stopped then (.halt, s.ask.toldOfPause schedule)
        else (.proceed, (s.ask.toldOfPause schedule).report schedule .calculating)
      else (.proceed, s.ask) := by
  have hrun : (s.ask.toldOfPause schedule).stuck = false := hs
  unfold Session.checkpoint
  simp only [hc.before, hc.between, receive_nil]
  show (if s.ask.flags.stopped then _ else if s.ask.flags.paused then
    if (s.ask.pause schedule).stuck || (s.ask.pause schedule).flags.stopped then
      (Verdict.halt, s.ask.pause schedule)
    else (.proceed, (s.ask.pause schedule).report schedule .calculating) else _) = _
  rw [pause_inCallbacks hc]
  by_cases hholds : (s.ask.toldOfPause schedule).flags.holds
  · simp only [if_pos hholds, Bool.true_or, if_true]
    rfl
  · simp only [if_neg hholds, hrun, Bool.false_or]
    rfl

/-- A question that comes to a pause does so because the one before it did, or because it is the
first. -/
theorem Heeding.toldOfPause (h : s.Heeding schedule begun k) (hpaused : s.flags.paused = true) :
    s.pauses = k ∧ (s.ask.toldOfPause schedule).Replied schedule begun ∧
      (s.ask.toldOfPause schedule).events.toList = progress k ++ [.status .paused] := by
  have hlag : s.pauses = k := by
    refine Nat.le_antisymm h.lag (Nat.le_of_not_lt fun hlt => ?_)
    exact Bool.false_ne_true ((h.quiet hlt).2.symm.trans hpaused)
  have hasked : s.ask.Replied schedule begun := ⟨h.replied.calls, h.replied.flags⟩
  have htold := hasked.tell (.status .paused)
  refine ⟨hlag, ⟨htold.calls, htold.flags⟩, ?_⟩
  rw [← hlag, ← h.events]
  exact events_report schedule .paused s.ask

/-- A pause that no stop was asked for in is over, and a stop can be asked for in the reply to the
news of it. -/
theorem Heeding.resumed (h : s.Heeding schedule begun k) (hb : begun.stopped = false)
    (hpaused : s.flags.paused = true) (hgo : (s.ask.toldOfPause schedule).flags.stopped = false) :
    ((s.ask.toldOfPause schedule).report schedule .calculating).Heeding schedule begun (k + 1) := by
  obtain ⟨hlag, htold, hevents⟩ := h.toldOfPause hpaused
  have hcount : ((s.ask.toldOfPause schedule).report schedule .calculating).pauses = k + 1 :=
    congrArg (· + 1) hlag
  have hreplied := htold.tell (.status .calculating)
  refine ⟨h.running, ?_, ⟨hreplied.calls, hreplied.flags⟩, hcount.le, fun hlt => ?_, ?_⟩
  · rw [events_report, hcount, hevents, List.append_assoc]
    exact (progress_succ k).symm
  · exact absurd hcount hlt.ne
  · intro calls hcalls
    have hreplies := htold.replies_tell (.status .calculating)
    rw [show ((s.ask.toldOfPause schedule).report schedule .calculating).events
        = ((s.ask.toldOfPause schedule).tell schedule (.status .calculating)).events from rfl,
      hreplies, List.dropLast_concat] at hcalls
    exact htold.not_mem hb hgo calls hcalls

/-- **One question heeds a stop** that was asked for in the reply to an event before it. So a stop
can be pending after it only if it has come to a pause and the stop was asked for in the reply to
the end of that pause. -/
theorem Heeding.checkpoint (h : s.Heeding schedule begun k) (hc : schedule.InCallbacks)
    (hb : begun.stopped = false) :
    (∃ s', Session.checkpoint schedule s = (.proceed, s') ∧ s'.Heeding schedule begun (k + 1)) ∨
      ∃ s', Session.checkpoint schedule s = (.halt, s') ∧ s'.Heeded schedule begun k := by
  have hasked : s.ask.Replied schedule begun := ⟨h.replied.calls, h.replied.flags⟩
  rw [checkpoint_inCallbacks hc h.running]
  cases hstopped : s.flags.stopped with
  | true =>
    refine .inr ⟨s.ask, rfl, ⟨s.pauses, h.lag, .inl h.events⟩, hasked, fun hstuck => ?_⟩
    exact absurd (h.running.symm.trans hstuck) Bool.false_ne_true
  | false =>
    cases hpaused : s.flags.paused with
    | false =>
      exact .inl ⟨s.ask, rfl, h.running, h.events, hasked, Nat.le_succ_of_le h.lag,
        fun _ => ⟨hstopped, hpaused⟩, h.earlier⟩
    | true =>
      obtain ⟨-, htold, hevents⟩ := h.toldOfPause hpaused
      simp only [Bool.false_eq_true, if_false, if_true]
      split
      · next hholds =>
        simp only [Flags.holds, Bool.and_eq_true, Bool.not_eq_true'] at hholds
        exact .inr ⟨_, rfl, ⟨k, Nat.le_refl k, .inr hevents⟩, ⟨htold.calls, htold.flags⟩,
          fun _ => htold.not_mem hb hholds.2⟩
      · split
        · refine .inr ⟨_, rfl, ⟨k, Nat.le_refl k, .inr hevents⟩, htold, fun hstuck => ?_⟩
          exact absurd (h.running.symm.trans hstuck) Bool.false_ne_true
        · next hgo => exact .inl ⟨_, rfl, h.resumed hb hpaused (Bool.eq_false_iff.2 hgo)⟩

/-- A stop is pending after `k` questions only if it was asked for in the reply to the end of a
pause that the last of them came to. -/
theorem Heeding.pending (h : s.Heeding schedule begun k) (hb : begun.stopped = false) {i : Nat}
    {calls : List Call} (hcalls : (schedule.replies 0 begun s.events.toList)[i]? = some calls)
    (hstop : Call.stop ∈ calls) : i = 2 * k ∧ s.pauses = k := by
  have hlen : (schedule.replies 0 begun s.events.toList).length = 2 * s.pauses + 1 := by
    rw [Schedule.length_replies, h.events, length_progress]
  have hi : i < 2 * s.pauses + 1 := hlen ▸ (List.getElem?_eq_some_iff.1 hcalls).1
  have hlast : ¬ i < 2 * s.pauses := by
    intro hlt
    refine h.earlier calls (List.mem_of_getElem? (i := i) ?_) hstop
    rw [List.getElem?_dropLast, if_pos (by omega)]
    exact hcalls
  have hstopped := (h.replied.stopped_iff hb).2 ⟨calls, List.mem_of_getElem? hcalls, hstop⟩
  have hpauses : s.pauses = k := by
    refine Nat.le_antisymm h.lag (Nat.le_of_not_lt fun hlt => ?_)
    exact Bool.false_ne_true ((h.quiet hlt).1.symm.trans hstopped)
  exact ⟨by omega, hpauses⟩

/-- An event that is not the presentation of the drawing, nor comes after it, comes before it. -/
theorem lt_of_before_presented {events later : List (Event α)} {drawing : Drawing α}
    {status : Status} {i : Nat}
    (hevent : (events ++ .presented drawing :: later)[i]? = some (.status status))
    (hearly : .presented drawing ∉ (events ++ .presented drawing :: later).take i) :
    i < events.length := by
  refine Nat.lt_of_not_le fun hle => ?_
  rw [List.getElem?_append_right hle] at hevent
  cases hd : i - events.length with
  | zero =>
    rw [hd] at hevent
    cases hevent
  | succ n =>
    refine hearly ?_
    rw [List.take_append, hd]
    exact List.mem_append_right _ (List.mem_cons_self ..)

/-- A stop that is pending when all questions are answered was asked for at the end of a pause that
the last of them came to. -/
theorem Heeding.late (h : s.Heeding schedule begun k) (hb : begun.stopped = false)
    {drawing : Drawing α} {later : List (Event α)} {i : Nat} {status : Status} {calls : List Call}
    (hevent : (s.events.toList ++ .presented drawing :: later)[i]? = some (.status status))
    (hearly : .presented drawing ∉ (s.events.toList ++ .presented drawing :: later).take i)
    (hcalls : (schedule.replies 0 begun
      (s.events.toList ++ .presented drawing :: later))[i]? = some calls)
    (hstop : Call.stop ∈ calls) : i = 2 * k ∧ status = .calculating := by
  have hi := lt_of_before_presented hevent hearly
  rw [Schedule.replies_append, List.getElem?_append_left (by rwa [Schedule.length_replies])]
    at hcalls
  rw [List.getElem?_append_left hi] at hevent
  obtain ⟨rfl, hpauses⟩ := h.pending hb hcalls hstop
  have hlast := getLast?_progress (α := α) k
  rw [List.getLast?_eq_getElem?, length_progress, Nat.add_sub_cancel] at hlast
  rw [h.events, hpauses, hlast] at hevent
  cases hevent
  exact ⟨rfl, rfl⟩

/-- A session that question number `k` has halted is not told of the end of a pause that a later
question would come to. -/
theorem Heeded.no_look (h : s.Heeded schedule begun k) {i : Nat} (hi : 2 * (k + 1) ≤ i) :
    (s.events.toList ++ [.status .stopped])[i]? ≠ some (.status .calculating) := by
  obtain ⟨n, hn, hevents⟩ := h.events
  have hlen : s.events.toList.length ≤ i := by
    rcases hevents with hevents | hevents
    · rw [hevents, length_progress]
      omega
    · rw [hevents, List.length_append, length_progress, List.length_singleton]
      omega
  rw [List.getElem?_append_right hlen]
  intro hi
  have hmem := List.mem_of_getElem? hi
  rw [List.mem_singleton] at hmem
  cases hmem

/-- Nothing was presented in a session that a question has halted. -/
theorem Heeded.drawings (h : s.Heeded schedule begun k) :
    s.events.toList.filterMap Event.drawing? = [] := by
  obtain ⟨n, -, hevents | hevents⟩ := h.events
  · rw [hevents, drawings_progress]
  · rw [hevents, drawings_append_status, drawings_progress]

end Session

/-! ## Runs -/

namespace Renderer

variable {α : Type}

/-- The session that a run begins with has been asked nothing. -/
theorem session_heeding (r : Renderer α) (schedule : Schedule α) :
    (r.session schedule).Heeding schedule r.flags.clearStop 0 where
  running := rfl
  events := rfl
  replied :=
    have hfresh : Session.Replied schedule r.flags.clearStop
        { flags := r.flags.clearStop, status := r.status } := ⟨rfl, rfl⟩
    have ht := hfresh.tell (.status .calculating)
    ⟨ht.calls, ht.flags⟩
  lag := Nat.le_refl 0
  quiet h := absurd h (Nat.lt_irrefl 0)
  earlier _ h := by cases h

variable [Scalar α] {r : Renderer α} {schedule : Schedule α} {table : RuleTable}
  {picture : Picture α}

/-- The calls made during each event of a run, when calls are made in callbacks only
(`Renderer.calls_run`). -/
def replies (r : Renderer α) (schedule : Schedule α) : List (List Call) :=
  schedule.replies 0 r.flags.clearStop (r.run schedule).events

/-- A run is its questions, and one end for either answer. -/
theorem run_eq_consult (hp : r.config.prepare = .ok table)
    (hplain : r.config.undisturbedPicture table = .ok picture) (schedule : Schedule α) :
    r.run schedule =
      match (Session.checkpoint schedule).consult (r.config.questions table)
          (r.session schedule) with
      | (.halt, s) =>
        if s.stuck then r.record s none
        else r.record (s.report schedule .stopped) (some (.ok .stopped))
      | (.proceed, s) =>
        r.record ((s.tell schedule (.presented picture.drawing)).report schedule .finished)
          (some (.ok (.finished picture.stats))) := by
  unfold run
  rw [hp]
  simp only
  rw [Config.picture_asks (Session.checkpoint schedule) hplain (r.session schedule)]
  cases (Session.checkpoint schedule).consult (r.config.questions table) (r.session schedule) with
  | mk verdict s => cases verdict <;> rfl

/-- Whatever is called for in callbacks, a run finishes with its questions answered, or one of them
has halted it. -/
theorem run_heeds (hp : r.config.prepare = .ok table)
    (hplain : r.config.undisturbedPicture table = .ok picture) (hc : schedule.InCallbacks) :
    (∃ s : Session α, s.Heeding schedule r.flags.clearStop (r.config.questions table) ∧
        r.run schedule
          = r.record ((s.tell schedule (.presented picture.drawing)).report schedule .finished)
              (some (.ok (.finished picture.stats)))) ∨
      ∃ s : Session α, ∃ k < r.config.questions table,
        s.Heeded schedule r.flags.clearStop k ∧
          r.run schedule = if s.stuck then r.record s none
            else r.record (s.report schedule .stopped) (some (.ok .stopped)) := by
  rw [run_eq_consult hp hplain]
  rcases Checkpoint.consult_cases (fun h => h.checkpoint hc rfl) (r.config.questions table)
    (r.session_heeding schedule) with ⟨s, hq, hs⟩ | ⟨k, s, hq, hk, hs⟩
  · rw [hq]
    rw [Nat.zero_add] at hs
    exact .inl ⟨s, hs, rfl⟩
  · rw [hq]
    rw [Nat.zero_add] at hk
    exact .inr ⟨s, k, hk, hs, rfl⟩

/-- The calls of a run are the replies to its events, when calls are made in callbacks only. -/
theorem calls_run (hp : r.config.prepare = .ok table)
    (hplain : r.config.undisturbedPicture table = .ok picture) (hc : schedule.InCallbacks) :
    (r.run schedule).calls = (r.replies schedule).flatten := by
  unfold replies
  rcases run_heeds hp hplain hc with ⟨s, hs, hrun⟩ | ⟨s, k, -, hs, hrun⟩
  · rw [hrun]
    exact ((hs.replied.tell _).tell _).calls
  · rw [hrun]
    split
    · exact hs.replied.calls
    · exact (hs.replied.tell _).calls

/-- **A stop that is asked for in a callback ends the run**, if the drawing was not presented
before, and it was not the news of the end of a pause that the last question came to. That question
can come to a pause only if all others did, so the end of its pause is event number `2 * questions`;
a stop that is asked for then comes too late and the run finishes. -/
theorem stop_in_callback (r : Renderer α) (schedule : Schedule α) {table : RuleTable}
    {picture : Picture α} {sequence : List Char} {i : Nat} {status : Status} {calls : List Call}
    (hp : r.config.prepare = .ok table)
    (hplain : r.config.undisturbedPicture table = .ok picture)
    (hexpand : expandWithin table r.config.maxSymbols r.config.startSequence.toList
      r.config.generations = .ok sequence)
    (hne : sequence ≠ []) (hc : schedule.InCallbacks)
    (hevent : (r.run schedule).events[i]? = some (.status status))
    (hearly : ∀ drawing, .presented drawing ∉ (r.run schedule).events.take i)
    (hcalls : (r.replies schedule)[i]? = some calls) (hstop : .stop ∈ calls) :
    if i = 2 * r.config.questions table ∧ status = .calculating then
      0 < i ∧ (r.run schedule).result = some (.ok (.finished picture.stats)) ∧
        (r.run schedule).drawings = [picture.drawing]
    else
      (r.run schedule).result = some (.ok .stopped) ∧
        (r.run schedule).events.getLast? = some (.status .stopped) ∧
        (r.run schedule).drawings = [] := by
  have hpos : 0 < r.config.questions table := by
    have := List.length_pos_iff.2 hne
    rw [Config.questions_eq hexpand hplain]
    omega
  unfold replies at hcalls
  rcases run_heeds hp hplain hc with ⟨s, hs, hrun⟩ | ⟨s, k, hk, hs, hrun⟩
  · have hevents : (r.run schedule).events
        = s.events.toList ++ [.presented picture.drawing, .status .finished] := by
      rw [hrun]
      simp only [record, Session.events_report, Session.events_tell, List.append_assoc]
      rfl
    rw [hevents] at hevent hearly hcalls
    obtain ⟨rfl, rfl⟩ := hs.late rfl hevent (hearly picture.drawing) hcalls hstop
    rw [if_pos ⟨rfl, rfl⟩]
    refine ⟨by omega, by rw [hrun]; rfl, ?_⟩
    unfold Run.drawings
    rw [hevents, hs.events, List.filterMap_append, drawings_progress]
    rfl
  · cases hstuck : s.stuck with
    | true =>
      -- nobody ends the pause, so no stop was asked for
      rw [hrun, hstuck, if_pos rfl] at hcalls
      exact absurd hstop (hs.unstopped hstuck calls (List.mem_of_getElem? hcalls))
    | false =>
      have hrun' : r.run schedule
          = r.record (s.report schedule .stopped) (some (.ok .stopped)) := by
        rw [hrun, hstuck]
        rfl
      have hevents : (r.run schedule).events = s.events.toList ++ [.status .stopped] := by
        rw [hrun']
        exact Session.events_report schedule .stopped s
      rw [hevents] at hevent
      rw [if_neg, hevents]
      · refine ⟨by rw [hrun']; rfl, List.getLast?_concat, ?_⟩
        unfold Run.drawings
        rw [hevents, drawings_append_status, hs.drawings]
      · rintro ⟨rfl, rfl⟩
        exact hs.no_look (by omega) hevent

/-- A run that is paused in the first callback and stopped in the next ends without a drawing. -/
theorem stopped_when_paused :
    letI := Scalar.quarterTurns
    let r : Renderer ℚ := Renderer.ofConfig Config.initial
    let schedule : Schedule ℚ := .inTurn [[.pause], [.stop]]
    (r.run schedule).events[1]? = some (.status .paused) ∧
      (r.replies schedule)[1]? = some [.stop] ∧
      (r.run schedule).result = some (.ok .stopped) ∧
      (r.run schedule).events.getLast? = some (.status .stopped) ∧
      (r.run schedule).drawings = [] := by
  let _ := Scalar.quarterTurns
  intro r schedule
  have hp : r.config.prepare = .ok (RuleTable.empty.insert 5 [.letter 5]) := by decide +kernel
  have hok : (r.config.undisturbedPicture (RuleTable.empty.insert 5 [.letter 5])).isOk := by
    decide +kernel
  have hexpand : expandWithin (RuleTable.empty.insert 5 [.letter 5]) r.config.maxSymbols
      r.config.startSequence.toList r.config.generations = .ok ['F'] := by decide +kernel
  have hevent : (r.run schedule).events[1]? = some (.status .paused) := by decide +kernel
  have hearly : (r.run schedule).events.take 1 = [.status .calculating] := by decide +kernel
  have hcalls : (r.replies schedule)[1]? = some [.stop] := by decide +kernel
  cases hplain : r.config.undisturbedPicture (RuleTable.empty.insert 5 [.letter 5]) with
  | error failure =>
    rw [hplain] at hok
    cases hok
  | ok picture =>
    have h := r.stop_in_callback schedule hp hplain hexpand (List.cons_ne_nil _ _)
      (Schedule.inTurn_inCallbacks _) hevent (by rw [hearly]; simp) hcalls
      (List.mem_singleton.2 rfl)
    rw [if_neg fun hi => by cases hi.2] at h
    exact ⟨hevent, hcalls, h⟩

/-- A run of two questions that is paused and resumed in both, and stopped as it is told that the
second pause is over, finishes and presents its drawing. -/
theorem stop_after_last_question :
    letI := Scalar.quarterTurns
    let r : Renderer ℚ := Renderer.ofConfig Config.initial
    let table := RuleTable.empty.insert 5 [.letter 5]
    let schedule : Schedule ℚ := .inTurn [[.pause], [.resume], [.pause], [.resume], [.stop]]
    r.config.prepare = .ok table ∧ (r.config.undisturbedPicture table).isOk ∧
      expandWithin table r.config.maxSymbols r.config.startSequence.toList r.config.generations
        = .ok ['F'] ∧
      schedule.InCallbacks ∧
      (r.run schedule).events.map Event.status?
        = [some .calculating, some .paused, some .calculating, some .paused, some .calculating,
            none, some .finished] ∧
      r.replies schedule = [[.pause], [.resume], [.pause], [.resume], [.stop], [], []] ∧
      (r.run schedule).result ≠ some (.ok .stopped) ∧
      (r.run schedule).drawings.length = 1 := by
  let _ := Scalar.quarterTurns
  intro r table schedule
  refine ⟨?_, ?_, ?_, Schedule.inTurn_inCallbacks _, ?_, ?_, ?_, ?_⟩
  all_goals decide +kernel

end Renderer

end Lindenmayer
