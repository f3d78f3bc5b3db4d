import Lindenmayer.Proofs.Geometry.Exact
import Lindenmayer.Proofs.Render.Course

set_option autoImplicit false

/-! # Separating commas

A starting sequence may be written with commas between its symbols, and nothing comes of them. The
letters that get themselves as bodies are found in what is left without the commas, and so is
everything that is expanded. The one thing that tells two ways to set commas apart is the place of a
stray character, as it is counted in the sequence as written (`startProblem?_unplaced`). So a
configuration can be given any starting sequence that is its own without commas, and its runs are
the same (`Renderer.run_sameSymbols`, `Renderer.separators_invisible`). -/

namespace Lindenmayer

/-! ## Problems without their places -/

/-- A problem, with the place of a stray character forgotten. -/
def GrammarProblem.unplaced : GrammarProblem → GrammarProblem
  | strayCharacter _ found => strayCharacter 0 found
  | problem => problem

def GrammarProblems.unplaced (problems : GrammarProblems) : GrammarProblems where
  list := problems.list.map GrammarProblem.unplaced
  ne_nil := by simpa using problems.ne_nil

def Rejection.unplaced {α : Type} : Rejection α → Rejection α
  | config problem => config problem
  | grammar problems => grammar problems.unplaced

def RunError.unplaced {α : Type} : RunError α → RunError α
  | rejected rejection => rejected rejection.unplaced
  | failed failure => failed failure

/-- Only in a grammar is there anything to forget. -/
theorem Rejection.eq_of_unplaced {α : Type} {rejection rejection' : Rejection α}
    (h : rejection.unplaced = rejection'.unplaced)
    (hconfig : ∀ problems, rejection ≠ .grammar problems) : rejection = rejection' := by
  cases rejection with
  | grammar problems => exact absurd rfl (hconfig problems)
  | config problem =>
    cases rejection' with
    | grammar problems => cases h
    | config problem' =>
      cases h
      rfl

theorem GrammarProblems.map_unplaced_ofList? (list : List GrammarProblem) :
    (ofList? list).map unplaced = ofList? (list.map GrammarProblem.unplaced) := by
  unfold ofList?
  by_cases h : list = []
  · simp [h]
  · simp [h, unplaced]

section MapError

variable {ε ε' τ : Type} {f : ε → ε'} {x : Except ε τ}

theorem mapError_eq_ok_iff {value : τ} : x.mapError f = .ok value ↔ x = .ok value := by
  cases x <;> simp [Except.mapError]

theorem mapError_eq_error_iff {error : ε'} :
    x.mapError f = .error error ↔ ∃ e, x = .error e ∧ f e = error := by
  cases x <;> simp [Except.mapError]

end MapError

/-! ## What is read of a starting sequence -/

/-- A stray character is found without the commas just as well, but not its place. -/
theorem startProblem?_unplaced (start : List Char) :
    (startProblem? start).map GrammarProblem.unplaced
      = ((stripCommas start).find? fun c => !isStartSymbol c).map (.strayCharacter 0) := by
  have hstripped : (stripCommas start).find? (fun c => !isStartSymbol c)
      = start.find? fun c => !isStartSymbol c := by
    rw [stripCommas, List.find?_filter]
    congr 1
    funext c
    by_cases hc : c = ','
    · subst hc
      decide
    · simp [hc]
  have hplaced : start.find? (fun c => !isStartSymbol c)
      = (start.zipIdx.find? fun p => !isStartSymbol p.1).map Prod.fst := by
    conv_lhs => rw [← List.zipIdx_map_fst 0 start, List.find?_map]
    rfl
  rw [hstripped, hplaced, startProblem?, Option.map_map, Option.map_map]
  rfl

/-- The letters of a sequence are those that are left without the commas. -/
theorem filterMap_ofChar?_stripCommas (start : List Char) :
    (stripCommas start).filterMap Letter.ofChar? = start.filterMap Letter.ofChar? := by
  rw [stripCommas, List.filterMap_filter]
  refine List.filterMap_congr fun c _ => ?_
  by_cases h : c = ','
  · subst h
    decide
  · simp [h]

/-! ## Checks -/

theorem mapError_validate (start rules : List Char) :
    (validate start rules).mapError GrammarProblems.unplaced
      = (GrammarProblems.ofList? ((grammarProblems start rules).map .unplaced)).elim (.ok ())
          .error := by
  rw [← GrammarProblems.map_unplaced_ofList?]
  unfold validate
  cases GrammarProblems.ofList? (grammarProblems start rules) <;> rfl

theorem RuleTable.mapError_parse (start rules : List Char) :
    (parse start rules).mapError GrammarProblems.unplaced
      = (validate start rules).mapError GrammarProblems.unplaced >>= fun _ =>
          (build rules start).mapError fun p => (GrammarProblems.single p).unplaced := by
  unfold parse
  cases validate start rules with
  | error problems => rfl
  | ok accepted => cases build rules start <;> rfl

theorem Config.mapError_prepare {α : Type} [Scalar α] (c : Config α) :
    c.prepare.mapError Rejection.unplaced
      = c.problem?.elim
          (((RuleTable.parse c.startSequence.toList c.productionRules.toList).mapError
            GrammarProblems.unplaced).mapError .grammar)
          fun problem => .error (.config problem) := by
  unfold prepare
  cases c.problem? with
  | some problem => rfl
  | none => cases RuleTable.parse c.startSequence.toList c.productionRules.toList <;> rfl

section SameSymbols

variable {σ : Type} {start start' : List Char} (h : stripCommas start = stripCommas start')
include h

/-! ## Grammars -/

theorem grammarProblems_unplaced (rules : List Char) :
    (grammarProblems start rules).map GrammarProblem.unplaced
      = (grammarProblems start' rules).map GrammarProblem.unplaced := by
  simp only [grammarProblems, List.map_append, ← Option.toList_map, startProblem?_unplaced, h]

theorem validate_unplaced (rules : List Char) :
    (validate start rules).mapError GrammarProblems.unplaced
      = (validate start' rules).mapError GrammarProblems.unplaced := by
  rw [mapError_validate, mapError_validate, grammarProblems_unplaced h]

theorem RuleTable.addIdentities_sameSymbols (table : RuleTable) :
    table.addIdentities start = table.addIdentities start' := by
  rw [addIdentities, addIdentities, ← filterMap_ofChar?_stripCommas start,
    ← filterMap_ofChar?_stripCommas start', h]

theorem RuleTable.build_sameSymbols (rules : List Char) :
    build rules start = build rules start' := by
  simp only [build, addIdentities_sameSymbols h]

theorem RuleTable.parse_unplaced (rules : List Char) :
    (parse start rules).mapError GrammarProblems.unplaced
      = (parse start' rules).mapError GrammarProblems.unplaced := by
  rw [mapError_parse, mapError_parse, validate_unplaced h, build_sameSymbols h]

/-! ## Generations -/

theorem expand_sameSymbols (table : RuleTable) (n : Nat) :
    expand start table n = expand start' table n := by
  rw [expand, expand, h]

theorem expandWatched_sameSymbols (check : Checkpoint σ) (table : RuleTable) (limit n : Nat) :
    expandWatched check table limit start n = expandWatched check table limit start' n := by
  unfold expandWatched
  rw [h]

theorem expandWithin_sameSymbols (table : RuleTable) (limit n : Nat) :
    expandWithin table limit start n = expandWithin table limit start' n := by
  rw [expandWithin, expandWithin, expandWatched_sameSymbols h]

end SameSymbols

/-! ## Configurations -/

variable {α : Type} [Scalar α]

/-- The configuration with another starting sequence. -/
def Config.withStart (c : Config α) (start : String) : Config α :=
  { c with startSequence := start }

section SameSymbols

variable {σ : Type} {c : Config α} {start : String}
  (h : stripCommas c.startSequence.toList = stripCommas start.toList)
include h

theorem Config.prepare_unplaced :
    c.prepare.mapError Rejection.unplaced
      = (c.withStart start).prepare.mapError Rejection.unplaced := by
  rw [mapError_prepare, mapError_prepare, RuleTable.parse_unplaced h]
  rfl

theorem Config.picture_sameSymbols (table : RuleTable) (check : Checkpoint σ) :
    c.picture table check = (c.withStart start).picture table check := by
  unfold picture
  rw [expandWatched_sameSymbols h]
  rfl

end SameSymbols

/-! ## Runs -/

namespace Renderer

omit [Scalar α] in
/-- A run begins with nothing but the flags of its control. -/
theorem session_congr {r r' : Renderer α} (h : r.flags = r'.flags) (schedule : Schedule α) :
    r.session schedule = r'.session schedule := by
  unfold session
  rw [h]
  rfl

/-- A run shows nothing of its inputs but their picture. -/
theorem run_congr (r r' : Renderer α) (schedule : Schedule α) {table : RuleTable}
    (hp : r.config.prepare = .ok table) (hp' : r'.config.prepare = .ok table)
    (hpicture : r.config.picture table (Session.checkpoint schedule)
      = r'.config.picture table (Session.checkpoint schedule))
    (hflags : r.flags = r'.flags) :
    r'.run schedule
      = { r.run schedule with
          renderer := { (r.run schedule).renderer with config := r'.config } } := by
  unfold run
  simp only [hp, hp', hpicture, session_congr hflags]
  rcases r'.config.picture table (Session.checkpoint schedule) (r'.session schedule) with
    ⟨ending, s⟩
  cases ending with
  | complete picture => rfl
  | failed failure => rfl
  | interrupted =>
    simp only
    cases s.stuck <;> rfl

section SameSymbols

variable {c : Config α} {start : String}
  (h : stripCommas c.startSequence.toList = stripCommas start.toList)
include h

/-- Runs with the same symbols to start from are the same but for the place of a stray character in
the grammar, if it is turned away. -/
theorem run_sameSymbols (flags : Flags) (status status' : Status) (schedule : Schedule α) :
    let run := (⟨c, flags, status⟩ : Renderer α).run schedule
    let run' := (⟨c.withStart start, flags, status'⟩ : Renderer α).run schedule
    (run.events = run'.events ∧ run.calls = run'.calls ∧
        run.renderer.flags = run'.renderer.flags) ∧
      run.result.map (Except.mapError RunError.unplaced)
        = run'.result.map (Except.mapError RunError.unplaced) ∧
      ((∀ problems, run.result ≠ some (.error (.rejected (.grammar problems)))) →
        run.result = run'.result) := by
  intro run run'
  have hprepare := Config.prepare_unplaced h
  cases hp : c.prepare with
  | ok table =>
    rw [hp] at hprepare
    have hp' := mapError_eq_ok_iff.1 hprepare.symm
    have hrun : run' = _ := run_congr ⟨c, flags, status⟩ ⟨c.withStart start, flags, status'⟩
      schedule hp hp' (Config.picture_sameSymbols h table _) rfl
    rw [hrun]
    exact ⟨⟨rfl, rfl, rfl⟩, rfl, fun _ => rfl⟩
  | error rejection =>
    rw [hp] at hprepare
    obtain ⟨rejection', hp', hunplaced⟩ := mapError_eq_error_iff.1 hprepare.symm
    have hrun : run = _ := run_rejected _ schedule hp
    have hrun' : run' = _ := run_rejected _ schedule hp'
    rw [hrun, hrun']
    refine ⟨⟨rfl, rfl, rfl⟩, ?_, fun hgrammar => ?_⟩
    · exact congrArg (fun rejection => some (Except.error (RunError.rejected rejection)))
        hunplaced.symm
    · rw [Rejection.eq_of_unplaced hunplaced.symm fun problems hgrammar' =>
        hgrammar problems (by rw [hgrammar'])]

end SameSymbols

/-- **Separating commas are invisible.** Take two starting sequences that are the same without their
commas. A grammar is accepted with both of them or with neither, and what is wrong with it is the
same but for the place of a stray character; its tables are equal, and so is every generation,
whatever the limit and the checkpoint are. Two renderers whose inputs differ in nothing else, with
equal flags and under the same schedule, have runs that tell the same events, present the same
drawings and come to the same result; if the grammar is turned away, again but for the place of a
stray character. -/
theorem separators_invisible (c : Config α) {start : String}
    (h : stripCommas c.startSequence.toList = stripCommas start.toList) (flags : Flags)
    (status status' : Status) (schedule : Schedule α) :
    let written := c.startSequence.toList
    let written' := start.toList
    let run := (⟨c, flags, status⟩ : Renderer α).run schedule
    let run' := (⟨c.withStart start, flags, status'⟩ : Renderer α).run schedule
    (∀ rules, (validate written rules = .ok () ↔ validate written' rules = .ok ()) ∧
        (validate written rules).mapError GrammarProblems.unplaced
          = (validate written' rules).mapError GrammarProblems.unplaced ∧
        RuleTable.build rules written = RuleTable.build rules written') ∧
      (∀ table n, expand written table n = expand written' table n ∧
        ∀ limit, expandWithin table limit written n = expandWithin table limit written' n ∧
          ∀ {σ : Type} (check : Checkpoint σ),
            expandWatched check table limit written n
              = expandWatched check table limit written' n) ∧
      (run.events = run'.events ∧ run.drawings = run'.drawings ∧ run.calls = run'.calls ∧
        run.renderer.flags = run'.renderer.flags ∧
        run.result.map (Except.mapError RunError.unplaced)
          = run'.result.map (Except.mapError RunError.unplaced)) ∧
      ((∀ problems, run.result ≠ some (.error (.rejected (.grammar problems)))) →
        run.result = run'.result) := by
  intro written written' run run'
  refine ⟨fun rules => ⟨?_, validate_unplaced h rules, RuleTable.build_sameSymbols h rules⟩,
    fun table n => ⟨expand_sameSymbols h table n, fun limit =>
      ⟨expandWithin_sameSymbols h table limit n, fun check =>
        expandWatched_sameSymbols h check table limit n⟩⟩, ?_⟩
  · have hvalid := validate_unplaced h rules
    rw [← mapError_eq_ok_iff (f := GrammarProblems.unplaced), hvalid, mapError_eq_ok_iff]
  · obtain ⟨⟨hevents, hcalls, hflags⟩, hresult, hexact⟩ :=
      run_sameSymbols h flags status status' schedule
    exact ⟨⟨hevents, congrArg (List.filterMap Event.drawing?) hevents, hcalls, hflags, hresult⟩,
      hexact⟩

/-- `F,F` and `,FF` are the same symbols. Their runs pause, are released, and finish with the same
two corners. -/
theorem two_corners_of_moved_comma :
    let _ := Scalar.quarterTurns
    let c : Config ℚ :=
      { Config.initial with
        startSequence := "F,F", productionRules := "(F,F+F)", generations := 1 }
    let schedule : Schedule ℚ :=
      { Schedule.quiet with
        before := fun n => if n = 1 then [.pause] else []
        waiting := fun _ => [[.resume]] }
    let run := (⟨c, {}, .idle⟩ : Renderer ℚ).run schedule
    let run' := (⟨c.withStart ",FF", {}, .stopped⟩ : Renderer ℚ).run schedule
    stripCommas "F,F".toList = stripCommas ",FF".toList ∧ run.events.length = 5 ∧
      run.result = some (.ok (.finished
        ⟨6, 4, 1540, ⟨⟨⟨0, -10⟩, ⟨20, 0⟩⟩, ⟨77 / 2, 77 / 2⟩, ⟨15, 400⟩⟩⟩)) ∧
      run.events = run'.events ∧ run.drawings = run'.drawings ∧ run.result = run'.result := by
  intro _ c schedule run run'
  have hstrip : stripCommas "F,F".toList = stripCommas ",FF".toList := by decide +kernel
  have hevents : run.events.length = 5 := by decide +kernel
  have hresult : run.result = some (.ok (.finished
      ⟨6, 4, 1540, ⟨⟨⟨0, -10⟩, ⟨20, 0⟩⟩, ⟨77 / 2, 77 / 2⟩, ⟨15, 400⟩⟩⟩)) := by decide +kernel
  obtain ⟨-, -, ⟨hsame, hdrawings, -⟩, hexact⟩ :=
    separators_invisible c hstrip {} .idle .stopped schedule
  refine ⟨hstrip, hevents, hresult, hsame, hdrawings, hexact fun problems hgrammar => ?_⟩
  cases hresult.symm.trans hgrammar

-- what is forgotten of a stray character does depend on the commas
example : grammarProblems "F,f".toList [] ≠ grammarProblems "Ff".toList [] := by decide +kernel

end Renderer

end Lindenmayer
