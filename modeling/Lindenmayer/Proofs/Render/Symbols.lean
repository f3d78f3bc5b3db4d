import Lindenmayer.Proofs.Expansion.Homomorphism
import Lindenmayer.Proofs.Expansion.Oversized
import Lindenmayer.Proofs.Geometry.Exact
import Lindenmayer.Proofs.Grammar.Language
import Lindenmayer.Proofs.Render.Course
import Lindenmayer.Proofs.Turtle.Outcome

set_option autoImplicit false

/-! # Every symbol counts

A grammar that passes the check has only symbols and commas in its starting sequence and only
symbols in its bodies, so every generation is made of symbols (`AllSymbols.expand`). A symbol is one
byte, which is why lengths in bytes count symbols.

The rewriter, the predictor of lengths and the turtle can all read other characters, and make
nothing of them. To say that they are never called upon to, they are made arguments: in
`Readers.picture` a run works with any `Readers`, with its own it makes its own picture
(`Readers.picture_ofTable`), and how others would read a character that is no symbol makes no
difference to the picture (`Readers.Reads.picture`). So nothing is lost on the way from the grammar
to the drawing: there is a stroke for each letter of the last generation, which is what room is to
be made for (`Renderer.every_symbol_counts`). -/

namespace Lindenmayer

variable {σ : Type}

/-! ## Sequences of symbols -/

/-- A sequence is made of symbols. -/
def AllSymbols (sequence : List Char) : Prop := ∀ c ∈ sequence, isBodySymbol c = true

theorem isBodySymbol_iff (c : Char) :
    isBodySymbol c = true ↔ ('A' ≤ c ∧ c ≤ 'Z') ∨ c ∈ ['+', '-', '[', ']'] := by
  rw [← isSome_ofChar?_iff]
  unfold isBodySymbol Symbol.ofChar?
  cases Letter.ofChar? c with
  | some l => simp
  | none =>
    simp only [Option.isSome_none, Bool.false_eq_true, false_or, List.mem_cons, List.not_mem_nil,
      or_false]
    split_ifs <;> simp [*]

/-- What may stand in a starting sequence and is no comma is a symbol. -/
theorem allSymbols_stripCommas {start : List Char} (h : startProblem? start = none) :
    AllSymbols (stripCommas start) := by
  intro c hc
  obtain ⟨hmem, hcomma⟩ := List.mem_filter.1 hc
  have hstart := startProblem?_eq_none_iff.1 h c hmem
  rw [isStartSymbol, Bool.or_eq_true] at hstart
  refine hstart.resolve_right fun heq => ?_
  rw [beq_iff_eq.1 heq] at hcomma
  cases hcomma

theorem expand_succ (start : List Char) (table : RuleTable) (n : Nat) :
    expand start table (n + 1) = nextGeneration table (expand start table n) :=
  generationAfter_add table n 1 (stripCommas start)

/-- A character of a generation is one of the starting sequence or a symbol. -/
theorem mem_expand {start : List Char} {table : RuleTable} {n : Nat} {c : Char}
    (h : c ∈ expand start table n) : c ∈ stripCommas start ∨ isBodySymbol c = true := by
  cases n with
  | zero => exact .inl h
  | succ n =>
    rw [expand_succ] at h
    exact .inr (isBodySymbol_of_mem_nextGeneration h)

/-- **Every generation of a grammar that passes the check is made of symbols.** -/
theorem AllSymbols.expand {start rules : List Char} {table : RuleTable}
    (h : RuleTable.parse start rules = .ok table) (n : Nat) :
    AllSymbols (expand start table n) := by
  have hproblems := (RuleTable.parse_eq_ok h).1
  have hstart := allSymbols_stripCommas (grammarProblems_eq_nil_iff.1 hproblems).1
  exact fun c hc => (mem_expand hc).elim (hstart c) id

/-- Symbols command something. -/
theorem command_ne_ignore {c : Char} (h : isBodySymbol c = true) : Command.ofChar c ≠ .ignore := by
  obtain ⟨s, hs⟩ := Option.isSome_iff_exists.1 h
  unfold Command.ofChar
  rw [hs]
  cases s <;> exact Command.noConfusion

/-! ## Readers as arguments -/

/-- What is made of a character: by the rewriter, by the predictor of lengths and by the turtle. -/
structure Readers where
  successor : Char → List Char
  length : Char → Nat
  command : Char → Command

/-- The readers of a run with a rule table. -/
def Readers.ofTable (table : RuleTable) : Readers :=
  ⟨Lindenmayer.successor table, successorLength table, Command.ofChar⟩

/-- The characters in `P` are read as they should be. Nothing is said of others. -/
structure Readers.Reads (readers : Readers) (table : RuleTable) (P : Char → Prop) : Prop where
  successor : ∀ c, P c → readers.successor c = Lindenmayer.successor table c
  length : ∀ c, P c → readers.length c = successorLength table c
  command : ∀ c, P c → readers.command c = Command.ofChar c

namespace Readers

variable (readers : Readers) (check : Checkpoint σ)

/-- The predicted length of the next generation. -/
def nextLength (sequence : List Char) : Nat :=
  sequence.foldl (fun n c => min maxLength (n + readers.length c)) 0

/-- The next generation, written block by block. -/
def nextGeneration (sequence : List Char) : Watched σ Failure (List Char) :=
  (Watched.ofSweep check (fun written block => .ok (block.flatMap readers.successor :: written))
    (blocks sequence) []).map fun written => written.reverse.flatten

/-- The sequence `n` generations after a sequence, under a limit. -/
def generationAfter (limit : Nat) : Nat → List Char → Watched σ Failure (List Char)
  | 0, sequence => .done sequence
  | n + 1, sequence =>
    (Watched.ask check).andThen fun _ =>
      if limit < readers.nextLength sequence then
        .failed (.outOfMemory (readers.nextLength sequence))
      else (readers.nextGeneration check sequence).andThen (generationAfter limit n)

/-- Generation `n` of a starting sequence, under a limit. -/
def expand (limit : Nat) (start : List Char) (n : Nat) : Watched σ Failure (List Char) :=
  let length := min maxLength (byteLength (stripCommas start))
  if limit < length then .failed (.outOfMemory length)
  else readers.generationAfter check limit n (stripCommas start)

variable {α : Type} [Scalar α]

/-- A walk after one more character. -/
def step (turtle : Turtle α) (mode : Mode) (t : Trail α) (c : Char) : Except Failure (Trail α) :=
  match t.act turtle mode (readers.command c) with
  | some t => .ok { t with read := t.read + 1 }
  | none => .error (.stackUnderflow t.read)

/-- A walk over a sequence. -/
def walk (turtle : Turtle α) (mode : Mode) (sequence : List Char) (pose : Pose α) :
    Watched σ Failure (Trail α) :=
  Watched.ofSweep check (readers.step turtle mode) sequence (Trail.start pose)

/-- The picture of a configuration: expansion, then the two walks. -/
def picture (c : Config α) : Watched σ Failure (Picture α) :=
  (readers.expand check c.maxSymbols c.startSequence.toList c.generations).andThen fun sequence =>
    ((readers.walk check c.turtle .measure sequence Pose.initial).map fun trail =>
        Placement.ofBounds c.frame trail.bounds).andThen fun placement =>
      (readers.walk check (c.fit.scaledTurtle placement) .draw sequence
          (Pose.upAt placement.origin)).andThen fun trail =>
        .done (c.pictureOf sequence placement trail.segments)

end Readers

/-! ## What is read -/

/-- A limited expansion that is not over the limit is the expansion without a limit. -/
theorem generationWithin_eq_ok {table : RuleTable} {limit n : Nat} {sequence result : List Char}
    (h : generationWithin table limit n sequence = .ok result) :
    result = generationAfter table n sequence := by
  induction n generalizing sequence with
  | zero => exact (Except.ok.inj h).symm
  | succ n ih =>
    unfold generationWithin at h
    split at h
    · cases h
    · exact ih h

theorem expandWithin_eq_ok {table : RuleTable} {limit n : Nat} {start result : List Char}
    (h : expandWithin table limit start n = .ok result) : result = expand start table n := by
  rw [expandWithin_eq_ite] at h
  split at h
  · cases h
  · exact generationWithin_eq_ok h

/-- Loops that do the same with all their items are the same. -/
theorem sweep_congr {ε τ ι : Type} (check : Checkpoint σ) {step step' : τ → ι → Except ε τ}
    {items : List ι} (h : ∀ item ∈ items, ∀ value, step value item = step' value item) :
    sweep check step items = sweep check step' items := by
  induction items with
  | nil => rfl
  | cons item items ih =>
    obtain ⟨hitem, hitems⟩ := List.forall_mem_cons.1 h
    funext value s
    simp only [sweep, hitem, ih hitems]

theorem Watched.andThen_congr {ε α β : Type} (work : Watched σ ε α)
    {next next' : α → Watched σ ε β}
    (h : ∀ value s, (work s).1 = .complete value → next value = next' value) :
    work.andThen next = work.andThen next' := by
  funext s
  unfold Watched.andThen
  rcases hw : work s with ⟨outcome, s₁⟩
  rcases outcome with value | _ | error
  · have hnext := h value s (congrArg Prod.fst hw)
    simp only [hnext]
  · rfl
  · rfl

namespace Readers.Reads

variable {readers : Readers} {table : RuleTable} {P : Char → Prop} (h : readers.Reads table P)
  (check : Checkpoint σ)
include h

theorem nextLength {sequence : List Char} (hs : ∀ c ∈ sequence, P c) :
    readers.nextLength sequence = Lindenmayer.nextLength table sequence := by
  refine List.foldl_ext _ _ _ fun n c hc => ?_
  rw [h.length c (hs c hc)]

theorem nextGeneration {sequence : List Char} (hs : ∀ c ∈ sequence, P c) :
    readers.nextGeneration check sequence = nextGenerationWatched check table sequence := by
  rw [nextGenerationWatched_eq_map, Readers.nextGeneration]
  unfold Watched.ofSweep
  rw [sweep_congr check fun block hblock written => ?_]
  -- the characters of a block are characters of the sequence
  have hmem : ∀ c ∈ block, c ∈ sequence := fun c hc => by
    rw [← flatten_blocks sequence]
    exact List.mem_flatten_of_mem hblock hc
  have hsame : block.flatMap readers.successor = Lindenmayer.nextGeneration table block :=
    List.flatMap_congr fun c hc => h.successor c (hs c (hmem c hc))
  rw [hsame]

variable (hP : ∀ c, isBodySymbol c = true → P c)

include hP in
theorem generationAfter (limit n : Nat) {sequence : List Char} (hs : ∀ c ∈ sequence, P c) :
    readers.generationAfter check limit n sequence
      = generationAfterWatched check table limit n sequence := by
  induction n generalizing sequence with
  | zero => rfl
  | succ n ih =>
    rw [generationAfterWatched_succ, Readers.generationAfter, h.nextLength hs,
      h.nextGeneration check hs]
    refine Watched.andThen_congr _ fun _ _ _ => ?_
    refine if_congr Iff.rfl rfl (Watched.andThen_congr _ fun next s hnext => ?_)
    have hcomputes := nextGenerationWatched_computes check.keeps_trivially table sequence
    obtain rfl := Except.ok.inj (hcomputes.eq_ok trivial hnext)
    exact ih fun c hc => hP c (isBodySymbol_of_mem_nextGeneration hc)

include hP in
theorem expand (limit : Nat) {start : List Char} (hs : ∀ c ∈ stripCommas start, P c) (n : Nat) :
    readers.expand check limit start n = expandWatched check table limit start n := by
  by_cases hl : limit < min maxLength (byteLength (stripCommas start))
  · rw [expandWatched_of_lt hl, Readers.expand, if_pos hl]
  · rw [expandWatched_of_not_lt hl, Readers.expand, if_neg hl, h.generationAfter check hP limit n hs]

variable {α : Type} [Scalar α]

theorem walk (turtle : Turtle α) (mode : Mode) {sequence : List Char} (hs : ∀ c ∈ sequence, P c)
    (pose : Pose α) :
    readers.walk check turtle mode sequence pose = turtle.walk mode check sequence pose := by
  have hstep : ∀ c ∈ sequence, ∀ t, readers.step turtle mode t c = Trail.step turtle mode t c := by
    intro c hc t
    rw [Readers.step, h.command c (hs c hc)]
    rfl
  unfold Readers.walk Watched.ofSweep
  rw [sweep_congr check hstep]
  rfl

include hP in
/-- **How a character outside `P` is read makes no difference** to a run that starts with characters
in `P` alone, when all symbols are in `P`. -/
theorem picture {c : Config α} (hs : ∀ d ∈ stripCommas c.startSequence.toList, P d) :
    readers.picture check c = c.picture table check := by
  rw [Readers.picture, h.expand check hP _ hs]
  refine Watched.andThen_congr _ fun sequence s hsequence => ?_
  have hcomputes := expandWatched_computes check.keeps_trivially table c.maxSymbols
    c.startSequence.toList c.generations
  obtain rfl := expandWithin_eq_ok (hcomputes.eq_ok trivial hsequence)
  have hread : ∀ d ∈ Lindenmayer.expand c.startSequence.toList table c.generations, P d :=
    fun d hd => (mem_expand hd).elim (hs d) (hP d)
  rw [h.walk check c.turtle .measure hread]
  refine Watched.andThen_congr _ fun placement s _ => ?_
  rw [h.walk check _ .draw hread]
  rfl

end Readers.Reads

/-- A run is what its own readers make of it. -/
theorem Readers.picture_ofTable {α : Type} [Scalar α] (table : RuleTable) (check : Checkpoint σ)
    (c : Config α) : (Readers.ofTable table).picture check c = c.picture table check := by
  have hreads : (Readers.ofTable table).Reads table fun _ => True :=
    ⟨fun _ _ => rfl, fun _ _ => rfl, fun _ _ => rfl⟩
  exact hreads.picture check (fun _ _ => trivial) fun _ _ => trivial

/-! ## Room for the strokes -/

/-- The number of bytes of a sequence that are capital letters: the number of strokes for which room
is to be made before the drawing walk. A run of `Config.picture` makes no room, since memory is no
part of it; the number is only stated beside what the run draws. -/
def strokesReserved (sequence : List Char) : Nat :=
  (sequence.flatMap String.utf8EncodeChar).countP fun b => 65 ≤ b && b ≤ 90

theorem strokesReserved_symbol (s : Symbol) : strokesReserved [s.toChar] = letters [s.toChar] := by
  cases s with
  | letter l => revert l; decide
  | plus => decide
  | minus => decide
  | openBracket => decide
  | closeBracket => decide

/-- Room is made for a stroke for each letter. -/
theorem strokesReserved_eq {sequence : List Char} (h : AllSymbols sequence) :
    strokesReserved sequence = letters sequence := by
  induction sequence with
  | nil => rfl
  | cons c rest ih =>
    obtain ⟨hc, hrest⟩ := List.forall_mem_cons.1 h
    obtain ⟨s, hs⟩ := Option.isSome_iff_exists.1 hc
    obtain rfl := Symbol.toChar_eq_of_ofChar? hs
    calc strokesReserved (s.toChar :: rest)
        = strokesReserved [s.toChar] + strokesReserved rest := by
          simp only [strokesReserved, List.flatMap_cons, List.flatMap_nil, List.append_nil,
            List.countP_append]
      _ = letters [s.toChar] + letters rest := by rw [strokesReserved_symbol, ih hrest]
      _ = letters (s.toChar :: rest) := (letters_append [s.toChar] rest).symm

/-! ## Runs -/

/-- Generations that follow a sequence within the limit are written if they are within it too. -/
theorem generationWithin_eq_ok_iff {table : RuleTable} {limit n : Nat} {sequence : List Char}
    (hs : min maxLength (byteLength sequence) ≤ limit) :
    generationWithin table limit n sequence = .ok (generationAfter table n sequence) ↔
      ∀ k ≤ n, min maxLength (byteLength (generationAfter table k sequence)) ≤ limit := by
  induction n generalizing sequence with
  | zero => exact ⟨fun _ k hk => by rwa [Nat.le_zero.1 hk], fun _ => rfl⟩
  | succ n ih =>
    have hfirst : (∀ k ≤ n + 1, min maxLength (byteLength (generationAfter table k sequence))
          ≤ limit) ↔ ∀ k ≤ n, min maxLength
            (byteLength (generationAfter table k (nextGeneration table sequence))) ≤ limit := by
      refine ⟨fun h k hk => h (k + 1) (Nat.succ_le_succ hk), fun h k hk => ?_⟩
      cases k with
      | zero => exact hs
      | succ k => exact h k (Nat.le_of_succ_le_succ hk)
    rw [hfirst, generationWithin, nextLength_eq]
    by_cases hl : limit < min maxLength (byteLength (nextGeneration table sequence))
    · rw [if_pos hl]
      exact ⟨nofun, fun h => absurd (h 0 (Nat.zero_le n)) (Nat.not_le.2 hl)⟩
    · rw [if_neg hl]
      exact ih (Nat.le_of_not_lt hl)

/-- The limit on the length in bytes is a limit on the number of symbols. -/
theorem expandWithin_eq_ok_iff {start rules : List Char} {table : RuleTable}
    (h : RuleTable.parse start rules = .ok table) (limit n : Nat) :
    expandWithin table limit start n = .ok (expand start table n) ↔
      ∀ k ≤ n, min maxLength (expand start table k).length ≤ limit := by
  have hbytes : ∀ k, byteLength (expand start table k) = (expand start table k).length :=
    fun k => byteLength_eq_length (AllSymbols.expand h k)
  simp only [← hbytes]
  rw [expandWithin_eq_ite]
  by_cases hl : limit < min maxLength (byteLength (stripCommas start))
  · rw [if_pos hl]
    exact ⟨nofun, fun h => absurd (h 0 (Nat.zero_le n)) (Nat.not_le.2 hl)⟩
  · rw [if_neg hl]
    exact generationWithin_eq_ok_iff (Nat.le_of_not_lt hl)

/-- A finished run has left a stroke for each letter of the last generation. -/
theorem Renderer.strokes_of_finished {α : Type} [Scalar α] {r : Renderer α} {table : RuleTable}
    (hparse : RuleTable.parse r.config.startSequence.toList r.config.productionRules.toList
      = .ok table) {schedule : Schedule α} {stats : Stats α}
    (hr : (r.run schedule).result = some (.ok (.finished stats))) :
    let sequence := expand r.config.startSequence.toList table r.config.generations
    stats.symbols = sequence.length ∧ stats.segments = letters sequence ∧
      ∃ drawing, (r.run schedule).drawings = [drawing] ∧
        drawing.segments.length = letters sequence := by
  intro sequence
  obtain ⟨table', picture, hprepare, hpicture, rfl, hdrawings⟩ :=
    Renderer.exists_picture_of_finished hr
  obtain rfl : table' = table := by
    unfold Config.prepare at hprepare
    rw [hparse] at hprepare
    split at hprepare
    · cases hprepare
    · exact (Except.ok.inj hprepare).symm
  obtain ⟨expanded, placement, segments, hexpand, hrender, rfl⟩ := Config.exists_rendered hpicture
  obtain rfl : expanded = sequence := expandWithin_eq_ok hexpand
  obtain ⟨bounds, trail, -, rfl, hdraw, rfl⟩ := Fit.render_eq_ok hrender
  have hcounts : trail.Counts .draw sequence := by
    rw [Turtle.follow_eq_foldlM] at hdraw
    exact foldlM_reads (Trail.Counts .draw) (fun _ _ _ _ => Trail.Counts.step) sequence
      (Trail.Counts.start .draw _) hdraw
  have hstrokes : trail.segments.length = letters sequence :=
    List.length_reverse.trans (hcounts.strokes rfl)
  exact ⟨byteLength_eq_length (AllSymbols.expand hparse _), hstrokes, _, hdrawings, hstrokes⟩

/-- **A run never drops or ignores a symbol.** When a grammar passes the check, every generation is
made of letters, `+`, `-`, `[` and `]`, all of which command something; lengths in bytes, predicted
lengths and the limit count symbols; with its own rewriter, predictor and turtle as arguments a run
under any checkpoint makes its own picture, and what others would make of other characters makes no
difference to it; and a finished run presents one drawing, with a stroke for each letter of the last
generation, as many as room is to be made for and as are reported. -/
theorem Renderer.every_symbol_counts {start rules : String} {table : RuleTable}
    (hparse : RuleTable.parse start.toList rules.toList = .ok table) :
    (∀ n, let sequence := expand start.toList table n
      (∀ c ∈ sequence, (('A' ≤ c ∧ c ≤ 'Z') ∨ c ∈ ['+', '-', '[', ']']) ∧
        Command.ofChar c ≠ .ignore) ∧
      byteLength sequence = sequence.length ∧
      nextLength table sequence = min maxLength (expand start.toList table (n + 1)).length ∧
      ∀ limit, expandWithin table limit start.toList n = .ok sequence ↔
        ∀ k ≤ n, min maxLength (expand start.toList table k).length ≤ limit) ∧
    ∀ {α : Type} [Scalar α] (r : Renderer α), r.config.startSequence = start →
      r.config.productionRules = rules →
      (∀ {σ : Type} (check : Checkpoint σ),
        (Readers.ofTable table).picture check r.config = r.config.picture table check ∧
        ∀ readers : Readers, readers.Reads table (fun c => isBodySymbol c = true) →
          readers.picture check r.config = r.config.picture table check) ∧
      ∀ schedule stats, (r.run schedule).result = some (.ok (.finished stats)) →
        let sequence := expand start.toList table r.config.generations
        stats.symbols = sequence.length ∧ stats.segments = letters sequence ∧
          strokesReserved sequence = letters sequence ∧
          ∃ drawing, (r.run schedule).drawings = [drawing] ∧
            drawing.segments.length = letters sequence := by
  refine ⟨fun n => ⟨fun c hc => ?_, ?_, ?_, fun limit => ?_⟩, ?_⟩
  · have hsymbol := AllSymbols.expand hparse n c hc
    exact ⟨(isBodySymbol_iff c).1 hsymbol, command_ne_ignore hsymbol⟩
  · exact byteLength_eq_length (AllSymbols.expand hparse n)
  · rw [nextLength_eq, ← expand_succ, byteLength_eq_length (AllSymbols.expand hparse (n + 1))]
  · exact expandWithin_eq_ok_iff hparse limit n
  · rintro α _ r rfl rfl
    refine ⟨fun check => ⟨Readers.picture_ofTable table check r.config, fun readers h => ?_⟩,
      fun schedule stats hr => ?_⟩
    · exact h.picture check (fun _ hc => hc) (AllSymbols.expand hparse 0)
    · obtain ⟨hsymbols, hsegments, hdrawings⟩ := Renderer.strokes_of_finished hparse hr
      exact ⟨hsymbols, hsegments, strokesReserved_eq (AllSymbols.expand hparse _), hdrawings⟩

/-- One generation of a branching grammar: thirteen symbols, six of them letters. Readers that would
take every other character for a move make the same picture, also when it is halted. -/
theorem Renderer.branching_symbols_count :
    let _ := Scalar.quarterTurns
    let config : Config ℚ := { Config.initial with
      startSequence := "F,+F", productionRules := "(F,F[+F]F)", generations := 1 }
    let table := RuleTable.empty.insert 5
      [.letter 5, .openBracket, .plus, .letter 5, .closeBracket, .letter 5]
    let readers : Readers :=
      { successor := fun c => if isBodySymbol c then successor table c else ['F']
        length := fun c => if isBodySymbol c then successorLength table c else 1
        command := fun c => if isBodySymbol c then Command.ofChar c else .forward }
    let run := (Renderer.ofConfig config).run Schedule.quiet
    RuleTable.parse "F,+F".toList "(F,F[+F]F)".toList = .ok table ∧
      expand "F,+F".toList table 1 = "F[+F]F+F[+F]F".toList ∧
      (∃ stats, run.result = some (.ok (.finished stats)) ∧
        stats.symbols = 13 ∧ stats.segments = 6) ∧
      (∃ drawing, run.drawings = [drawing] ∧ drawing.segments.length = 6) ∧
      readers.picture (Checkpoint.budget (some 9)) config
        = config.picture table (Checkpoint.budget (some 9)) := by
  intro _ config table readers run
  have hparse : RuleTable.parse "F,+F".toList "(F,F[+F]F)".toList = .ok table :=
    RuleTable.eq_ok_of_toOption (by decide +kernel)
  have hexpand : expand "F,+F".toList table 1 = "F[+F]F+F[+F]F".toList := by decide +kernel
  have hfinished : run.result = some (.ok (.finished
      ⟨13, 6, 1710, ⟨⟨⟨0, -20⟩, ⟨20, 0⟩⟩, ⟨57 / 2, 57 / 2⟩, ⟨15, 585⟩⟩⟩)) := by
    decide +kernel
  have hreads : readers.Reads table fun c => isBodySymbol c = true :=
    ⟨fun _ hc => if_pos hc, fun _ hc => if_pos hc, fun _ hc => if_pos hc⟩
  obtain ⟨-, hruns⟩ := Renderer.every_symbol_counts hparse
  obtain ⟨hreaders, hstrokes⟩ := hruns (Renderer.ofConfig config) rfl rfl
  obtain ⟨-, -, -, drawing, hdrawings, hlength⟩ := hstrokes Schedule.quiet _ hfinished
  have hletters : letters (expand "F,+F".toList table 1) = 6 := by
    rw [hexpand]
    decide
  exact ⟨hparse, hexpand, ⟨_, hfinished, rfl, rfl⟩, ⟨drawing, hdrawings, hlength.trans hletters⟩,
    (hreaders _).2 readers hreads⟩

end Lindenmayer
