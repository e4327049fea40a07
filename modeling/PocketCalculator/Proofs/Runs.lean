import Mathlib.Data.List.Forall2
import PocketCalculator.Proofs.Answers
import PocketCalculator.Proofs.Lines

/-!
# PocketCalculator — runs for lines of input

A run that reads its input answers every line as a run for this line alone does, and
prints the answers one after the other. Blank lines are passed over; a line that is not
text ends the run, but what was printed before it stays printed. Without `-v` no run
reports anything else.

* `CommandLine.reports_of_quiet` — nothing is reported without `-v`.
* `CommandLine.Options.ofArguments_append` — an expression added to the arguments.
* `CommandLine.runLines_of_quiet` — what a run for lines writes.
* `CommandLine.run_lines` — a run for lines, told by the runs for single lines.
-/

namespace PocketCalculator

-- ---------------------------------------------------------------------------
-- Reports
-- ---------------------------------------------------------------------------

/-- No event is an error. -/
theorem Journal.Event.rank_level_pos (e : Event) : 0 < e.level.rank := by
  cases e <;> exact Nat.succ_pos _

/-- At the level of errors nothing is reported. -/
theorem Journal.report_error (events : List Event) : report .error events = "" := by
  have hNone : (events.filter fun e => decide (e.level.rank ≤ Level.error.rank)) = [] := by
    rw [List.filter_eq_nil_iff]
    intro e _ hLevel
    exact Nat.not_le_of_lt e.rank_level_pos (of_decide_eq_true hLevel)
  rw [report, hNone]
  rfl

namespace CommandLine

variable {o : Options}

/-- Without `-v` the level is that of errors, so nothing is reported. -/
theorem reports_of_quiet (hQuiet : o.verbosity = 0) (source : String) : reports o source = "" := by
  rw [reports, Options.level, hQuiet]
  exact Journal.report_error _

/-- A run for one expression prints its answer alone, on the side that its status tells; on
the side of errors the answer is an error in words. -/
theorem runOnce_of_quiet (hQuiet : o.verbosity = 0) (source : String) :
    runOnce o source = ⟨answerLine (answer o source), "", 0⟩ ∨
      ∃ e, answer o source = .error e ∧
        answerLine (answer o source) = "Error: " ++ e.message ++ "\n" ∧
        runOnce o source = ⟨"", answerLine (answer o source), 1⟩ := by
  rw [runOnce, reports_of_quiet hQuiet]
  cases answer o source with
  | ok text => exact Or.inl rfl
  | error e =>
    refine Or.inr ⟨e, rfl, rfl, ?_⟩
    simp only [answerLine, String.empty_append]

-- ---------------------------------------------------------------------------
-- Arguments
-- ---------------------------------------------------------------------------

/-- An expression may be added behind `--` to arguments that have none. -/
theorem Options.addAll_append {o' : Options} {arguments : List String}
    (h : o.addAll arguments = some o') (hSeparator : "--" ∉ arguments)
    (hExpression : o'.expression = none) (source : String) :
    o.addAll (arguments ++ ["--", source]) = some { o' with expression := some source } := by
  -- the added ones are read in the state that the others leave, in which there is no expression
  -- yet
  induction arguments generalizing o with
  | nil =>
    rw [addAll, Option.some.injEq] at h
    subst h
    rw [List.nil_append, addAll, if_pos rfl, List.foldlM_cons, addExpression,
      if_pos hExpression]
    rfl
  | cons argument arguments ih =>
    obtain ⟨hFirst, hRest⟩ := List.ne_and_not_mem_of_not_mem_cons hSeparator
    rw [addAll, if_neg (Ne.symm hFirst)] at h
    rw [List.cons_append, addAll, if_neg (Ne.symm hFirst)]
    cases hAdded : o.addArgument argument with
    | none =>
      rw [hAdded] at h
      cases h
    | some added =>
      rw [hAdded] at h
      exact ih h hRest

/-- The same from the beginning of the arguments. -/
theorem Options.ofArguments_append {arguments : List String}
    (h : ofArguments arguments = some o) (hSeparator : "--" ∉ arguments)
    (hExpression : o.expression = none) (source : String) :
    ofArguments (arguments ++ ["--", source]) = some { o with expression := some source } :=
  addAll_append h hSeparator hExpression source

/-- Whether a run for one expression behind `--` prints a text and nothing else: as its
output if it succeeds; as its error if it fails, and then the text is `Error: ` with the
message of the error that the expression has instead of an answer. -/
def PrintsAlone (arguments : List String) (source text : String) : Prop :=
  ∃ o, Options.ofArguments (arguments ++ ["--", source]) = some o ∧
    ∀ input, run o input = ⟨text, "", 0⟩ ∨
      ∃ e, answer o source = .error e ∧ text = "Error: " ++ e.message ++ "\n" ∧
        run o input = ⟨"", text, 1⟩

/-- Without `-v` a run for one expression prints its answer alone. -/
theorem printsAlone {arguments : List String} (hOptions : Options.ofArguments arguments = some o)
    (hSeparator : "--" ∉ arguments) (hExpression : o.expression = none)
    (hQuiet : o.verbosity = 0) (source : String) :
    PrintsAlone arguments source (answerLine (answer o source)) := by
  refine ⟨_, Options.ofArguments_append hOptions hSeparator hExpression source, fun input => ?_⟩
  exact runOnce_of_quiet (o := { o with expression := some source }) hQuiet source

-- ---------------------------------------------------------------------------
-- Lines
-- ---------------------------------------------------------------------------

/-- Whether the bytes of a line are a text. -/
def isText (line : List UInt8) : Bool :=
  (decode? line).isSome

/-- The texts that a run for lines answers: those of the lines in front of the first that is
not a text, without the blank ones. -/
def answeredTexts (ls : List (List UInt8)) : List String :=
  ((ls.takeWhile isText).filterMap decode?).filter fun text => !Text.isAllWhiteSpace text

/-- A line that is no text ends what is answered. -/
theorem answeredTexts_cons_of_none {line : List UInt8} (h : decode? line = none)
    (ls : List (List UInt8)) : answeredTexts (line :: ls) = [] := by
  rw [answeredTexts, List.takeWhile_cons_of_neg (by simp [isText, h])]
  rfl

/-- A line that is a text is answered unless it is blank. -/
theorem answeredTexts_cons_of_some {line : List UInt8} {text : String}
    (h : decode? line = some text) (ls : List (List UInt8)) :
    answeredTexts (line :: ls) =
      if Text.isAllWhiteSpace text then answeredTexts ls else text :: answeredTexts ls := by
  rw [answeredTexts, List.takeWhile_cons_of_pos (by simp [isText, h]),
    List.filterMap_cons_some h, List.filter_cons]
  cases Text.isAllWhiteSpace text <;> rfl

/-- What is written to the error output when a line is not a text. -/
def readFailure : String :=
  "Failed to read from stdin.\n"

theorem runLines_cons_of_none {line : List UInt8} (h : decode? line = none)
    (ls : List (List UInt8)) : runLines o (line :: ls) = ⟨"", readFailure, 1⟩ := by
  rw [runLines, h]
  rfl

/-- A line that is a text prints its answer in front of what the others print. -/
theorem runLines_cons_of_some (hQuiet : o.verbosity = 0) {line : List UInt8} {text : String}
    (h : decode? line = some text) (ls : List (List UInt8)) :
    runLines o (line :: ls) =
      if Text.isAllWhiteSpace text then runLines o ls
      else ⟨answerLine (answer o text) ++ (runLines o ls).stdout, (runLines o ls).stderr,
        (runLines o ls).status⟩ := by
  rw [runLines, h]
  simp only [reports_of_quiet hQuiet, String.empty_append]

/-- Without `-v` a run for lines writes the answers to its texts, one after the other, and tells
by its error output and its status whether all lines were texts. -/
theorem runLines_of_quiet (hQuiet : o.verbosity = 0) (ls : List (List UInt8)) :
    runLines o ls =
      ⟨.join ((answeredTexts ls).map fun source => answerLine (answer o source)),
        if ls.all isText then "" else readFailure, if ls.all isText then 0 else 1⟩ := by
  -- by the lines: each decides what it prints, and the rest is a run of its own
  induction ls with
  | nil => rfl
  | cons line ls ih =>
    rw [List.all_cons]
    cases hLine : decode? line with
    | none =>
      have hText : isText line = false := by
        rw [isText, hLine]
        rfl
      rw [runLines_cons_of_none hLine, answeredTexts_cons_of_none hLine, hText]
      rfl
    | some text =>
      have hText : isText line = true := by
        rw [isText, hLine]
        rfl
      rw [runLines_cons_of_some hQuiet hLine, answeredTexts_cons_of_some hLine, hText,
        Bool.true_and, ih]
      split
      · rfl
      · rw [List.map_cons, String.join_cons]

/-- Whether a text is one line: it ends with a line feed and has no other. -/
def IsLine (text : String) : Prop :=
  ∃ body, SingleLine body ∧ text = body ++ "\n"

theorem isLine_answerLine (o : Options) (source : String) : IsLine (answerLine (answer o source)) :=
  ⟨_, singleLine_answer o source, answerLine_eq _⟩

/-- **Lines.** Given no expression and no `-v`, a run answers the lines of its input: it
prints one line for every line that is not blank, the one that a run for this line alone
prints. It succeeds if all lines are texts; otherwise the lines in front of the first that
is none are answered, and the run fails. -/
theorem run_lines {arguments : List String} (hOptions : Options.ofArguments arguments = some o)
    (hSeparator : "--" ∉ arguments) (hExpression : o.expression = none)
    (hQuiet : o.verbosity = 0) (input : ByteArray) :
    ∃ (ls : List (List UInt8)) (printed : List String),
      (∀ ls', Divided input.toList ls' ↔ ls' = ls) ∧
      List.Forall₂ (PrintsAlone arguments) (answeredTexts ls) printed ∧
      (∀ line ∈ printed, IsLine line) ∧
      run o input =
        ⟨.join printed, if ls.all isText then "" else "Failed to read from stdin.\n",
          if ls.all isText then 0 else 1⟩ := by
  refine ⟨lines input.toList,
    (answeredTexts (lines input.toList)).map fun source => answerLine (answer o source),
    divided_iff input.toList, ?_, ?_, ?_⟩
  · -- each answer is what a run for its source alone prints
    rw [List.forall₂_map_right_iff, List.forall₂_same]
    intro source _
    exact printsAlone hOptions hSeparator hExpression hQuiet source
  · intro line hLine
    obtain ⟨source, -, rfl⟩ := List.mem_map.mp hLine
    exact isLine_answerLine o source
  · rw [run, hExpression]
    exact runLines_of_quiet hQuiet _

/-- Labels on two lines with a blank one between them, then a byte that no text has. -/
theorem run_lines_labels :
    Options.ofArguments ["-ks"] = some { keys := true, strict := true } ∧
    ∃ (ls : List (List UInt8)) (printed : List String),
      (∀ ls', Divided ("1 / 0 =\n \n2 % 3\r\n".toUTF8 ++ ⟨#[255]⟩).toList ls' ↔ ls' = ls) ∧
      List.Forall₂ (PrintsAlone ["-ks"]) (answeredTexts ls) printed ∧
      (∀ line ∈ printed, IsLine line) ∧
      run { keys := true, strict := true } ("1 / 0 =\n \n2 % 3\r\n".toUTF8 ++ ⟨#[255]⟩) =
        ⟨.join printed, if ls.all isText then "" else "Failed to read from stdin.\n",
          if ls.all isText then 0 else 1⟩ :=
  ⟨by decide, run_lines (by decide) (by decide) rfl rfl _⟩

end CommandLine

end PocketCalculator
