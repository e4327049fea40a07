import PocketCalculator.CommandLine.Lines
import PocketCalculator.CommandLine.Options
import PocketCalculator.Journal.Keypad

/-!
# PocketCalculator — runs of the command

What a run of the command writes and the status it ends with.

Given an expression, the run evaluates it and fails if it has no value. Otherwise
it evaluates every line of its input that is not blank, and an expression without
a value is only one of its answers; a line that is not text ends the run.
-/

namespace PocketCalculator.CommandLine

/-- What a run writes and its exit status. -/
structure Outcome where
  stdout : String
  stderr : String
  status : UInt8
  deriving DecidableEq

namespace Options

def settings (o : Options) : Settings :=
  ⟨o.strict⟩

/-- The least important level that is reported. -/
def level (o : Options) : Journal.Level :=
  match o.verbosity with
  | 0 => .error
  | 1 => .warn
  | 2 => .info
  | 3 => .debug
  | _ => .trace

end Options

/-- The text that a keypad answers with: the latest error, or else the display. -/
def keypadAnswer (k : Keypad) : Except EvaluationError String :=
  match k.latest with
  | some (.error e) => .error e
  | _ => .ok k.display

/-- The answer to one expression, or to the labels of keys pressed on a new keypad. -/
def answer (o : Options) (source : String) : Except EvaluationError String :=
  if o.keys then
    match (Keypad.new o.settings).pressWords source with
    | (_, .error e) => .error e
    | (k, .ok _) => keypadAnswer k
  else (evaluate o.settings source).map displayText

/-- The events behind the answer. -/
def events (o : Options) (source : String) : List Journal.Event :=
  if o.keys then Journal.labelEvents (.new o.settings) (Text.words source)
  else Journal.evaluationEvents source

def reports (o : Options) (source : String) : String :=
  Journal.report o.level (events o source)

def errorLine (e : EvaluationError) : String :=
  errorText ++ ": " ++ e.message ++ "\n"

def answerLine : Except EvaluationError String → String
  | .ok text => text ++ "\n"
  | .error e => errorLine e

def runOnce (o : Options) (source : String) : Outcome :=
  match answer o source with
  | .ok text => ⟨text ++ "\n", reports o source, 0⟩
  | .error e => ⟨"", reports o source ++ errorLine e, 1⟩

/-- A run for lines of input. -/
def runLines (o : Options) : List (List UInt8) → Outcome
  | [] => ⟨"", "", 0⟩
  | line :: rest =>
    match decode? line with
    -- the lines behind this one are not answered
    | none => ⟨"", "Failed to read from stdin.\n", 1⟩
    | some source =>
      let others := runLines o rest
      if Text.isAllWhiteSpace source then others
      else
        ⟨answerLine (answer o source) ++ others.stdout, reports o source ++ others.stderr,
          others.status⟩

/-- A run for options and an input. -/
def run (o : Options) (input : ByteArray) : Outcome :=
  match o.expression with
  | some source => runOnce o source
  | none => runLines o (lines input.toList)

end PocketCalculator.CommandLine
