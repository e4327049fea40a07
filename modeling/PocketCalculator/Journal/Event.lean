import PocketCalculator.EvaluationError
import PocketCalculator.Program.Conversion
import PocketCalculator.Text.Quoted

/-!
# PocketCalculator — journal events

What the calculator reports about its own work, how much each report matters, and
how it is worded. Values inside the reports are written in constructor form, such
as `Number("2")`, and texts are quoted.
-/

namespace PocketCalculator.Journal

-- ---------------------------------------------------------------------------
-- Levels
-- ---------------------------------------------------------------------------

/-- How much an event matters, the most important first. -/
inductive Level where
  | error
  | warn
  | info
  | debug
  | trace
  deriving DecidableEq

namespace Level

def rank : Level → Nat
  | error => 0
  | warn => 1
  | info => 2
  | debug => 3
  | trace => 4

def name : Level → String
  | error => "ERROR"
  | warn => "WARN"
  | info => "INFO"
  | debug => "DEBUG"
  | trace => "TRACE"

end Level

-- ---------------------------------------------------------------------------
-- Constructor form
-- ---------------------------------------------------------------------------

def operatorForm : Operator → String
  | .add => "Add"
  | .subtract => "Subtract"
  | .multiply => "Multiply"
  | .divide => "Divide"

def functionForm : NamedFunction → String
  | .sin => "Sin"
  | .cos => "Cos"
  | .tan => "Tan"
  | .sqrt => "Sqrt"
  | .log => "Log"

/-- The constructor form of a token. -/
def tokenForm : Token → String
  | .number text => "Number(" ++ Text.quoted '"' text ++ ")"
  | .operator op => "Operator(" ++ operatorForm op ++ ")"
  | .leftParen => "LeftParen"
  | .rightParen => "RightParen"
  | .function f => "Function(" ++ functionForm f ++ ")"

def waitingForm : Waiting → String
  | .operator op => "Operator(" ++ operatorForm op ++ ")"
  | .function f => "Function(" ++ functionForm f ++ ")"
  | .leftParen => "LeftParen"
  | .groupNegation => "GroupNegation"
  | .negation => "Negation"

def listForm (items : List String) : String :=
  "[" ++ ", ".intercalate items ++ "]"

/-- A stack, its bottom first. -/
def stackForm {α : Type} (form : α → String) (stack : List α) : String :=
  listForm (stack.reverse.map form)

/-- The constructor form of what the operands left in the end amount to. -/
def resultForm : List Float → String
  | [v] => "Ok(" ++ messageLayout.text v ++ ")"
  | operands =>
    "Err(UnbalancedStack \x7b remaining: " ++ toString operands.length ++ " \x7d)"

-- ---------------------------------------------------------------------------
-- Events
-- ---------------------------------------------------------------------------

/-- Something worth a report. -/
inductive Event where
  | evaluating (source : String)
  /-- A token was read between two byte offsets. -/
  | tokenRead (token : Token) (first last : Nat)
  /-- The whole expression was read as so many tokens. -/
  | tokenized (source : String) (count : Nat)
  /-- A token is about to be converted. -/
  | converting (token : Token) (stack : List Waiting)
  | unmatchedParen
  /-- At the end of the expression a `(` has no `)`. -/
  | unclosedParen
  | converted (program : Program)
  | executed (token : Token) (operands : List Float)
  | finished (operands : List Float)
  /-- A digit key that shows no digit was pressed. -/
  | ignoredDigit (c : Char)
  /-- The text typed on the keypad has no value. -/
  | evaluationFailed (input : String) (error : EvaluationError)
  /-- The display changed because of an evaluation. -/
  | displayShows (text : String)

namespace Event

def level : Event → Level
  | unmatchedParen | unclosedParen | ignoredDigit _ => .warn
  | evaluationFailed _ _ => .info
  | evaluating _ | tokenized _ _ | converted _ | finished _ | displayShows _ => .debug
  | tokenRead _ _ _ | converting _ _ | executed _ _ => .trace

def message : Event → String
  | evaluating source => "evaluating " ++ Text.quoted '"' source
  | tokenRead token first last =>
    "token " ++ tokenForm token ++ " at " ++ toString first ++ ".." ++ toString last
  | tokenized source count =>
    "tokenized " ++ Text.quoted '"' source ++ " into " ++ toString count ++ " tokens"
  | converting token stack =>
    "postfix: " ++ token.text ++ " with stack " ++ stackForm waitingForm stack
  | unmatchedParen => "unmatched ')' in expression, ignoring it"
  | unclosedParen => "unclosed '(' in expression, closing at end of input"
  | converted program => "postfix order: " ++ " ".intercalate (program.map Token.text)
  | executed token operands =>
    "after " ++ token.text ++ ": " ++ stackForm messageLayout.text operands
  | finished operands => "postfix evaluation finished with " ++ resultForm operands
  | ignoredDigit c => "ignoring digit key with non-digit " ++ Text.quoted '\'' c.toString
  | evaluationFailed input error =>
    "evaluation of " ++ Text.quoted '"' input ++ " failed: " ++ error.message
  | displayShows text => "display now shows " ++ Text.quoted '"' text

/-- The line that reports an event. -/
def line (e : Event) : String :=
  "keycalc : " ++ e.level.name ++ " : " ++ e.message ++ "\n"

end Event

/-- The lines that report the events of a level or of a more important one. -/
def report (limit : Level) (events : List Event) : String :=
  .join ((events.filter fun e => e.level.rank ≤ limit.rank).map Event.line)

end PocketCalculator.Journal
