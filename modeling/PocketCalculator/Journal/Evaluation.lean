import PocketCalculator.Evaluation
import PocketCalculator.Journal.Event

/-!
# PocketCalculator — the journal of an evaluation

The events of an evaluation, in order: those of reading the tokens, of converting
them and of executing the program. Each stage that fails is the last to report.
-/

namespace PocketCalculator.Journal

/-- The events of reading lexemes, the first of which starts at a byte offset. -/
def tokenEvents (offset : Nat) : List Lexeme → List Event
  | [] => []
  | w :: rest =>
    match w.read with
    | .blank => tokenEvents (offset + w.byteCount) rest
    | .token t =>
      .tokenRead t offset (offset + w.byteCount)
        :: tokenEvents (offset + w.byteCount) rest
    | .unknown => []

/-- The events of converting tokens from a state to the end. -/
def conversionEvents (s : Converter) : List Token → List Event
  | [] => if .leftParen ∈ s.stack then [.unclosedParen] else []
  | t :: ts =>
    .converting t s.stack
      :: (if s.isUnmatched t then [.unmatchedParen] else [])
      ++ conversionEvents (s.next t) ts

/-- The events of executing a program on operands. -/
def executionEvents (operands : List Float) : Program → List Event
  | [] => [.finished operands]
  | t :: rest =>
    match Program.step operands t with
    | .ok operands => .executed t operands :: executionEvents operands rest
    | .error _ => []

/-- The events of an evaluation. -/
def evaluationEvents (source : String) : List Event :=
  .evaluating source :: tokenEvents 0 (Lexeme.split source.toList)
    ++ match readTokens source with
      | .error _ => []
      | .ok tokens =>
        let program := Program.ofTokens tokens
        .tokenized source tokens.length :: conversionEvents .start tokens
          ++ .converted program :: executionEvents [] program

end PocketCalculator.Journal
