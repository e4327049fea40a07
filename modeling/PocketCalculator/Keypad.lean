import PocketCalculator.Display
import PocketCalculator.Evaluation
import PocketCalculator.Key
import PocketCalculator.Text.WhiteSpace

/-!
# PocketCalculator — the keypad

A keypad holds the text typed so far and what its display shows. Keys add to the
text; `=` evaluates the text, shows the result and starts a new text; a result is
not carried over into the next expression.
-/

namespace PocketCalculator

/-- The keypad and its display. -/
structure Keypad where
  settings : Settings
  /-- The expression typed so far. -/
  input : String
  display : String
  /-- What the latest `=` gave, if there was one since the last clearing. -/
  latest : Option (Except EvaluationError Float)

namespace Keypad

/-- A keypad on which nothing was pressed. -/
def new (settings : Settings) : Keypad :=
  ⟨settings, "", "", none⟩

/-- Replaces the text typed so far and shows it. -/
def retype (k : Keypad) (text : String) : Keypad :=
  { k with input := text, display := text }

/-- What the display shows for the outcome of an evaluation. -/
def outcomeText : Except EvaluationError Float → String
  | .ok v => displayText v
  | .error _ => errorText

def evaluateInput (k : Keypad) : Keypad :=
  let outcome := evaluate k.settings k.input
  { k with input := "", display := outcomeText outcome, latest := some outcome }

/-- The keypad after a key is pressed. A digit key that shows no digit does nothing. -/
def press (k : Keypad) : Key → Keypad
  | .digit c => if c.isDigit then k.retype (k.input.push c) else k
  | .dot => k.retype (k.input.push '.')
  | .operator op => k.retype (k.input.push op.symbol)
  | .leftParen => k.retype (k.input.push '(')
  | .rightParen => k.retype (k.input.push ')')
  | .function f => k.retype (k.input ++ f.name ++ "(")
  | .negate => k.retype ("(-" ++ k.input ++ ")")
  | .clear => new k.settings
  | .equals => k.evaluateInput

def pressAll (k : Keypad) (keys : List Key) : Keypad :=
  keys.foldl press k

/-- Presses the keys that labels name, up to the first label that names none. -/
def pressEach (k : Keypad) : List String → Keypad × Except EvaluationError String
  | [] => (k, .ok k.display)
  | label :: rest =>
    match Key.ofLabel? label with
    | some key => (k.press key).pressEach rest
    | none => (k, .error (.unknownSymbol label))

/-- Presses the keys that the words of a text name, and gives the display or the first
word that names no key. -/
def pressWords (k : Keypad) (text : String) : Keypad × Except EvaluationError String :=
  k.pressEach (Text.words text)

end Keypad

end PocketCalculator
