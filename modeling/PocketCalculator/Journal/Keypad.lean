import PocketCalculator.Journal.Evaluation
import PocketCalculator.Keypad

/-!
# PocketCalculator — the journal of the keypad

Only `=` is reported, and digit keys that show no digit.
-/

namespace PocketCalculator.Journal

/-- The events of an evaluation of what is typed on a keypad. -/
def equalsEvents (k : Keypad) : List Event :=
  evaluationEvents k.input
    ++ (match evaluate k.settings k.input with
      | .ok _ => []
      | .error e => [.evaluationFailed k.input e])
    ++ [.displayShows k.evaluateInput.display]

/-- The events of a key. -/
def pressEvents (k : Keypad) : Key → List Event
  | .equals => equalsEvents k
  | .digit c => if c.isDigit then [] else [.ignoredDigit c]
  | _ => []

/-- The events of the keys that labels name, up to the first that names none. -/
def labelEvents (k : Keypad) : List String → List Event
  | [] => []
  | label :: rest =>
    match Key.ofLabel? label with
    | some key => pressEvents k key ++ labelEvents (k.press key) rest
    | none => []

end PocketCalculator.Journal
