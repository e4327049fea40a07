/-!
# PocketCalculator — named functions

The five functions of one argument that are written by name. Angles are in
degrees, the logarithm is decimal.

* `NamedFunction.ofName?_eq_some_iff` — a word names a function exactly when it
  is that function's name, letter for letter.
-/

namespace PocketCalculator

/-- A function of one argument that an expression calls by name. -/
inductive NamedFunction where
  | sin
  | cos
  | tan
  | sqrt
  | log
  deriving DecidableEq

namespace NamedFunction

/-- Every function, in the order of its keys. -/
def all : List NamedFunction := [sin, cos, tan, sqrt, log]

def name : NamedFunction → String
  | sin => "sin"
  | cos => "cos"
  | tan => "tan"
  | sqrt => "sqrt"
  | log => "log"

/-- The function that a word names; upper and lower case differ. -/
def ofName? (word : String) : Option NamedFunction :=
  all.find? fun f => f.name = word

theorem ofName?_name (f : NamedFunction) : ofName? f.name = some f := by
  cases f <;> rfl

/-- A word names a function exactly when it is the function's name, letter for letter. -/
theorem ofName?_eq_some_iff {word : String} {f : NamedFunction} :
    ofName? word = some f ↔ word = f.name := by
  refine ⟨fun h => ?_, fun h => h ▸ ofName?_name f⟩
  have hName := List.find?_some h
  exact (of_decide_eq_true hName).symm

/-- Radians in one degree. -/
def radiansPerDegree : Float := 3.141592653589793 / 180.0

/-- What a function computes. Outside its domain the value is not a number or an
infinity, never a failure. -/
def apply : NamedFunction → Float → Float
  | sin, degrees => (degrees * radiansPerDegree).sin
  | cos, degrees => (degrees * radiansPerDegree).cos
  | tan, degrees => (degrees * radiansPerDegree).tan
  | sqrt, x => x.sqrt
  | log, x => x.log10

end NamedFunction

end PocketCalculator
