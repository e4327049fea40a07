import PocketCalculator.Token

/-!
# PocketCalculator — bracket matching

The parentheses of a token list, matched in the ordinary way: every `)` belongs to
the latest `(` that has no `)` yet, if there is one. Only the parentheses count;
all other tokens are passed over.
-/

namespace PocketCalculator

/-- How far the parentheses read so far are matched. -/
structure Brackets where
  /-- The number of `(` that have no `)` yet. -/
  opened : Nat
  /-- The number of `(` that have their `)`. -/
  matched : Nat
  /-- The number of `)` without a `(`. -/
  unmatched : Nat
  deriving DecidableEq

namespace Brackets

def none : Brackets :=
  ⟨0, 0, 0⟩

def read (b : Brackets) : Token → Brackets
  | .leftParen => { b with opened := b.opened + 1 }
  | .rightParen =>
    if b.opened = 0 then { b with unmatched := b.unmatched + 1 }
    else { b with opened := b.opened - 1, matched := b.matched + 1 }
  | _ => b

def ofTokens (tokens : List Token) : Brackets :=
  tokens.foldl read none

/-- Whether every parenthesis of a token list has its partner. -/
def balanced (tokens : List Token) : Bool :=
  decide ((ofTokens tokens).opened = 0 ∧ (ofTokens tokens).unmatched = 0)

/-- Reading a list in two parts continues from what the first part leaves. -/
theorem ofTokens_append (as bs : List Token) :
    ofTokens (as ++ bs) = bs.foldl read (ofTokens as) :=
  List.foldl_append

/-- One token keeps the balance: a `(` opens a pair, and a `)` either closes one or counts
apart. -/
theorem opened_add_matched_read (b : Brackets) (t : Token) :
    (b.read t).opened + (b.read t).matched
      = b.opened + b.matched + [t].count .leftParen := by
  cases t with
  | leftParen =>
    have h : [Token.leftParen].count .leftParen = 1 := rfl
    rw [h]
    exact Nat.add_right_comm b.opened 1 b.matched
  | rightParen =>
    have h : [Token.rightParen].count .leftParen = 0 := rfl
    rw [h, read]
    split
    · rfl
    · -- the closed pair moves from one count to the other
      show b.opened - 1 + (b.matched + 1) = b.opened + b.matched
      omega
  | number text | operator op | function f => rfl

/-- Every `(` that was read is still open or has its `)`. -/
theorem opened_add_matched_foldl (b : Brackets) (tokens : List Token) :
    (tokens.foldl read b).opened + (tokens.foldl read b).matched
      = b.opened + b.matched + tokens.count .leftParen := by
  induction tokens generalizing b with
  | nil => rfl
  -- the count of the whole list splits as the head and the tail do
  | cons t ts ih =>
    rw [List.foldl_cons, ih, opened_add_matched_read, Nat.add_assoc, ← List.count_append]
    rfl

end Brackets

end PocketCalculator
