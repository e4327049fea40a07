import PocketCalculator.Expression

/-!
# PocketCalculator — the grammar of complete expressions

Which token lists are complete expressions, and the tree that each one stands for.

A *group* is a sum, or a `-` and a sum, which negates the whole sum. Sums and
products associate to the left. A factor may carry signs, each of which negates
that factor alone; but the first factor of a group without a leading `-` carries
none, since a `-` there would be the leading one. An *atom* is a number, a group
in parentheses, or a function of such a group.
-/

namespace PocketCalculator

/-- The kinds of phrases. The opening ones begin a group without a leading `-`. -/
inductive PhraseKind where
  | group
  | openingSum
  | openingProduct
  | sum
  | product
  | factor
  | atom
  deriving DecidableEq

/-- The tokens that spell a phrase of a kind, and the tree that the phrase stands for. -/
inductive Phrase : PhraseKind → List Token → Expression → Prop where
  | number (text : String) : Phrase .atom [.number text] (.number text)
  | parens {ts e} (inner : Phrase .group ts e) :
      Phrase .atom (.leftParen :: ts ++ [.rightParen]) e
  | call (f : NamedFunction) {ts e} (argument : Phrase .group ts e) :
      Phrase .atom (.function f :: .leftParen :: ts ++ [.rightParen]) (.call f e)
  | unsigned {ts e} (atom : Phrase .atom ts e) : Phrase .factor ts e
  | signed {ts e} (factor : Phrase .factor ts e) :
      Phrase .factor (.operator .subtract :: ts) e.negation
  | oneFactor {ts e} (factor : Phrase .factor ts e) : Phrase .product ts e
  | times {ts us l r} (op : Operator) (tight : op = .multiply ∨ op = .divide)
      (left : Phrase .product ts l) (right : Phrase .factor us r) :
      Phrase .product (ts ++ .operator op :: us) (.binary op l r)
  | oneProduct {ts e} (product : Phrase .product ts e) : Phrase .sum ts e
  | plus {ts us l r} (op : Operator) (loose : op = .add ∨ op = .subtract)
      (left : Phrase .sum ts l) (right : Phrase .product us r) :
      Phrase .sum (ts ++ .operator op :: us) (.binary op l r)
  | openingAtom {ts e} (atom : Phrase .atom ts e) : Phrase .openingProduct ts e
  | openingTimes {ts us l r} (op : Operator) (tight : op = .multiply ∨ op = .divide)
      (left : Phrase .openingProduct ts l) (right : Phrase .factor us r) :
      Phrase .openingProduct (ts ++ .operator op :: us) (.binary op l r)
  | openingOne {ts e} (product : Phrase .openingProduct ts e) : Phrase .openingSum ts e
  | openingPlus {ts us l r} (op : Operator) (loose : op = .add ∨ op = .subtract)
      (left : Phrase .openingSum ts l) (right : Phrase .product us r) :
      Phrase .openingSum (ts ++ .operator op :: us) (.binary op l r)
  | plainGroup {ts e} (sum : Phrase .openingSum ts e) : Phrase .group ts e
  | negatedGroup {ts e} (sum : Phrase .sum ts e) :
      Phrase .group (.operator .subtract :: ts) e.negation

end PocketCalculator
