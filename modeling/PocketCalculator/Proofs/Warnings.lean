import PocketCalculator.Journal.Evaluation
import PocketCalculator.Proofs.Partners

/-!
# PocketCalculator — warnings about parentheses

The conversion of an expression warns of every `)` that has no partner, right when it reads
it, and once at the end if some `(` has none. The converter counts no parentheses for this:
it warns when it reads a `)` and no `(` waits on the stack, and when a `(` is left there in
the end. The warnings are exact since the `(` that wait are always those that bracket
matching leaves open.

* `Journal.conversionEvents_after` — the events of the tokens behind those already read.
* `Journal.conversionEvents_warnings` — all events of a conversion, and its warnings.
-/

namespace PocketCalculator

open Brackets (IsUnmatched unmatchedPlaces unclosedPlaces)

-- ---------------------------------------------------------------------------
-- Waiting parentheses
-- ---------------------------------------------------------------------------

/-- A `(` waits on the stack exactly if one is open. -/
theorem Converter.leftParen_mem_after_iff (ts : List Token) :
    .leftParen ∈ (start.after ts).stack ↔ (Brackets.ofTokens ts).opened ≠ 0 := by
  have hOpened : (Brackets.ofTokens ts).opened = (start.after ts).stack.count .leftParen :=
    opened_foldl rfl ts
  rw [hOpened, ne_eq, List.count_eq_zero, not_not]

/-- A `)` finds no `(` on the stack exactly when it has no partner. -/
theorem Converter.isUnmatched_after (p : List Token) (t : Token) (q : List Token) :
    (start.after p).isUnmatched t = true ↔ IsUnmatched (p ++ t :: q) p.length := by
  rw [isUnmatched, decide_eq_true_eq, leftParen_mem_after_iff, ne_eq, not_not,
    Brackets.isUnmatched_iff]
  simp

/-- Only the parentheses of an expression matter for their matching. -/
theorem Brackets.ofTokens_filter_isParenthesis (ts : List Token) :
    ofTokens (ts.filter Token.isParenthesis) = ofTokens ts := by
  rw [ofTokens, ofTokens, List.foldl_filter]
  refine congrArg (fun step => ts.foldl step none) (funext₂ fun b t => ?_)
  cases t <;> rfl

namespace Journal

-- ---------------------------------------------------------------------------
-- Events of a conversion
-- ---------------------------------------------------------------------------

/-- Whether an event is a warning. -/
def isWarning (e : Event) : Bool :=
  decide (e.level = .warn)

/-- The warnings of the conversion of an expression, in their order. -/
def warnings (tokens : List Token) : List Event :=
  (conversionEvents .start tokens).filter isWarning

/-- What is reported of the token at a place: that it is converted, and if it is a `)`
without a partner, a warning of it. -/
def reportAt (ts : List Token) : Token × Nat → List Event
  | (t, j) =>
    .converting t (Converter.start.after (ts.take j)).stack ::
      if IsUnmatched ts j then [.unmatchedParen] else []

/-- What is reported at the end of an expression: a warning if some `(` has no partner. -/
def reportAtEnd (ts : List Token) : List Event :=
  if unclosedPlaces ts = [] then [] else [.unclosedParen]

/-- The warning at the end depends on the count of open `(` only. -/
theorem reportAtEnd_eq (ts : List Token) :
    reportAtEnd ts =
      if (Brackets.ofTokens ts).opened = 0 then [] else [.unclosedParen] := by
  rw [reportAtEnd, ← Brackets.length_unclosedPlaces]
  simp only [List.length_eq_zero_iff]

/-- At the end of the tokens a `(` that waits is reported, and nothing else. -/
theorem conversionEvents_nil (ts : List Token) :
    conversionEvents (Converter.start.after ts) [] = reportAtEnd ts := by
  rw [conversionEvents, reportAtEnd_eq]
  simp only [Converter.leftParen_mem_after_iff, ne_eq, ite_not]

/-- The events of the tokens behind those already read. -/
theorem conversionEvents_after (p q : List Token) :
    conversionEvents (Converter.start.after p) q =
      (q.zipIdx p.length).flatMap (reportAt (p ++ q)) ++ reportAtEnd (p ++ q) := by
  -- by the tokens still to come; those already read grow by one each time
  induction q generalizing p with
  | nil =>
    rw [conversionEvents_nil, List.append_nil, List.zipIdx_nil, List.flatMap_nil,
      List.nil_append]
  | cons t q ih =>
    have hReport : reportAt (p ++ t :: q) (t, p.length) =
        .converting t (Converter.start.after p).stack ::
          if (Converter.start.after p).isUnmatched t then [.unmatchedParen] else [] := by
      rw [reportAt, List.take_left]
      simp only [Converter.isUnmatched_after p t q]
    have hRest := ih (p ++ [t])
    rw [Converter.after_append, List.length_append, List.append_assoc] at hRest
    rw [conversionEvents, List.zipIdx_cons, List.flatMap_cons, hReport, List.append_assoc]
    exact congrArg (_ ++ ·) hRest

-- ---------------------------------------------------------------------------
-- Warnings
-- ---------------------------------------------------------------------------

/-- A token is reported with at most one warning, that of a `)` without a partner. -/
theorem isWarning_reportAt (ts : List Token) (x : Token × Nat) :
    (reportAt ts x).filter isWarning =
      if IsUnmatched ts x.2 then [.unmatchedParen] else [] := by
  rw [reportAt, List.filter_cons_of_neg (by simp [isWarning, Event.level])]
  split <;> rfl

/-- All that is reported at the end is a warning. -/
theorem isWarning_reportAtEnd (ts : List Token) :
    (reportAtEnd ts).filter isWarning = reportAtEnd ts := by
  rw [reportAtEnd]
  split <;> rfl

/-- Putting in one item for each that passes a test gives as many as there are that pass it. -/
theorem flatMap_ite_singleton {α β : Type} (test : α → Prop) [DecidablePred test] (b : β)
    (as : List α) :
    as.flatMap (fun a => if test a then [b] else []) =
      List.replicate (as.filter (test ·)).length b := by
  induction as with
  | nil => rfl
  | cons a as ih =>
    rw [List.flatMap_cons, List.filter_cons, ih]
    by_cases ha : test a
    · rw [if_pos ha, if_pos (decide_eq_true ha)]
      rfl
    · rw [if_neg ha, if_neg (by simpa using ha)]
      rfl

/-- One warning for each `)` without a partner, and one at the end. -/
theorem warnings_eq (ts : List Token) :
    warnings ts =
      List.replicate (unmatchedPlaces ts).length .unmatchedParen ++ reportAtEnd ts := by
  have hEvents : conversionEvents .start ts = ts.zipIdx.flatMap (reportAt ts) ++ reportAtEnd ts :=
    conversionEvents_after [] ts
  rw [warnings, hEvents, List.filter_append, List.filter_flatMap, isWarning_reportAtEnd]
  simp only [isWarning_reportAt]
  -- the places of the report are those that the test of a partner runs over
  rw [unmatchedPlaces, ← flatMap_ite_singleton, List.range_eq_range', ← List.zipIdx_map_snd 0 ts,
    List.flatMap_map]

/-- **Warnings.** The conversion of an expression reports every token, and right behind a `)`
a warning if that `)` has no partner; and at the end a warning if some `(` has none. It gives
no other warnings, and the tokens that are no parentheses do not change them. -/
theorem conversionEvents_warnings (ts : List Token) :
    conversionEvents .start ts =
        ts.zipIdx.flatMap (fun (t, j) =>
            .converting t (Converter.start.after (ts.take j)).stack ::
              if IsUnmatched ts j then [.unmatchedParen] else []) ++
          (if unclosedPlaces ts = [] then [] else [.unclosedParen]) ∧
      warnings ts =
        List.replicate (unmatchedPlaces ts).length .unmatchedParen ++
          (if unclosedPlaces ts = [] then [] else [.unclosedParen]) ∧
      warnings (ts.filter Token.isParenthesis) = warnings ts := by
  refine ⟨conversionEvents_after [] ts, warnings_eq ts, ?_⟩
  -- both warnings depend on the counts of bracket matching, to which only parentheses add
  rw [warnings_eq, warnings_eq, reportAtEnd_eq, reportAtEnd_eq,
    Brackets.length_unmatchedPlaces, Brackets.length_unmatchedPlaces,
    Brackets.ofTokens_filter_isParenthesis]

end Journal

end PocketCalculator
