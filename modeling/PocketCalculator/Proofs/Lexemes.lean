import Mathlib.Data.List.SplitBy
import PocketCalculator.Lexeme

/-!
# PocketCalculator — lexemes of joined texts

Where no lexeme crosses the seam of two texts, the lexemes of both together are those
of the one and then those of the other, and so are the tokens.

* `Lexeme.tokens_split_unknown`, `Lexeme.exists_unknown_of_tokens` — the first unknown lexeme
  is reported, and nothing else.
* `readTokens_minus` — a `-` in front of a text.
* `readTokens_enclosed` — parentheses around a text enclose its tokens.
-/

namespace PocketCalculator

namespace Lexeme

/-- Texts can be read apart where no lexeme crosses the seam. -/
theorem split_append {as bs : List Char}
    (h : ∀ a ∈ as.getLast?, ∀ b ∈ bs.head?, joins a b = false) :
    split (as ++ bs) = split as ++ split bs :=
  List.splitBy_append h

/-- A character that joins with none is a lexeme of its own. -/
theorem split_replicate {c : Char} (h : ∀ d, joins c d = false) (n : Nat) :
    split (List.replicate n c) = List.replicate n [c] := by
  induction n with
  | zero => rfl
  | succ n ih =>
    have hSeam : ∀ a ∈ [c].getLast?, ∀ b ∈ (List.replicate n c).head?, joins a b = false := by
      intro a ha b _
      rw [← Option.some.inj ha]
      exact h b
    rw [List.replicate_succ, ← List.singleton_append, split_append hSeam, ih]
    rfl

/-- Lexemes are read one after the other, up to the first that is unknown. -/
theorem tokens_append (ws vs : List Lexeme) :
    tokens (ws ++ vs) = (tokens ws).bind fun ts => (tokens vs).map (ts ++ ·) := by
  induction ws with
  | nil =>
    cases hvs : tokens vs with
    | ok ts => simp [tokens, hvs, Except.bind, Except.map]
    | error e => simp [tokens, hvs, Except.bind, Except.map]
  | cons w ws ih =>
    rw [List.cons_append, tokens, tokens]
    cases w.read with
    | blank => exact ih
    | unknown => rfl
    | token t =>
      simp only [ih]
      cases tokens ws with
      | error e => rfl
      | ok ts => cases tokens vs <;> rfl

/-- Equal lexemes give equal tokens. -/
theorem tokens_replicate {w : Lexeme} {t : Token} (h : w.read = .token t) (n : Nat) :
    tokens (List.replicate n w) = .ok (List.replicate n t) := by
  induction n with
  | zero => rfl
  | succ n ih =>
    rw [List.replicate_succ, tokens, h]
    simp only [ih]
    rfl

theorem joins_leftParen (c : Char) : joins '(' c = false := by
  rfl

theorem joins_rightParen (c : Char) : joins ')' c = false := by
  rfl

/-- Whether two neighbours belong to one lexeme does not depend on their order. -/
theorem joins_comm (a b : Char) : joins a b = joins b a := by
  rw [joins, joins, Bool.and_comm (isNumeral a), Bool.and_comm a.isAlpha]

/-- An unknown lexeme is reported if everything in front of it is read, whatever stands behind
it. -/
theorem tokens_split_unknown {front rest : List Char} {w : Lexeme} {ts : List Token}
    (hRun : w.IsChain fun a b => joins a b = true) (hUnknown : read w = .unknown)
    (hFront : tokens (split front) = .ok ts)
    (hBefore : ∀ a ∈ front.getLast?, ∀ b ∈ w.head?, joins a b = false)
    (hBehind : ∀ a ∈ w.getLast?, ∀ b ∈ rest.head?, joins a b = false) :
    tokens (split (front ++ (w ++ rest))) = .error (.unknownSymbol (.ofList w)) := by
  have hSome : w ≠ [] := by
    rintro rfl
    cases hUnknown
  have hSeam : ∀ a ∈ front.getLast?, ∀ b ∈ (w ++ rest).head?, joins a b = false := by
    rwa [List.head?_append_of_ne_nil _ hSome]
  -- the characters of the lexeme join each other and nothing on either side
  have hSplit : split w = [w] := List.splitBy_of_isChain hSome hRun
  rw [split_append hSeam, tokens_append, hFront, split_append hBehind, hSplit]
  show (tokens (w :: split rest)).map (ts ++ ·) = _
  rw [tokens, hUnknown]
  rfl

/-- What reading reports is the first unknown lexeme. -/
theorem exists_unknown_of_tokens {ws : List Lexeme} {e : EvaluationError}
    (h : tokens ws = .error e) :
    ∃ (front : List Lexeme) (w : Lexeme) (rest : List Lexeme) (ts : List Token),
      ws = front ++ w :: rest ∧ tokens front = .ok ts ∧ w.read = .unknown ∧
        e = .unknownSymbol (.ofList w) := by
  induction ws with
  | nil => cases h
  | cons v ws ih =>
    -- the first lexeme is skipped, read or reported, and only then do the others matter
    rw [tokens] at h
    cases hRead : v.read with
    | blank =>
      rw [hRead] at h
      obtain ⟨front, w, rest, ts, rfl, hTokens, hUnknown⟩ := ih h
      exact ⟨v :: front, w, rest, ts, rfl, by rw [tokens, hRead]; exact hTokens, hUnknown⟩
    | token t =>
      rw [hRead] at h
      cases hRest : tokens ws with
      | ok ts =>
        rw [hRest] at h
        cases h
      | error e' =>
        rw [hRest] at h
        cases h
        obtain ⟨front, w, rest, ts, rfl, hTokens, hUnknown⟩ := ih hRest
        exact ⟨v :: front, w, rest, t :: ts, rfl, by rw [tokens, hRead, hTokens]; rfl, hUnknown⟩
    | unknown =>
      rw [hRead] at h
      exact ⟨[], v, ws, [], rfl, rfl, hRead, (Except.error.inj h).symm⟩

end Lexeme

/-- A `-` in front of a text is read as such, whatever the text is. -/
theorem readTokens_minus (source : String) :
    readTokens ("-" ++ source) = (readTokens source).map (.operator .subtract :: ·) := by
  have hSeam : ∀ a ∈ ['-'].getLast?, ∀ b ∈ source.toList.head?, Lexeme.joins a b = false := by
    intro a ha b _
    rw [← Option.some.inj ha]
    rfl
  have hText : ("-" ++ source).toList = ['-'] ++ source.toList := String.toList_append
  rw [readTokens, readTokens, hText, Lexeme.split_append hSeam]
  rfl

/-- Parentheses in front of a text and behind it are read as such, whatever the text is. -/
theorem readTokens_enclosed (source : String) (m n : Nat) :
    readTokens (String.ofList (List.replicate m '(') ++ source ++
        String.ofList (List.replicate n ')')) =
      (readTokens source).map fun ts =>
        List.replicate m .leftParen ++ ts ++ List.replicate n .rightParen := by
  -- no character joins with a parenthesis, so there is a seam on both sides of the text
  have hFront : ∀ a ∈ (List.replicate m '(').getLast?, ∀ b ∈ source.toList.head?,
      Lexeme.joins a b = false := by
    intro a ha b _
    rw [List.eq_of_mem_replicate (List.mem_of_getLast? ha)]
    exact Lexeme.joins_leftParen b
  have hBack : ∀ a ∈ (List.replicate m '(' ++ source.toList).getLast?,
      ∀ b ∈ (List.replicate n ')').head?, Lexeme.joins a b = false := by
    intro a _ b hb
    rw [List.eq_of_mem_replicate (List.mem_of_head? hb), Lexeme.joins_comm]
    exact Lexeme.joins_rightParen a
  rw [readTokens, readTokens, String.toList_append, String.toList_append,
    String.toList_ofList, String.toList_ofList, Lexeme.split_append hBack,
    Lexeme.split_append hFront, Lexeme.split_replicate Lexeme.joins_leftParen,
    Lexeme.split_replicate Lexeme.joins_rightParen, Lexeme.tokens_append, Lexeme.tokens_append,
    Lexeme.tokens_replicate (t := .leftParen) rfl,
    Lexeme.tokens_replicate (t := .rightParen) rfl]
  cases Lexeme.tokens (Lexeme.split source.toList) <;> rfl

end PocketCalculator
