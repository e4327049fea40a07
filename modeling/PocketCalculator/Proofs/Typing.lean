import PocketCalculator.Keypad
import PocketCalculator.Proofs.Failures
import PocketCalculator.Proofs.Spelling

/-!
# PocketCalculator — typed texts

Whatever keys are pressed in whatever order, the text on the keypad can be read. It
consists of *strokes*: digits and points, signs, and names of functions with their `(`.
Strokes are read without blanks between them; digits and points that follow each other make
up one number, and no two names can meet, since each brings its `(`.

* `Typed.spells` — tokens as keys type them are spelled by their texts alone.
* `exists_typed_of_strokes` — strokes make up such tokens.
* `Keypad.Legible.press` — each key keeps the text legible.
* `Keypad.pressAll_legible` — every keypad, after any keys.
-/

namespace PocketCalculator

-- ---------------------------------------------------------------------------
-- Tokens as keys type them
-- ---------------------------------------------------------------------------

/-- Tokens that need no blanks between them and whose functions all have their `(`. -/
inductive Typed : List Token → Prop
  | nil : Typed []
  | number {text ts} (spelled : (Token.number text).WellSpelled)
      (apart : ∀ t ∈ ts.head?, t.isNumber = false) (rest : Typed ts) :
      Typed (.number text :: ts)
  | operator (op : Operator) {ts} (rest : Typed ts) : Typed (.operator op :: ts)
  | leftParen {ts} (rest : Typed ts) : Typed (.leftParen :: ts)
  | rightParen {ts} (rest : Typed ts) : Typed (.rightParen :: ts)
  | call (f : NamedFunction) {ts} (rest : Typed ts) : Typed (.function f :: .leftParen :: ts)

namespace Typed

/-- Every typed token is spelled as its kind is. -/
theorem wellSpelled {ts : List Token} (h : Typed ts) : ∀ t ∈ ts, t.WellSpelled := by
  induction h with
  | nil => simp
  | number spelled _ _ ih => exact List.forall_mem_cons.mpr ⟨spelled, ih⟩
  | operator _ _ ih | leftParen _ ih | rightParen _ ih =>
    exact List.forall_mem_cons.mpr ⟨trivial, ih⟩
  | call _ _ ih =>
    exact List.forall_mem_cons.mpr ⟨trivial, List.forall_mem_cons.mpr ⟨trivial, ih⟩⟩

/-- No two tokens would run together. -/
theorem isChain_fuses {ts : List Token} (h : Typed ts) :
    ts.IsChain fun t u => t.fuses u = false := by
  induction h with
  | nil => exact List.isChain_nil
  | number _ apart _ ih =>
    refine List.isChain_cons.mpr ⟨?_, ih⟩
    intro t ht
    rw [Token.fuses, apart t ht]
    rfl
  | operator _ _ ih | leftParen _ ih | rightParen _ ih =>
    exact List.isChain_cons.mpr ⟨fun _ _ => rfl, ih⟩
  | call _ _ ih =>
    exact List.isChain_cons_cons.mpr ⟨rfl, List.isChain_cons.mpr ⟨fun _ _ => rfl, ih⟩⟩

/-- Typed tokens are spelled by their texts, with no blanks before, between or behind them. -/
theorem spells {ts : List Token} (h : Typed ts) : Spells (Token.texts ts).toList ts := by
  refine ⟨[], ts.map fun t => (t, []), by simp, ?_, ?_, ?_, ?_⟩
  · intro p hp
    obtain ⟨t, ht, rfl⟩ := List.mem_map.mp hp
    exact ⟨h.wellSpelled t ht, by simp⟩
  · -- where no two tokens run together no blank is needed
    rw [List.isChain_map]
    refine h.isChain_fuses.imp ?_
    intro t u hApart hFuses
    rw [hApart] at hFuses
    cases hFuses
  · rw [List.map_map]
    exact List.map_id ts
  · rw [Token.toList_texts, spaced, List.flatMap_map, List.nil_append]
    simp only [List.append_nil]

/-- Every function is followed by its `(`. -/
theorem head?_of_function {ts : List Token} (h : Typed ts) {p q : List Token}
    {f : NamedFunction} (hSplit : ts = p ++ .function f :: q) : q.head? = some .leftParen := by
  -- by the way the tokens are typed: a function comes with its `(`, and no other token is a
  -- function
  induction h generalizing p with
  | nil => simp at hSplit
  | number _ _ _ ih | operator _ _ ih | leftParen _ ih | rightParen _ ih =>
    cases p with
    | nil => simp at hSplit
    | cons t p => exact ih (List.cons.inj hSplit).2
  | call g rest ih =>
    match p, hSplit with
    | [], hSplit =>
      simp only [List.nil_append, List.cons.injEq] at hSplit
      rw [← hSplit.2]
      rfl
    | [t], hSplit => simp at hSplit
    | t :: u :: p, hSplit => exact ih (List.cons.inj (List.cons.inj hSplit).2).2

end Typed

-- ---------------------------------------------------------------------------
-- Strokes
-- ---------------------------------------------------------------------------

/-- The pieces of which keys make up a text. -/
inductive Stroke : List Char → Prop
  | numeral {c : Char} (h : isNumeral c = true) : Stroke [c]
  | operator (op : Operator) : Stroke [op.symbol]
  | leftParen : Stroke ['(']
  | rightParen : Stroke [')']
  | call (f : NamedFunction) : Stroke (f.name.toList ++ ['('])

/-- A digit or a point adds to the number that it is typed in front of, or is a number. -/
theorem Typed.exists_numeral {ts : List Token} (h : Typed ts) {c : Char}
    (hc : isNumeral c = true) :
    ∃ us, Typed us ∧ (Token.texts us).toList = c :: (Token.texts ts).toList := by
  -- in front of anything but a number the character is a number of its own
  have hAlone : (∀ t ∈ ts.head?, t.isNumber = false) →
      ∃ us, Typed us ∧ (Token.texts us).toList = c :: (Token.texts ts).toList := by
    intro hApart
    refine ⟨.number (.singleton c) :: ts, .number ⟨by simp, by simpa using hc⟩ hApart h, ?_⟩
    simp [Token.toList_texts, Token.text]
  cases h with
  | number spelled apart rest =>
    rename_i text ts
    refine ⟨.number (.ofList (c :: text.toList)) :: ts, .number ⟨by simp, ?_⟩ apart rest, ?_⟩
    · rw [String.toList_ofList]
      exact List.forall_mem_cons.mpr ⟨hc, spelled.2⟩
    · simp [Token.toList_texts, Token.text]
  | nil => exact hAlone (by simp)
  | operator | leftParen | rightParen | call => exact hAlone (by simp [Token.isNumber])

/-- Strokes make up tokens that are spelled by them. -/
theorem exists_typed_of_strokes {strokes : List (List Char)} (h : ∀ w ∈ strokes, Stroke w) :
    ∃ ts, Typed ts ∧ (Token.texts ts).toList = strokes.flatten := by
  -- from the end of the text, since a stroke can only add to the token behind it
  induction strokes with
  | nil => exact ⟨[], .nil, rfl⟩
  | cons w strokes ih =>
    obtain ⟨ts, hTyped, hTexts⟩ := ih fun v hv => h v (List.mem_cons_of_mem w hv)
    rw [List.flatten_cons, ← hTexts]
    cases h w List.mem_cons_self with
    | numeral hc => exact hTyped.exists_numeral hc
    | operator op => exact ⟨_, .operator op hTyped, by simp [Token.toList_texts, Token.text]⟩
    | leftParen => exact ⟨_, .leftParen hTyped, by simp [Token.toList_texts, Token.text]⟩
    | rightParen => exact ⟨_, .rightParen hTyped, by simp [Token.toList_texts, Token.text]⟩
    | call f => exact ⟨_, .call f hTyped, by simp [Token.toList_texts, Token.text]⟩

/-- Whether a text consists of strokes. -/
def IsTyped (text : String) : Prop :=
  ∃ strokes : List (List Char), (∀ w ∈ strokes, Stroke w) ∧ text.toList = strokes.flatten

namespace IsTyped

theorem empty : IsTyped "" :=
  ⟨[], by simp, rfl⟩

theorem of_stroke {text : String} (h : Stroke text.toList) : IsTyped text :=
  ⟨[text.toList], by simpa using h, by simp⟩

/-- Texts of strokes can be put one behind the other. -/
theorem append {a b : String} (ha : IsTyped a) (hb : IsTyped b) : IsTyped (a ++ b) := by
  obtain ⟨ss, hss, hText⟩ := ha
  obtain ⟨rs, hrs, hText'⟩ := hb
  refine ⟨ss ++ rs, ?_, by rw [String.toList_append, hText, hText', List.flatten_append]⟩
  intro w hw
  exact (List.mem_append.mp hw).elim (hss w) (hrs w)

/-- A stroke of one character can be added to a text of strokes. -/
theorem push {a : String} (ha : IsTyped a) {c : Char} (hc : Stroke [c]) :
    IsTyped (a.push c) := by
  rw [String.push_eq_append]
  exact ha.append (of_stroke (by simpa using hc))

/-- A text of strokes is read as the tokens that the strokes make up, whose texts are
the text. -/
theorem exists_tokens {text : String} (h : IsTyped text) :
    ∃ ts, Typed ts ∧ Token.texts ts = text ∧ readTokens text = .ok ts := by
  obtain ⟨strokes, hStrokes, hText⟩ := h
  obtain ⟨ts, hTyped, hTexts⟩ := exists_typed_of_strokes hStrokes
  have hSame : Token.texts ts = text := String.toList_inj.mp (hTexts.trans hText.symm)
  refine ⟨ts, hTyped, hSame, readTokens_of_spells ?_⟩
  rw [← hSame]
  exact hTyped.spells

end IsTyped

namespace Keypad

-- ---------------------------------------------------------------------------
-- Keypads
-- ---------------------------------------------------------------------------

/-- The text typed so far can be read, and so could all texts evaluated before. -/
structure Legible (k : Keypad) : Prop where
  input : IsTyped k.input
  latest : ∀ symbol, k.latest ≠ some (.error (.unknownSymbol symbol))

namespace Legible

theorem new (settings : Settings) : (Keypad.new settings).Legible :=
  ⟨.empty, by simp [Keypad.new]⟩

/-- Typing keeps a keypad legible if the new text consists of strokes. -/
theorem retype {k : Keypad} (h : k.Legible) {text : String} (hText : IsTyped text) :
    (k.retype text).Legible :=
  ⟨hText, h.latest⟩

/-- A text that can be read is evaluated without an unknown symbol, and an empty one follows. -/
theorem evaluateInput {k : Keypad} (h : k.Legible) : k.evaluateInput.Legible := by
  obtain ⟨ts, -, -, hRead⟩ := h.input.exists_tokens
  refine ⟨.empty, ?_⟩
  intro symbol hLatest
  exact evaluate_ne_unknownSymbol hRead symbol (Option.some.inj hLatest)

/-- Every key keeps the text legible, also a digit key that shows no digit. -/
theorem press {k : Keypad} (h : k.Legible) (key : Key) : (k.press key).Legible := by
  cases key with
  | digit c =>
    rw [Keypad.press]
    split
    · rename_i hDigit
      exact h.retype (h.input.push (.numeral (by simp [isNumeral, hDigit])))
    · exact h
  | dot => exact h.retype (h.input.push (.numeral rfl))
  | operator op => exact h.retype (h.input.push (.operator op))
  | leftParen => exact h.retype (h.input.push .leftParen)
  | rightParen => exact h.retype (h.input.push .rightParen)
  | function f =>
    refine h.retype ?_
    rw [String.append_assoc]
    exact h.input.append (.of_stroke (by simpa using Stroke.call f))
  | negate =>
    -- two strokes in front of the text and one behind it
    have hParen : IsTyped "(" := .of_stroke .leftParen
    have hMinus : IsTyped "-" := .of_stroke (.operator .subtract)
    exact h.retype (((hParen.append hMinus).append h.input).append (.of_stroke .rightParen))
  | clear => exact new k.settings
  | equals => exact h.evaluateInput

/-- A keypad stays legible, whatever keys are pressed. -/
theorem pressAll {k : Keypad} (h : k.Legible) (keys : List Key) : (k.pressAll keys).Legible := by
  induction keys generalizing k with
  | nil => exact h
  | cons key keys ih => exact ih (h.press key)

end Legible

/-- **Legibility.** After any keys the text on a keypad can be read, its tokens are written
without blanks, and each function in it has its `(`. So no evaluation finds an unknown
symbol. -/
theorem pressAll_legible (settings : Settings) (keys : List Key) :
    (∃ ts, readTokens ((new settings).pressAll keys).input = .ok ts ∧
      Token.texts ts = ((new settings).pressAll keys).input ∧
      ∀ p f q, ts = p ++ .function f :: q → q.head? = some .leftParen) ∧
    ∀ symbol, ((new settings).pressAll keys).latest ≠ some (.error (.unknownSymbol symbol)) := by
  have hLegible := (Legible.new settings).pressAll keys
  obtain ⟨ts, hTyped, hTexts, hRead⟩ := hLegible.input.exists_tokens
  exact ⟨⟨ts, hRead, hTexts, fun _ _ _ hSplit => hTyped.head?_of_function hSplit⟩,
    hLegible.latest⟩

end Keypad

end PocketCalculator
