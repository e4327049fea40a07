import PocketCalculator.Proofs.Displays
import PocketCalculator.Proofs.LabelTexts
import PocketCalculator.Proofs.Malformed

/-!
# PocketCalculator — answers are single lines

Nothing that is answered contains a line feed, whatever was asked. Typed texts and numbers
have none by the characters they are made of, and a message quotes only a piece of the
source that is not blank: a token, an unknown lexeme or a word.

* `EvaluationError.singleLine_message` — a message is a line if what it quotes is.
* `singleLine_quoted_of_evaluate` — what the messages of an evaluation quote.
* `CommandLine.answer_keys_cases` — all that labels can be answered with.
* `CommandLine.singleLine_answer` — every answer is a line.
-/

namespace PocketCalculator

/-- Whether a text has no line feed in it. -/
def SingleLine (text : String) : Prop :=
  '\n' ∉ text.toList

instance (text : String) : Decidable (SingleLine text) :=
  inferInstanceAs (Decidable ('\n' ∉ text.toList))

theorem SingleLine.empty : SingleLine "" := by
  decide

/-- Texts without a line feed have none together. -/
theorem SingleLine.append {a b : String} (ha : SingleLine a) (hb : SingleLine b) :
    SingleLine (a ++ b) := by
  rw [SingleLine, String.toList_append, List.mem_append]
  exact not_or.mpr ⟨ha, hb⟩

/-- A number is written in one line if the marks of its layout are. -/
theorem Number.Layout.singleLine_text {layout : Layout} (h : '\n' ∉ layout.marks) (v : Float) :
    SingleLine (layout.text v) := by
  intro hMem
  rcases isDigit_or_mem_marks hMem with hDigit | hMark
  · cases hDigit
  · exact h hMark

/-- A result is shown in one line. -/
theorem singleLine_displayText (v : Float) : SingleLine (displayText v) :=
  Number.Layout.singleLine_text (by decide) v

theorem singleLine_toString (n : Nat) : SingleLine (toString n) := by
  intro hMem
  cases Number.isDigit_of_mem_toString hMem

-- ---------------------------------------------------------------------------
-- Messages
-- ---------------------------------------------------------------------------

/-- The piece of the source that the message of an error quotes. -/
def EvaluationError.quoted : EvaluationError → String
  | malformedNumber text => text
  | unknownSymbol symbol => symbol
  | missingOperand token => token.text
  | unbalanced _ | nonFinite _ => ""

/-- A message is one line if what it quotes is. -/
theorem EvaluationError.singleLine_message {e : EvaluationError} (h : SingleLine e.quoted) :
    SingleLine e.message := by
  cases e with
  | malformedNumber text | unknownSymbol text | missingOperand text =>
    exact (SingleLine.append (by decide) h).append (by decide)
  | unbalanced remaining =>
    exact (SingleLine.append (by decide) (singleLine_toString remaining)).append (by decide)
  | nonFinite value =>
    exact (SingleLine.append (by decide)
      (Number.Layout.singleLine_text (by decide) value)).append (by decide)

/-- A token that is spelled as its kind is has no line feed in its text. -/
theorem Token.singleLine_text {t : Token} (h : t.WellSpelled) : SingleLine t.text := by
  intro hMem
  cases (classes_of_mem_text h '\n' hMem).2.2

/-- A lexeme with a line feed is this line feed alone, which is a blank. -/
theorem Lexeme.lineFeed_notMem_of_unknown {w : Lexeme}
    (hRun : w.IsChain fun a b => joins a b = true) (h : w.read = .unknown) : '\n' ∉ w := by
  intro hMem
  match w, hRun, h, hMem with
  | c :: cs, hRun, h, hMem =>
    rcases run_cases hRun with hNumerals | hLetters | ⟨-, -, rfl⟩
    · cases hNumerals '\n' hMem
    · cases hLetters '\n' hMem
    · rw [← List.mem_singleton.mp hMem, read_blank rfl] at h
      cases h

/-- What the messages of an evaluation quote is one line. -/
theorem singleLine_quoted_of_evaluate {settings : Settings} {source : String}
    {e : EvaluationError} (h : evaluate settings source = .error e) : SingleLine e.quoted := by
  rcases evaluate_error_cases h with ⟨-, w, hw, hUnknown, rfl⟩ | ⟨ts, hRead, hCases⟩
  · show '\n' ∉ (String.ofList w).toList
    rw [String.toList_ofList]
    exact Lexeme.lineFeed_notMem_of_unknown (List.isChain_of_mem_splitBy hw) hUnknown
  · have hSpelled := Program.wellSpelled_of_mem_ofTokens (wellSpelled_of_readTokens hRead)
    rcases hCases with ⟨text, hText, -, rfl⟩ | ⟨t, ht, rfl⟩ | ⟨_, rfl⟩ | ⟨-, _, rfl⟩
    · exact Token.singleLine_text (hSpelled _ hText)
    · exact Token.singleLine_text (hSpelled t ht)
    · exact SingleLine.empty
    · exact SingleLine.empty

-- ---------------------------------------------------------------------------
-- Keypads
-- ---------------------------------------------------------------------------

/-- Typed texts are one line. -/
theorem IsTyped.singleLine {text : String} (h : IsTyped text) : SingleLine text := by
  obtain ⟨ts, hTyped, rfl, -⟩ := h.exists_tokens
  rw [SingleLine, Token.toList_texts, List.mem_flatMap]
  rintro ⟨t, ht, hMem⟩
  exact Token.singleLine_text (hTyped.wellSpelled t ht) hMem

/-- A keypad shows one line, whatever was pressed. -/
theorem Keypad.singleLine_display (settings : Settings) (keys : List Key) :
    SingleLine ((new settings).pressAll keys).display := by
  -- the text typed so far, or the outcome that is kept
  rw [isShown_pressAll settings keys]
  unfold shown
  split
  · exact ((Legible.new settings).pressAll keys).input.singleLine
  · split
    · exact SingleLine.empty
    · exact singleLine_displayText _
    · decide

-- ---------------------------------------------------------------------------
-- Answers
-- ---------------------------------------------------------------------------

namespace CommandLine

/-- All that labels can be answered with: the first that is unknown, or what the keypad
answers after all of them. -/
theorem answer_keys_cases {o : Options} (hMode : o.keys = true) (text : String) :
    (∃ l ∈ Text.words text, answer o text = .error (.unknownSymbol l)) ∨
      answer o text =
        keypadAnswer ((Keypad.new o.settings).pressAll (keysOf (Text.words text))) := by
  by_cases hValid : ∀ l ∈ Text.words text, (Key.ofLabel? l).isSome = true
  · exact Or.inr (answer_of_keys hMode hValid)
  · obtain ⟨before, l, rest, hWords, hBefore, hUnknown⟩ := Key.exists_first_unknown hValid
    refine Or.inl ⟨l, by simp [hWords], ?_⟩
    rw [answer, if_pos hMode, Keypad.pressWords, hWords,
      Keypad.pressEach_of_unknown hBefore hUnknown]

/-- The line without its line feed that is printed for an answer. -/
def answerText : Except EvaluationError String → String
  | .ok text => text
  | .error e => errorText ++ ": " ++ e.message

theorem answerLine_eq (a : Except EvaluationError String) :
    answerLine a = answerText a ++ "\n" := by
  cases a <;> rfl

/-- An error is one line if what it quotes is. -/
theorem singleLine_answerText_error {e : EvaluationError} (h : SingleLine e.quoted) :
    SingleLine (answerText (.error e)) :=
  SingleLine.append (by decide) (EvaluationError.singleLine_message h)

/-- After any keys a keypad answers with one line. -/
theorem singleLine_keypadAnswer (settings : Settings) (keys : List Key) :
    SingleLine (answerText (keypadAnswer ((Keypad.new settings).pressAll keys))) := by
  rw [keypadAnswer]
  split
  · rename_i e hLatest
    obtain ⟨source, hSource⟩ := Keypad.exists_evaluate_of_latest hLatest
    exact singleLine_answerText_error (singleLine_quoted_of_evaluate hSource)
  · exact Keypad.singleLine_display settings keys

/-- **Answers.** Every answer is one line, to an expression as well as to labels. -/
theorem singleLine_answer (o : Options) (source : String) :
    SingleLine (answerText (answer o source)) := by
  by_cases hMode : o.keys = true
  · rcases answer_keys_cases hMode source with ⟨l, hl, hAnswer⟩ | hAnswer
    · -- an unknown label is a word, and so has no white space
      rw [hAnswer]
      refine singleLine_answerText_error fun hMem => ?_
      cases Text.isWhiteSpace_of_mem_words hl '\n' hMem
    · rw [hAnswer]
      exact singleLine_keypadAnswer o.settings _
  · rw [answer, if_neg hMode]
    cases hSource : evaluate o.settings source with
    | ok v => exact singleLine_displayText v
    | error e => exact singleLine_answerText_error (singleLine_quoted_of_evaluate hSource)

end CommandLine

end PocketCalculator
