import PocketCalculator.Proofs.Failures
import PocketCalculator.Proofs.Layouts
import PocketCalculator.Proofs.Ranks
import PocketCalculator.Proofs.Segments
import PocketCalculator.Proofs.Typing

/-!
# PocketCalculator — what a display shows

The display of a keypad holds nothing of its own: it shows the text typed so far, or if
there is none the outcome that is kept. Every key keeps it so. With strict settings a kept
value is finite, and no finite value and no typed text reads like one of the words for
other values.

* `Keypad.isShown_press` — what one key shows.
* `displayText_notMem_words` — finite values are not shown as words.
* `Keypad.display_determined` — the display after any keys, and which outcomes the
  settings rule out.
-/

namespace PocketCalculator

/-- The words that the display shows for values that are not finite. -/
def nonFiniteWords : List String :=
  ["NaN", "Infinity", "-Infinity"]

/-- A finite value has a point or an exponent, and the words have neither. -/
theorem displayText_notMem_words {v : Float} (h : v.isFinite = true) :
    displayText v ∉ nonFiniteWords := by
  intro hMem
  have hWords : ∀ word ∈ nonFiniteWords, '.' ∉ word.toList ∧ 'E' ∉ word.toList := by
    decide
  obtain ⟨hPoint, hMark⟩ := hWords _ hMem
  rcases Number.Layout.point_or_mark_mem ((Number.isFinite_iff_rank_lt v).mp h) with
    hPoint' | hMark'
  · exact hPoint hPoint'
  · exact hMark hMark'

/-- Words cannot be typed, since each starts with an unknown symbol or has one behind a
sign. -/
theorem IsTyped.notMem_words {text : String} (h : IsTyped text) : text ∉ nonFiniteWords := by
  intro hMem
  obtain ⟨ts, -, -, hRead⟩ := h.exists_tokens
  have hWords : ∀ word ∈ nonFiniteWords, (readTokens word).toOption = none := by
    decide +kernel
  have hNone := hWords text hMem
  rw [hRead] at hNone
  cases hNone

namespace Keypad

/-- What a display shows, told by the text and the outcome that is kept. -/
def shown (input : String) (latest : Option (Except EvaluationError Float)) : String :=
  if input ≠ "" then input
  else
    match latest with
    | none => ""
    | some (.ok v) => displayText v
    | some (.error _) => "Error"

/-- The display of a keypad shows what its text and its outcome tell. -/
def IsShown (k : Keypad) : Prop :=
  k.display = shown k.input k.latest

theorem isShown_new (settings : Settings) : (new settings).IsShown :=
  rfl

theorem isShown_retype (k : Keypad) {text : String} (h : text ≠ "") : (k.retype text).IsShown :=
  (if_pos h).symm

/-- After `=` the outcome is shown, since the text is empty. -/
theorem isShown_evaluateInput (k : Keypad) : k.evaluateInput.IsShown := by
  rw [IsShown, evaluateInput]
  cases evaluate k.settings k.input <;> rfl

/-- After every key the display shows what the text and the outcome tell: the text after a key
that types, the outcome after `=`, and nothing after `C`. -/
theorem isShown_press {k : Keypad} (h : k.IsShown) (key : Key) : (k.press key).IsShown := by
  cases key with
  | digit c =>
    rw [press]
    split
    · exact isShown_retype k (by simp)
    · exact h
  | dot | operator op | leftParen | rightParen | function f | negate =>
    exact isShown_retype k (by simp)
  | clear => exact isShown_new k.settings
  | equals => exact isShown_evaluateInput k

/-- **Displays.** After any keys the display shows what the text and the outcome tell. -/
theorem isShown_pressAll (settings : Settings) (keys : List Key) :
    ((new settings).pressAll keys).IsShown := by
  induction keys using List.reverseRecOn with
  | nil => exact isShown_new settings
  | append_singleton keys key ih =>
    rw [pressAll_append_singleton]
    exact isShown_press ih key

/-- An outcome that is kept is that of some text. -/
theorem exists_evaluate_of_latest {settings : Settings} {keys : List Key}
    {outcome : Except EvaluationError Float}
    (h : ((new settings).pressAll keys).latest = some outcome) :
    ∃ source, evaluate settings source = outcome := by
  rw [latest_pressAll] at h
  obtain ⟨segment, -, hOutcome⟩ := Option.map_eq_some_iff.mp h
  exact ⟨typedText segment, hOutcome⟩

/-- With strict settings a kept value is finite, since it is the value of some text. -/
theorem isFinite_of_latest {settings : Settings} (hStrict : settings.strict = true)
    {keys : List Key} {v : Float} (h : ((new settings).pressAll keys).latest = some (.ok v)) :
    v.isFinite = true := by
  obtain ⟨source, hSource⟩ := exists_evaluate_of_latest h
  exact isFinite_of_evaluate hStrict hSource

/-- With strict settings no word for other values is ever shown. -/
theorem display_notMem_words {settings : Settings} (hStrict : settings.strict = true)
    (keys : List Key) : ((new settings).pressAll keys).display ∉ nonFiniteWords := by
  rw [isShown_pressAll settings keys]
  unfold shown
  -- a typed text is not a word, and a result that is kept is finite
  split
  · exact ((Legible.new settings).pressAll keys).input.notMem_words
  · split
    · decide
    · rename_i v hLatest
      exact displayText_notMem_words (isFinite_of_latest hStrict hLatest)
    · decide

/-- **Displays.** After any keys the display is determined by the text and the outcome that
is kept. With strict settings this outcome is no value that is infinite or not a number,
nor does the display ever read so; with others no value was refused. -/
theorem display_determined (settings : Settings) (keys : List Key) :
    ((new settings).pressAll keys).display =
      shown ((new settings).pressAll keys).input ((new settings).pressAll keys).latest ∧
    (settings.strict = true →
      (∀ v, ((new settings).pressAll keys).latest = some (.ok v) →
        v.isNaN = false ∧ v.isInf = false) ∧
      ((new settings).pressAll keys).display ∉ ["NaN", "Infinity", "-Infinity"]) ∧
    (settings.strict = false →
      ∀ v, ((new settings).pressAll keys).latest ≠ some (.error (.nonFinite v))) := by
  refine ⟨isShown_pressAll settings keys, fun hStrict => ⟨?_, ?_⟩, fun hStrict v hLatest => ?_⟩
  · intro v hLatest
    exact Number.isNaN_isInf_of_isFinite (isFinite_of_latest hStrict hLatest)
  · exact display_notMem_words hStrict keys
  · obtain ⟨source, hSource⟩ := exists_evaluate_of_latest hLatest
    exact evaluate_ne_nonFinite hStrict source v hSource

/-- With strict settings `8/2` is kept as a value and `1/0` is not; with others `0/0` is. -/
theorem display_determined_quotients :
    (Float.isNaN 4 = false ∧ Float.isInf 4 = false) ∧
    ((new ⟨true⟩).pressAll [.digit '1', .operator .divide, .digit '0', .equals]).display ∉
      ["NaN", "Infinity", "-Infinity"] ∧
    ∀ v, ((new ⟨false⟩).pressAll [.digit '0', .operator .divide, .digit '0',
      .equals]).latest ≠ some (.error (.nonFinite v)) := by
  refine ⟨?_, ?_, ?_⟩
  · have hLatest : ((new ⟨true⟩).pressAll [.digit '8', .operator .divide, .digit '2',
        .equals]).latest = some (.ok 4) := by
      decide +kernel
    exact ((display_determined ⟨true⟩ _).2.1 rfl).1 4 hLatest
  · exact ((display_determined ⟨true⟩ _).2.1 rfl).2
  · exact (display_determined ⟨false⟩ _).2.2 rfl

end Keypad

end PocketCalculator
