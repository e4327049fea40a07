import Mathlib.Data.List.DropRight
import PocketCalculator.Keypad

/-!
# PocketCalculator — segments of key presses

The keys `=` and `C` divide a sequence of keys into segments. A segment types a text of its
own, which starts empty. A keypad refines these segments: its text is what the open segment
types, and the outcome it keeps is the value of the text that the segment before the most
recent `=` types. What a key does to either is said once, for all states of the keypad; the
rest is an induction on the keys, the last one first.

* `typedText`, `openSegment`, `evaluatedSegment?` — segments and their texts.
* `Keypad.input_press`, `Keypad.latest_press` — what one key does.
* `Keypad.input_pressAll`, `Keypad.latest_pressAll` — what a sequence of keys does.
* `Keypad.pressAll_segments` — the text and the outcome, and that a segment is evaluated
  as if nothing had been pressed before.
-/

namespace PocketCalculator

-- ---------------------------------------------------------------------------
-- Segments
-- ---------------------------------------------------------------------------

namespace Key

/-- Whether a key ends the segment before it. -/
def endsSegment : Key → Bool
  | clear | equals => true
  | _ => false

/-- What a key makes of a text. A digit key that shows no digit leaves it alone, and so
do the keys that end a segment. -/
def extend (text : String) : Key → String
  | digit c => if c.isDigit then text ++ c.toString else text
  | dot => text ++ "."
  | operator op => text ++ op.symbol.toString
  | leftParen => text ++ "("
  | rightParen => text ++ ")"
  | function f => text ++ (f.name ++ "(")
  | negate => "(-" ++ text ++ ")"
  | clear | equals => text

end Key

/-- The text that the keys of a segment type. -/
def typedText (segment : List Key) : String :=
  segment.foldl Key.extend ""

/-- The keys after the last `=` or `C`. -/
def openSegment (keys : List Key) : List Key :=
  keys.rtakeWhile fun key => !key.endsSegment

/-- The keys after the last `C`. -/
def sinceClear (keys : List Key) : List Key :=
  keys.rtakeWhile (· ≠ .clear)

/-- The segment that the most recent `=` ended: what is open in front of that key. There
is none if no `=` was pressed since the last `C`. -/
def evaluatedSegment? (keys : List Key) : Option (List Key) :=
  if .equals ∈ sinceClear keys then
    some (openSegment (keys.rdropWhile (· ≠ .equals)).dropLast)
  else none

theorem typedText_append_singleton (segment : List Key) (key : Key) :
    typedText (segment ++ [key]) = key.extend (typedText segment) :=
  List.foldl_concat ..

/-- The last key either opens a new segment or belongs to the open one. -/
theorem openSegment_append_singleton (keys : List Key) (key : Key) :
    openSegment (keys ++ [key]) =
      if key.endsSegment then [] else openSegment keys ++ [key] := by
  rw [openSegment, List.rtakeWhile_concat]
  cases key.endsSegment <;> rfl

/-- After `C` no segment was evaluated. -/
theorem evaluatedSegment?_append_clear (keys : List Key) :
    evaluatedSegment? (keys ++ [.clear]) = none := by
  rw [evaluatedSegment?, sinceClear, List.rtakeWhile_concat_neg _ _ _ (by decide)]
  rfl

/-- The segment that a last `=` ends is the one that was open. -/
theorem evaluatedSegment?_append_equals (keys : List Key) :
    evaluatedSegment? (keys ++ [.equals]) = some (openSegment keys) := by
  have hSince : .equals ∈ sinceClear (keys ++ [.equals]) := by
    rw [sinceClear, List.rtakeWhile_concat_pos _ _ _ (by decide)]
    exact List.mem_concat_self
  rw [evaluatedSegment?, if_pos hSince, List.rdropWhile_concat_neg _ _ _ (by decide),
    List.dropLast_concat]

/-- A key that ends no segment adds to the open one only. -/
theorem evaluatedSegment?_append_singleton {key : Key} (h : key.endsSegment = false)
    (keys : List Key) : evaluatedSegment? (keys ++ [key]) = evaluatedSegment? keys := by
  have hClear : key ≠ .clear := by
    rintro rfl
    cases h
  have hEquals : key ≠ .equals := by
    rintro rfl
    cases h
  have hSince : sinceClear (keys ++ [key]) = sinceClear keys ++ [key] :=
    List.rtakeWhile_concat_pos _ _ _ (decide_eq_true hClear)
  have hDrop : (keys ++ [key]).rdropWhile (· ≠ .equals) = keys.rdropWhile (· ≠ .equals) :=
    List.rdropWhile_concat_pos _ _ _ (decide_eq_true hEquals)
  -- neither search stops at the key, so both find what they find without it
  rw [evaluatedSegment?, evaluatedSegment?, hSince, hDrop]
  simp only [List.mem_append, List.mem_singleton, hEquals.symm, or_false]

/-- Nothing in front of a key that ends a segment belongs to the open one. -/
theorem openSegment_append_cons {ending : Key} (h : ending.endsSegment = true)
    (earlier later : List Key) :
    openSegment (earlier ++ ending :: later) = openSegment later := by
  induction later using List.reverseRecOn with
  | nil =>
    rw [openSegment_append_singleton, if_pos h]
    rfl
  | append_singleton later key ih =>
    rw [← List.cons_append, ← List.append_assoc, openSegment_append_singleton,
      openSegment_append_singleton, ih]

namespace Keypad

-- ---------------------------------------------------------------------------
-- One key
-- ---------------------------------------------------------------------------

/-- No key changes the settings. -/
theorem settings_press (k : Keypad) (key : Key) : (k.press key).settings = k.settings := by
  cases key with
  | digit c =>
    rw [press]
    split <;> rfl
  | _ => rfl

/-- Keys that end a segment empty the text; every other key extends it. -/
theorem input_press (k : Keypad) (key : Key) :
    (k.press key).input = if key.endsSegment then "" else key.extend k.input := by
  cases key with
  | digit c =>
    rw [press, Key.extend]
    split
    · exact String.push_eq_append _
    · rfl
  | dot | operator op | leftParen | rightParen => exact String.push_eq_append _
  | function f => exact String.append_assoc
  | negate | clear | equals => rfl

/-- Only the keys that end a segment change the outcome that is kept. -/
theorem latest_press (k : Keypad) (key : Key) :
    (k.press key).latest =
      match key with
      | .clear => none
      | .equals => some (evaluate k.settings k.input)
      | _ => k.latest := by
  cases key with
  | digit c =>
    rw [press]
    split <;> rfl
  | _ => rfl

-- ---------------------------------------------------------------------------
-- Sequences of keys
-- ---------------------------------------------------------------------------

theorem pressAll_append_singleton (k : Keypad) (keys : List Key) (key : Key) :
    k.pressAll (keys ++ [key]) = (k.pressAll keys).press key :=
  List.foldl_concat ..

/-- The settings stay what they were, whatever is pressed. -/
theorem settings_pressAll (k : Keypad) (keys : List Key) :
    (k.pressAll keys).settings = k.settings := by
  induction keys using List.reverseRecOn with
  | nil => rfl
  | append_singleton keys key ih => rw [pressAll_append_singleton, settings_press, ih]

/-- The text on a keypad is what the keys of the open segment type. -/
theorem input_pressAll (settings : Settings) (keys : List Key) :
    ((new settings).pressAll keys).input = typedText (openSegment keys) := by
  induction keys using List.reverseRecOn with
  | nil => rfl
  | append_singleton keys key ih =>
    rw [pressAll_append_singleton, input_press, ih, openSegment_append_singleton]
    split
    · rfl
    · rw [typedText_append_singleton]

/-- The outcome a keypad keeps is the value of the segment that the most recent `=` ended. -/
theorem latest_pressAll (settings : Settings) (keys : List Key) :
    ((new settings).pressAll keys).latest =
      (evaluatedSegment? keys).map fun segment => evaluate settings (typedText segment) := by
  induction keys using List.reverseRecOn with
  | nil => rfl
  | append_singleton keys key ih =>
    rw [pressAll_append_singleton, latest_press]
    -- `C` forgets the outcome, `=` makes a new one of the open segment, and no other key
    -- touches it
    cases key with
    | clear => rw [evaluatedSegment?_append_clear, Option.map_none]
    | equals =>
      rw [evaluatedSegment?_append_equals, Option.map_some, settings_pressAll, input_pressAll]
      rfl
    | _ => rw [evaluatedSegment?_append_singleton rfl, ih]

/-- What `=` gives after any keys is the value of the text of the open segment. -/
theorem latest_pressAll_equals (settings : Settings) (keys : List Key) :
    ((new settings).pressAll (keys ++ [.equals])).latest =
      some (evaluate settings (typedText (openSegment keys))) := by
  rw [latest_pressAll, evaluatedSegment?_append_equals, Option.map_some]

/-- **Segments.** After any keys the text on a keypad is what the keys after the last `=` or
`C` type, and the outcome it keeps is the value of what the segment ended by the most
recent `=` types, if there was an `=` since the last `C`. So an evaluation gives what it
gives on a new keypad, whatever was pressed in front of the last `=` or `C`. -/
theorem pressAll_segments (settings : Settings) (keys : List Key) :
    ((new settings).pressAll keys).input = typedText (openSegment keys) ∧
    ((new settings).pressAll keys).latest =
      (evaluatedSegment? keys).map (fun segment => evaluate settings (typedText segment)) ∧
    ∀ earlier : List Key,
      ((new settings).pressAll (earlier ++ .equals :: (keys ++ [.equals]))).latest =
        ((new settings).pressAll (keys ++ [.equals])).latest ∧
      ((new settings).pressAll (earlier ++ .clear :: (keys ++ [.equals]))).latest =
        ((new settings).pressAll (keys ++ [.equals])).latest := by
  have hAlike : ∀ (earlier : List Key) (ending : Key), ending.endsSegment = true →
      ((new settings).pressAll (earlier ++ ending :: (keys ++ [.equals]))).latest =
        ((new settings).pressAll (keys ++ [.equals])).latest := by
    intro earlier ending hEnding
    -- both end with an `=` on the same open segment
    rw [← List.cons_append, ← List.append_assoc, latest_pressAll_equals,
      latest_pressAll_equals, openSegment_append_cons hEnding]
  exact ⟨input_pressAll settings keys, latest_pressAll settings keys,
    fun earlier => ⟨hAlike earlier .equals rfl, hAlike earlier .clear rfl⟩⟩

/-- In `1 = C 2 + 3 = 4` the keys `2 + 3` were evaluated last and the text is `4`. -/
example :
    evaluatedSegment? [.digit '1', .equals, .clear, .digit '2', .operator .add, .digit '3',
        .equals, .digit '4'] = some [.digit '2', .operator .add, .digit '3'] ∧
      openSegment [.digit '1', .equals, .clear, .digit '2', .operator .add, .digit '3',
        .equals, .digit '4'] = [.digit '4'] := by
  decide

end Keypad

end PocketCalculator
