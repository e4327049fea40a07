import PocketCalculator.CommandLine.Run
import PocketCalculator.Proofs.Segments
import PocketCalculator.Proofs.Words

/-!
# PocketCalculator — expressions as labels

An expression that keys can type may be given as it is or as the labels of these keys and
`=`. Both give the same answer. Labels are read word by word, and since no label has white
space in it, it does not matter how they are separated; labels in front that end with `C`
or `=` leave an empty text, so they do not matter either.

* `Key.isWord_of_ofLabel?` — labels are words.
* `Keypad.pressEach_of_labels` — labels press the keys they name.
* `Labelled.typedText_keys` — the labels of a text type it.
* `CommandLine.answer_labels` — an expression as labels.
-/

namespace PocketCalculator

-- ---------------------------------------------------------------------------
-- Labels
-- ---------------------------------------------------------------------------

namespace Key

/-- White space labels no key. -/
theorem ofCharacter?_of_isWhiteSpace {c : Char} (h : Text.isWhiteSpace c = true) :
    ofCharacter? c = none := by
  have hNone : ∀ d ∈ Text.whiteSpace, ofCharacter? d = none :=
    List.forall_iff_forall_mem.mp (by decide)
  exact hNone c (List.contains_iff_mem.mp h)

theorem isWord_name (f : NamedFunction) : Text.IsWord f.name := by
  refine ⟨?_, List.forall_iff_forall_mem.mp ?_⟩ <;> cases f <;> decide

/-- A label is a word, since no key is labelled with white space. -/
theorem isWord_of_ofLabel? {label : String} (h : (ofLabel? label).isSome = true) :
    Text.IsWord label := by
  rw [ofLabel?] at h
  -- a single character, the second label of `±`, and a name
  split at h
  · rename_i c hLabel
    refine ⟨fun hEmpty => by simp [hEmpty] at hLabel, ?_⟩
    rw [hLabel]
    intro d hd
    rw [List.mem_singleton.mp hd, Bool.eq_false_iff]
    intro hWhite
    rw [ofCharacter?_of_isWhiteSpace hWhite] at h
    cases h
  · split at h
    · rename_i hLabel
      refine ⟨fun hEmpty => by simp [hEmpty] at hLabel, ?_⟩
      rw [hLabel]
      exact List.forall_iff_forall_mem.mp (by decide)
    · obtain ⟨f, hf⟩ := Option.isSome_iff_exists.mp (Option.isSome_map ▸ h)
      rw [NamedFunction.ofName?_eq_some_iff.mp hf]
      exact isWord_name f

end Key

/-- The keys that labels name. -/
def keysOf (labels : List String) : List Key :=
  labels.filterMap Key.ofLabel?

theorem keysOf_cons {label : String} {key : Key} (h : Key.ofLabel? label = some key)
    (labels : List String) : keysOf (label :: labels) = key :: keysOf labels :=
  List.filterMap_cons_some h

theorem keysOf_append (before labels : List String) :
    keysOf (before ++ labels) = keysOf before ++ keysOf labels :=
  List.filterMap_append

/-- Labels press the keys that they name, one after the other. -/
theorem Keypad.pressEach_of_labels {labels : List String}
    (h : ∀ l ∈ labels, (Key.ofLabel? l).isSome = true) (k : Keypad) :
    k.pressEach labels =
      (k.pressAll (keysOf labels), .ok (k.pressAll (keysOf labels)).display) := by
  induction labels generalizing k with
  | nil => rfl
  -- pressing the first key leaves a keypad from which the others are pressed
  | cons label labels ih =>
    obtain ⟨hLabel, hLabels⟩ := List.forall_mem_cons.mp h
    obtain ⟨key, hKey⟩ := Option.isSome_iff_exists.mp hLabel
    rw [keysOf_cons hKey, pressEach, hKey]
    exact ih hLabels (k.press key)

-- ---------------------------------------------------------------------------
-- The labels of a text
-- ---------------------------------------------------------------------------

/-- The characters that have keys of their own which type them. -/
def keyCharacters : List Char :=
  ['0', '1', '2', '3', '4', '5', '6', '7', '8', '9', '.', '+', '-', '*', '/', '(', ')']

/-- Whether labels name, in their order, the keys that type a text: a key for each
character, and one for each name of a function together with its `(`. -/
inductive Labelled : List Char → List String → Prop
  | nil : Labelled [] []
  | character {c : Char} {cs : List Char} {labels : List String} (typed : c ∈ keyCharacters)
      (rest : Labelled cs labels) : Labelled (c :: cs) (c.toString :: labels)
  | call (f : NamedFunction) {cs : List Char} {labels : List String}
      (rest : Labelled cs labels) :
      Labelled (f.name.toList ++ '(' :: cs) (f.name :: labels)

/-- A character that has a key of its own is what this key adds to a text. -/
theorem Key.exists_ofCharacter? {c : Char} (h : c ∈ keyCharacters) :
    ∃ key, ofCharacter? c = some key ∧ key.endsSegment = false ∧
      ∀ text, key.extend text = text ++ c.toString := by
  simp only [keyCharacters, List.mem_cons, List.not_mem_nil, or_false] at h
  rcases h with rfl | rfl | rfl | rfl | rfl | rfl | rfl | rfl | rfl | rfl | rfl | rfl | rfl |
    rfl | rfl | rfl | rfl <;> exact ⟨_, rfl, rfl, fun _ => rfl⟩

/-- A character that has a key of its own is a label of this key. -/
theorem Key.exists_ofLabel? {c : Char} (h : c ∈ keyCharacters) :
    ∃ key, ofLabel? c.toString = some key ∧ key.endsSegment = false ∧
      ∀ text, key.extend text = text ++ c.toString := by
  have hLabel : ofLabel? c.toString = ofCharacter? c := by
    simp [ofLabel?]
  rw [hLabel]
  exact exists_ofCharacter? h

theorem Key.ofLabel?_name (f : NamedFunction) : ofLabel? f.name = some (function f) := by
  cases f <;> rfl

namespace Labelled

/-- All labels of a text name keys. -/
theorem isSome_ofLabel? {cs : List Char} {labels : List String} (h : Labelled cs labels) :
    ∀ l ∈ labels, (Key.ofLabel? l).isSome = true := by
  induction h with
  | nil => simp
  | character typed rest ih =>
    obtain ⟨key, hKey, -, -⟩ := Key.exists_ofLabel? typed
    exact List.forall_mem_cons.mpr ⟨Option.isSome_of_eq_some hKey, ih⟩
  | call f rest ih =>
    exact List.forall_mem_cons.mpr ⟨Option.isSome_of_eq_some (Key.ofLabel?_name f), ih⟩

/-- No label of a text is one of the keys that end a segment. -/
theorem endsSegment_of_mem {cs : List Char} {labels : List String} (h : Labelled cs labels) :
    ∀ key ∈ keysOf labels, key.endsSegment = false := by
  induction h with
  | nil => simp [keysOf]
  | character typed rest ih =>
    obtain ⟨key, hKey, hEnds, -⟩ := Key.exists_ofLabel? typed
    rw [keysOf_cons hKey]
    exact List.forall_mem_cons.mpr ⟨hEnds, ih⟩
  | call f rest ih =>
    rw [keysOf_cons (Key.ofLabel?_name f)]
    exact List.forall_mem_cons.mpr ⟨rfl, ih⟩

/-- The keys of a text, pressed behind another text, add it to that one. -/
theorem foldl_keys {cs : List Char} {labels : List String} (h : Labelled cs labels)
    (text : String) : (keysOf labels).foldl Key.extend text = text ++ .ofList cs := by
  induction h generalizing text with
  | nil => exact String.append_empty.symm
  | character typed rest ih =>
    obtain ⟨key, hKey, -, hExtend⟩ := Key.exists_ofLabel? typed
    rw [keysOf_cons hKey, List.foldl_cons, hExtend, ih, ← String.toList_inj]
    simp
  | call f rest ih =>
    rw [keysOf_cons (Key.ofLabel?_name f), List.foldl_cons, ih, ← String.toList_inj]
    simp [Key.extend]

/-- The labels of a text type it. -/
theorem typedText_keys {e : String} {labels : List String} (h : Labelled e.toList labels) :
    typedText (keysOf labels) = e := by
  rw [typedText, h.foldl_keys, String.empty_append, String.ofList_toList]

end Labelled

/-- Only what was pressed after the last `C` or `=` is open. -/
theorem openSegment_keysOf {earlier labels : List String} {cs : List Char}
    (hEnding : earlier = [] ∨ earlier.getLast? = some "C" ∨ earlier.getLast? = some "=")
    (h : Labelled cs labels) : openSegment (keysOf (earlier ++ labels)) = keysOf labels := by
  have hOpen : openSegment (keysOf labels) = keysOf labels := by
    refine List.rtakeWhile_eq_self_iff.mpr ?_
    intro key hKey
    rw [h.endsSegment_of_mem key hKey]
    rfl
  -- whatever stands in front of a key that ends a segment belongs to earlier ones
  have hClosed : ∀ (init : List String) (label : String) (ending : Key),
      Key.ofLabel? label = some ending → ending.endsSegment = true →
      openSegment (keysOf (init ++ [label] ++ labels)) = keysOf labels := by
    intro init label ending hLabel hEnds
    rw [List.append_assoc, keysOf_append, List.singleton_append, keysOf_cons hLabel,
      openSegment_append_cons hEnds, hOpen]
  rcases hEnding with rfl | hLast | hLast
  · exact hOpen
  · obtain ⟨init, rfl⟩ := List.getLast?_eq_some_iff.mp hLast
    exact hClosed init "C" .clear rfl rfl
  · obtain ⟨init, rfl⟩ := List.getLast?_eq_some_iff.mp hLast
    exact hClosed init "=" .equals rfl rfl

-- ---------------------------------------------------------------------------
-- Answers
-- ---------------------------------------------------------------------------

namespace CommandLine

/-- A text of labels is answered by the keypad on which the keys were pressed. -/
theorem answer_of_keys {o : Options} (hMode : o.keys = true) {text : String}
    (h : ∀ l ∈ Text.words text, (Key.ofLabel? l).isSome = true) :
    answer o text =
      keypadAnswer ((Keypad.new o.settings).pressAll (keysOf (Text.words text))) := by
  rw [answer, if_pos hMode, Keypad.pressWords, Keypad.pressEach_of_labels h]

/-- After `=` a keypad answers with the value of its text. -/
theorem keypadAnswer_press_equals (k : Keypad) :
    keypadAnswer (k.press .equals) = (evaluate k.settings k.input).map displayText := by
  rw [Keypad.press, Keypad.evaluateInput, keypadAnswer]
  cases evaluate k.settings k.input <;> rfl

/-- **Input modes.** The labels that type an expression and then evaluate it, separated by
any white space, give the same answer as the expression itself, also behind any other
labels that end with `C` or `=`. -/
theorem answer_labels {e text : String} {earlier labels : List String}
    (hEarlier : ∀ l ∈ earlier, (Key.ofLabel? l).isSome = true)
    (hEnding : earlier = [] ∨ earlier.getLast? = some "C" ∨ earlier.getLast? = some "=")
    (hLabels : Labelled e.toList labels)
    (hText : Text.Separated text.toList (earlier ++ labels ++ ["="])) (o : Options) :
    answer { o with keys := true } text = answer { o with keys := false } e := by
  have hValid : ∀ l ∈ earlier ++ labels ++ ["="], (Key.ofLabel? l).isSome = true := by
    intro l hl
    rw [List.mem_append, List.mem_append, List.mem_singleton] at hl
    rcases hl with (hl | hl) | rfl
    · exact hEarlier l hl
    · exact hLabels.isSome_ofLabel? l hl
    · rfl
  have hWords : Text.words text = earlier ++ labels ++ ["="] :=
    Text.words_of_separated hText fun l hl => Key.isWord_of_ofLabel? (hValid l hl)
  have hKeys : keysOf (Text.words text) = keysOf (earlier ++ labels) ++ [.equals] := by
    rw [hWords, keysOf_append]
    rfl
  have hInput : ((Keypad.new o.settings).pressAll (keysOf (earlier ++ labels))).input = e := by
    rw [Keypad.input_pressAll, openSegment_keysOf hEnding hLabels, hLabels.typedText_keys]
  calc answer { o with keys := true } text
      = keypadAnswer ((Keypad.new o.settings).pressAll (keysOf (Text.words text))) :=
        answer_of_keys rfl (hWords ▸ hValid)
    -- the `=` is pressed last, on the text that the other labels have typed
    _ = keypadAnswer (((Keypad.new o.settings).pressAll (keysOf (earlier ++ labels))).press
          .equals) := by rw [hKeys, Keypad.pressAll_append_singleton]
    _ = (evaluate o.settings e).map displayText := by
        rw [keypadAnswer_press_equals, hInput, Keypad.settings_pressAll]
        rfl
    _ = answer { o with keys := false } e := rfl

/-- The expression `sqrt(9)` as labels, behind labels that leave an error. -/
theorem answer_labels_root :
    answer { strict := true, keys := true } "1 / 0 = sqrt\t9 \u2003) =" =
      answer { strict := true } "sqrt(9)" := by
  have hLabels : Labelled "sqrt(9)".toList ["sqrt", "9", ")"] :=
    .call .sqrt (.character (by decide) (.character (by decide) .nil))
  have hGap : [' '] ≠ [] := by
    decide
  have hWhite : ∀ {gap : List Char}, gap.Forall (Text.isWhiteSpace · = true) →
      ∀ c ∈ gap, Text.isWhiteSpace c = true := List.forall_iff_forall_mem.mp
  have hSpace : ∀ c ∈ [' '], Text.isWhiteSpace c = true := hWhite (by decide)
  have hText : Text.Separated "1 / 0 = sqrt\t9 \u2003) =".toList
      (["1", "/", "0", "="] ++ ["sqrt", "9", ")"] ++ ["="]) :=
    .cons "1" hGap hSpace <| .cons "/" hGap hSpace <| .cons "0" hGap hSpace <|
    .cons "=" hGap hSpace <| .cons "sqrt" (by decide : ['\t'] ≠ []) (hWhite (by decide)) <|
    .cons "9" (by decide : [' ', '\u2003'] ≠ []) (hWhite (by decide)) <|
    .cons ")" hGap hSpace <| .single "="
  exact answer_labels (by decide) (Or.inr (Or.inr (by decide))) hLabels hText { strict := true }

end CommandLine

end PocketCalculator
