import PocketCalculator.Proofs.Labels

/-!
# PocketCalculator — texts of labels

The words of a text are pressed as labels, one after the other, up to the first that names no
key. A text may therefore be cut wherever it has white space: its second part is pressed after
the first, if no label of the first was unknown. And a label that names no key stops the
others, so that the keypad is left as the labels before it leave it.

* `Keypad.pressEach_append` — labels behind other labels.
* `Keypad.pressEach_of_unknown`, `Keypad.pressEach_fails_iff` — labels that name no key.
* `Keypad.pressWords_composes` — texts of labels.
-/

namespace PocketCalculator

/-- A text is read word by word, so white space in it divides its words. -/
theorem Text.words_append_gap {gap : String} (h : gap ≠ "") (hWhite : isAllWhiteSpace gap = true)
    (a b : String) : words (a ++ gap ++ b) = words a ++ words b := by
  have hList : gap.toList ≠ [] := by
    rwa [ne_eq, String.toList_eq_nil_iff]
  obtain ⟨c, cs, hGap⟩ := List.exists_cons_of_ne_nil hList
  -- the first white space ends the last word of the first part, the others make no words
  rw [isAllWhiteSpace, List.all_eq_true, hGap] at hWhite
  obtain ⟨hc, hcs⟩ := List.forall_mem_cons.mp hWhite
  have hText : a ++ gap ++ b = .ofList (a.toList ++ c :: (cs ++ b.toList)) := by
    rw [← String.toList_inj]
    simp [hGap]
  rw [hText, words_append_cons hc, words_append_of_white hcs, String.ofList_toList,
    String.ofList_toList]

/-- Labels that do not all name keys begin with some that do and one that does not. -/
theorem Key.exists_first_unknown {labels : List String}
    (h : ¬ ∀ l ∈ labels, (ofLabel? l).isSome = true) :
    ∃ before label rest, labels = before ++ label :: rest ∧
      (∀ l ∈ before, (ofLabel? l).isSome = true) ∧ ofLabel? label = none := by
  have hFound : (labels.find? fun l => !(ofLabel? l).isSome).isSome = true := by
    rw [List.find?_isSome]
    push Not at h
    simpa using h
  obtain ⟨label, hLabel⟩ := Option.isSome_iff_exists.mp hFound
  obtain ⟨hUnknown, before, rest, hSplit, hBefore⟩ := List.find?_eq_some_iff_append.mp hLabel
  refine ⟨before, label, rest, hSplit, ?_, by simpa using hUnknown⟩
  intro l hl
  simpa using hBefore l hl

namespace Keypad

-- ---------------------------------------------------------------------------
-- Labels in order
-- ---------------------------------------------------------------------------

/-- Labels behind other labels are pressed after these, if all of these name keys. -/
theorem pressEach_append (k : Keypad) (before labels : List String) :
    k.pressEach (before ++ labels) =
      match k.pressEach before with
      | (k', .ok _) => k'.pressEach labels
      | (k', .error e) => (k', .error e) := by
  -- pressing the first label is the same on both sides, and what follows is pressed on the
  -- result
  induction before generalizing k with
  | nil => rfl
  | cons label before ih =>
    rw [List.cons_append, pressEach, pressEach]
    cases Key.ofLabel? label with
    | some key => exact ih (k.press key)
    | none => rfl

/-- A label that names no key is reported, and no label behind it is pressed. -/
theorem pressEach_of_unknown {before : List String} {label : String}
    (hBefore : ∀ l ∈ before, (Key.ofLabel? l).isSome = true)
    (hLabel : Key.ofLabel? label = none) (rest : List String) (k : Keypad) :
    k.pressEach (before ++ label :: rest) =
      (k.pressAll (keysOf before), .error (.unknownSymbol label)) := by
  rw [pressEach_append, pressEach_of_labels hBefore]
  show pressEach _ (label :: rest) = _
  rw [pressEach, hLabel]

/-- Labels fail exactly if one of them names no key. -/
theorem pressEach_fails_iff (labels : List String) (k : Keypad) :
    (∃ k' e, k.pressEach labels = (k', .error e)) ↔ ∃ l ∈ labels, Key.ofLabel? l = none := by
  constructor
  · rintro ⟨k', e, hPress⟩
    by_contra hKnown
    have hAll : ∀ l ∈ labels, (Key.ofLabel? l).isSome = true := by
      intro l hl
      rw [Option.isSome_iff_ne_none]
      exact fun hNone => hKnown ⟨l, hl, hNone⟩
    rw [pressEach_of_labels hAll] at hPress
    cases hPress
  · rintro ⟨l, hl, hNone⟩
    have hUnknown : ¬ ∀ l ∈ labels, (Key.ofLabel? l).isSome = true := by
      intro hAll
      simpa [hNone] using hAll l hl
    -- the first label without a key stops the others, however many more there are
    obtain ⟨before, label, rest, rfl, hBefore, hLabel⟩ := Key.exists_first_unknown hUnknown
    exact ⟨_, _, pressEach_of_unknown hBefore hLabel rest k⟩

-- ---------------------------------------------------------------------------
-- Texts
-- ---------------------------------------------------------------------------

/-- **Texts of labels.** A text with white space in it is pressed like its two parts in turn, the
second only if the first succeeds. It fails exactly if one of its labels names no key; the first
such label is reported, and the keypad is left as the keys of the labels before it leave it. -/
theorem pressWords_composes (k : Keypad) :
    (∀ a gap b : String, gap ≠ "" → Text.isAllWhiteSpace gap = true →
      k.pressWords (a ++ gap ++ b) =
        match k.pressWords a with
        | (k', .ok _) => k'.pressWords b
        | (k', .error e) => (k', .error e)) ∧
      ∀ text : String,
        ((∃ k' e, k.pressWords text = (k', .error e)) ↔
            ∃ l ∈ Text.words text, Key.ofLabel? l = none) ∧
          ∀ before label rest, Text.words text = before ++ label :: rest →
            (∀ l ∈ before, (Key.ofLabel? l).isSome = true) → Key.ofLabel? label = none →
            k.pressWords text = (k.pressAll (keysOf before), .error (.unknownSymbol label)) := by
  refine ⟨?_, fun text => ⟨pressEach_fails_iff _ k, ?_⟩⟩
  · intro a gap b hGap hWhite
    rw [pressWords, Text.words_append_gap hGap hWhite, pressEach_append]
    rfl
  · intro before label rest hWords hBefore hLabel
    rw [pressWords, hWords]
    exact pressEach_of_unknown hBefore hLabel rest k

/-- Behind `1 + 2 =` the label `%` stops the labels `7 % 9`. -/
theorem pressWords_composes_percent :
    (new {}).pressWords ("1 + 2 =" ++ "\u2003\t" ++ "7 % 9") =
      (((new {}).pressAll [.digit '1', .operator .add, .digit '2', .equals]).press (.digit '7'),
        .error (.unknownSymbol "%")) := by
  have hFirst : ∃ shown, (new {}).pressWords "1 + 2 =" =
      ((new {}).pressAll [.digit '1', .operator .add, .digit '2', .equals], .ok shown) := by
    rw [pressWords, show Text.words "1 + 2 =" = ["1", "+", "2", "="] by decide +kernel]
    exact ⟨_, pressEach_of_labels (by decide) (new {})⟩
  obtain ⟨shown, hFirst⟩ := hFirst
  rw [(pressWords_composes (new {})).1 _ _ _ (by decide) (by decide), hFirst]
  generalize (new {}).pressAll [.digit '1', .operator .add, .digit '2', .equals] = k
  exact ((pressWords_composes k).2 "7 % 9").2 ["7"] "%" ["9"] (by decide +kernel) (by decide)
    (by decide)

end Keypad

end PocketCalculator
