import Mathlib.Data.List.Basic
import PocketCalculator.Text.WhiteSpace

/-!
# PocketCalculator — words between white space

A text that was written word by word, with white space between the words, is read back
as these words, however much white space there is.

* `Text.words_append_cons` — white space divides the words of a text.
* `Text.words_of_separated` — the words of a text that was written word by word.
-/

namespace PocketCalculator.Text

/-- Whether a text is one word: it is not empty and has no white space in it. -/
def IsWord (text : String) : Prop :=
  text ≠ "" ∧ ∀ c ∈ text.toList, isWhiteSpace c = false

/-- Whether a text consists of words in their order, with some white space between each
two of them. -/
inductive Separated : List Char → List String → Prop
  | single (word : String) : Separated word.toList [word]
  | cons (word : String) {gap cs : List Char} {words : List String} (nonempty : gap ≠ [])
      (white : ∀ c ∈ gap, isWhiteSpace c = true) (rest : Separated cs words) :
      Separated (word.toList ++ gap ++ cs) (word :: words)

/-- White space divides the words of a text. -/
theorem words_append_cons {c : Char} (hc : isWhiteSpace c = true) (as bs : List Char) :
    words (.ofList (as ++ c :: bs)) = words (.ofList as) ++ words (.ofList bs) := by
  simp only [words, String.toList_ofList]
  rw [List.splitOnP_append_cons as bs hc, List.filter_append, List.map_append]

/-- No piece between white space has white space in it. -/
theorem isWhiteSpace_of_mem_splitOnP {cs piece : List Char}
    (h : piece ∈ cs.splitOnP isWhiteSpace) : ∀ c ∈ piece, isWhiteSpace c = false := by
  -- by the text: a character adds to the first of the pieces behind it, or ends an empty one
  -- there
  induction cs generalizing piece with
  | nil =>
    rw [List.splitOnP_nil, List.mem_singleton] at h
    simp [h]
  | cons c cs ih =>
    obtain ⟨first, rest, hPieces⟩ :=
      List.exists_cons_of_ne_nil (List.splitOnP_ne_nil isWhiteSpace cs)
    rw [List.splitOnP_cons_eq_if_modifyHead, hPieces] at h
    have hOld : ∀ old ∈ first :: rest, ∀ d ∈ old, isWhiteSpace d = false := by
      intro old hOld
      exact ih (hPieces ▸ hOld)
    split at h
    · rcases List.mem_cons.mp h with rfl | hMem
      · simp
      · exact hOld piece hMem
    · rename_i hBlack
      rcases List.mem_cons.mp h with rfl | hMem
      · exact List.forall_mem_cons.mpr
          ⟨Bool.eq_false_iff.mpr hBlack, hOld first List.mem_cons_self⟩
      · exact hOld piece (List.mem_cons_of_mem first hMem)

/-- No word has white space in it. -/
theorem isWhiteSpace_of_mem_words {text word : String} (h : word ∈ words text) :
    ∀ c ∈ word.toList, isWhiteSpace c = false := by
  obtain ⟨piece, hPiece, rfl⟩ := List.mem_map.mp h
  rw [String.toList_ofList]
  exact isWhiteSpace_of_mem_splitOnP (List.mem_filter.mp hPiece).1

/-- White space in front of a text makes no words. -/
theorem words_append_of_white {gap : List Char} (h : ∀ c ∈ gap, isWhiteSpace c = true)
    (cs : List Char) : words (.ofList (gap ++ cs)) = words (.ofList cs) := by
  induction gap with
  | nil => rfl
  | cons c gap ih =>
    obtain ⟨hc, hGap⟩ := List.forall_mem_cons.mp h
    rw [List.cons_append, ← ih hGap]
    exact words_append_cons hc [] (gap ++ cs)

theorem words_of_isWord {word : String} (h : IsWord word) : words word = [word] := by
  rw [words, List.splitOnP_eq_singleton h.2]
  simp [String.toList_eq_nil_iff, h.1]

/-- A text that was written word by word has these words. -/
theorem words_of_separated {text : String} {ws : List String} (h : Separated text.toList ws)
    (hWords : ∀ w ∈ ws, IsWord w) : words text = ws := by
  rw [← String.ofList_toList (s := text)]
  generalize text.toList = cs at h
  induction h with
  | single word =>
    rw [String.ofList_toList]
    exact words_of_isWord (hWords word List.mem_cons_self)
  | cons word nonempty white rest ih =>
    rename_i gap cs words
    obtain ⟨hWord, hRest⟩ := List.forall_mem_cons.mp hWords
    -- the first character of the gap divides, and the rest of the gap makes no words
    obtain ⟨c, gap, rfl⟩ := List.exists_cons_of_ne_nil nonempty
    obtain ⟨hc, hGap⟩ := List.forall_mem_cons.mp white
    rw [List.append_assoc, List.cons_append, words_append_cons hc, String.ofList_toList,
      words_of_isWord hWord, words_append_of_white hGap, ih hRest]
    rfl

end PocketCalculator.Text
