import PocketCalculator.Proofs.Spelling

/-!
# PocketCalculator — unknown symbols

What cannot be read is reported by its text: a character that no expression has, or a run of
letters that names no function. What is reported is the first lexeme of this kind, and what
stands behind it does not matter but for where a run of letters ends. A source has one such
place at most, since whatever stands in front of it can be read.

* `Lexeme.read_eq_unknown_iff` — which lexemes are unknown.
* `readTokens_eq_error_iff` — what reading reports and where it stands.
-/

namespace PocketCalculator

/-- Whether a character is part of no token and no blank either. -/
def IsForeign (c : Char) : Prop :=
  c.isAlpha = false ∧ c.isDigit = false ∧
    c ∉ ['.', '+', '-', '*', '/', '(', ')', ' ', '\t', '\r', '\n', '\x0c']

/-- Whether a text consists of letters and names no function. -/
def IsUnknownWord (w : List Char) : Prop :=
  w ≠ [] ∧ (∀ c ∈ w, c.isAlpha = true) ∧ ∀ f : NamedFunction, w ≠ f.name.toList

-- ---------------------------------------------------------------------------
-- Unknown lexemes
-- ---------------------------------------------------------------------------

/-- A character is no operator exactly if it is none of the four signs. -/
theorem Operator.ofSymbol?_eq_none_iff {c : Char} :
    ofSymbol? c = none ↔ c ∉ ['+', '-', '*', '/'] := by
  unfold ofSymbol?
  split <;> simp_all

/-- A character is no token of its own exactly if it is neither a sign nor a parenthesis. -/
theorem Lexeme.sign?_eq_none_iff {c : Char} :
    sign? c = none ↔ c ∉ ['+', '-', '*', '/', '(', ')'] := by
  unfold sign?
  split
  · simp
  · simp
  · rename_i hLeft hRight
    rw [Option.map_eq_none_iff, Operator.ofSymbol?_eq_none_iff]
    have hParens : c ≠ '(' ∧ c ≠ ')' := ⟨hLeft, hRight⟩
    simp [hParens]

/-- A foreign character is one that no class of lexemes has. -/
theorem isForeign_iff {c : Char} :
    IsForeign c ↔ isBlank c = false ∧ isNumeral c = false ∧ c.isAlpha = false ∧
      Lexeme.sign? c = none := by
  rw [IsForeign, Lexeme.sign?_eq_none_iff]
  simp only [isBlank, isNumeral, List.mem_cons, List.not_mem_nil, not_or, or_false,
    Bool.or_eq_false_iff, decide_eq_false_iff_not]
  tauto

namespace Lexeme

/-- A lexeme is unknown exactly if it is a foreign character or a word that
names no function. -/
theorem read_eq_unknown_iff {w : Lexeme} (hRun : w.IsChain fun a b => joins a b = true) :
    w.read = .unknown ↔ (∃ c, w = [c] ∧ IsForeign c) ∨ IsUnknownWord w := by
  constructor
  · intro h
    match w, hRun, h with
    | c :: cs, hRun, h =>
      -- a lexeme is a run of digits and points, a run of letters, or a single other character
      rcases run_cases hRun with hNumerals | hLetters | ⟨hNumeral, hAlpha, rfl⟩
      · rw [read_numerals (hNumerals c List.mem_cons_self)] at h
        cases h
      · refine Or.inr ⟨List.cons_ne_nil c cs, hLetters, fun f hName => ?_⟩
        have hFunction : NamedFunction.ofName? (.ofList (c :: cs)) = some f := by
          rw [NamedFunction.ofName?_eq_some_iff, hName, String.ofList_toList]
        rw [read_letters (hLetters c List.mem_cons_self), hFunction] at h
        cases h
      · have hBlank : isBlank c = false := by
          rw [Bool.eq_false_iff]
          intro hBlank
          rw [read_blank hBlank] at h
          cases h
        refine Or.inl ⟨c, rfl, isForeign_iff.mpr ⟨hBlank, hNumeral, hAlpha, ?_⟩⟩
        rw [read_other hBlank hNumeral hAlpha] at h
        cases hSign : sign? c with
        | none => rfl
        | some t =>
          rw [hSign] at h
          cases h
  · rintro (⟨c, rfl, hForeign⟩ | ⟨hSome, hLetters, hNameless⟩)
    · obtain ⟨hBlank, hNumeral, hAlpha, hSign⟩ := isForeign_iff.mp hForeign
      rw [read_other hBlank hNumeral hAlpha, hSign]
      rfl
    · obtain ⟨c, cs, rfl⟩ := List.exists_cons_of_ne_nil hSome
      rw [read_letters (hLetters c List.mem_cons_self)]
      cases hName : NamedFunction.ofName? (.ofList (c :: cs)) with
      | none => rfl
      | some f =>
        refine absurd ?_ (hNameless f)
        rw [← NamedFunction.ofName?_eq_some_iff.mp hName, String.toList_ofList]

/-- A run of letters ends where no letter follows. -/
theorem joins_of_not_isAlpha {a b : Char} (ha : a.isAlpha = true) (hb : b.isAlpha = false) :
    joins a b = false := by
  have hNumeral : isNumeral a = false := by
    rw [Bool.eq_false_iff]
    intro hNumeral
    simp [isAlpha_of_isNumeral hNumeral] at ha
  rw [joins, hNumeral, hb, Bool.false_and, Bool.and_false]
  rfl

theorem isAlpha_eq_false_of_joins {a b : Char} (h : joins a b = false) (ha : a.isAlpha = true) :
    b.isAlpha = false := by
  rw [joins, Bool.or_eq_false_iff, ha, Bool.true_and] at h
  exact h.2

end Lexeme

-- ---------------------------------------------------------------------------
-- Places of unknown symbols
-- ---------------------------------------------------------------------------

/-- Whether a text is unknown where it stands: a foreign character, or a whole run of letters
that names no function. -/
def IsUnknownBetween (front w rest : List Char) : Prop :=
  (∃ c, w = [c] ∧ IsForeign c) ∨
    IsUnknownWord w ∧ (∀ a ∈ front.getLast?, a.isAlpha = false) ∧
      ∀ b ∈ rest.head?, b.isAlpha = false

namespace IsUnknownBetween

variable {front w rest : List Char}

/-- The characters of an unknown text belong to one lexeme. -/
theorem isChain (h : IsUnknownBetween front w rest) :
    w.IsChain fun a b => Lexeme.joins a b = true := by
  rcases h with ⟨c, rfl, -⟩ | ⟨⟨-, hLetters, -⟩, -⟩
  · exact List.isChain_singleton c
  · have hJoins : ∀ a ∈ w, ∀ b ∈ w, Lexeme.joins a b = true := by
      intro a ha b hb
      rw [Lexeme.joins, hLetters a ha, hLetters b hb, Bool.true_and, Bool.or_true]
    exact (List.pairwise_of_forall_mem_list hJoins).isChain

theorem read_eq (h : IsUnknownBetween front w rest) : Lexeme.read w = .unknown :=
  (Lexeme.read_eq_unknown_iff h.isChain).mpr (h.imp_right And.left)

/-- What is unknown is a lexeme of its own. -/
theorem joins_eq_false (h : IsUnknownBetween front w rest) :
    (∀ a ∈ front.getLast?, ∀ b ∈ w.head?, Lexeme.joins a b = false) ∧
      ∀ a ∈ w.getLast?, ∀ b ∈ rest.head?, Lexeme.joins a b = false := by
  rcases h with ⟨c, rfl, hForeign⟩ | ⟨⟨-, hLetters, -⟩, hBefore, hBehind⟩
  · obtain ⟨-, hNumeral, hAlpha, -⟩ := isForeign_iff.mp hForeign
    have hJoins := Lexeme.joins_eq_false hNumeral hAlpha
    constructor
    · rintro a - b ⟨⟩
      rw [Lexeme.joins_comm, hJoins]
    · rintro a ⟨⟩ b -
      exact hJoins b
  · constructor
    · intro a ha b hb
      rw [Lexeme.joins_comm]
      exact Lexeme.joins_of_not_isAlpha (hLetters b (List.mem_of_head? hb)) (hBefore a ha)
    · intro a ha b hb
      exact Lexeme.joins_of_not_isAlpha (hLetters a (List.mem_of_getLast? ha)) (hBehind b hb)

/-- Less may stand behind. -/
theorem of_append {more : List Char} (h : IsUnknownBetween front w (rest ++ more)) :
    IsUnknownBetween front w rest := by
  refine h.imp_right fun ⟨hWord, hBefore, hBehind⟩ => ⟨hWord, hBefore, fun b hb => hBehind b ?_⟩
  rw [List.head?_append, Option.mem_def.mp hb]
  rfl

/-- No part of it in front of a rest of it stands apart. -/
theorem eq_nil_of_append {part left : List Char} (h : IsUnknownBetween (front ++ part) w rest)
    (hPart : part ≠ []) (hParts : w = part ++ left) : left = [] := by
  rcases h with ⟨c, hSingle, -⟩ | ⟨⟨-, hLetters, -⟩, hBefore, -⟩
  · -- a single character has no part that leaves something
    have hLength := congrArg List.length (hParts.symm.trans hSingle)
    have hPos := List.length_pos_of_ne_nil hPart
    rw [List.length_append, List.length_singleton] at hLength
    exact List.eq_nil_of_length_eq_zero (by omega)
  · -- the part would be letters in front of letters, but no letter may stand in front
    have hLast := List.getLast_mem_getLast? hPart
    have hLetter := hLetters _ (hParts ▸ List.mem_append_left left (List.mem_of_getLast? hLast))
    have hOther := hBefore (part.getLast hPart) (by rwa [List.getLast?_append_of_ne_nil _ hPart])
    rw [hLetter] at hOther
    cases hOther

end IsUnknownBetween

/-- Whether a source can be read up to a text that is unknown there. -/
structure UnknownAt (source front w rest : String) : Prop where
  parts : source = front ++ w ++ rest
  readable : ∃ ts, readTokens front = .ok ts
  unknown : IsUnknownBetween front.toList w.toList rest.toList

namespace UnknownAt

variable {source front w rest front' w' rest' : String}

/-- At such a place reading fails with the text that stands there. -/
theorem readTokens_eq (h : UnknownAt source front w rest) :
    readTokens source = .error (.unknownSymbol w) := by
  obtain ⟨ts, hFront⟩ := h.readable
  obtain ⟨hBefore, hBehind⟩ := h.unknown.joins_eq_false
  rw [readTokens, h.parts, String.toList_append, String.toList_append, List.append_assoc,
    Lexeme.tokens_split_unknown h.unknown.isChain h.unknown.read_eq hFront hBefore hBehind,
    String.ofList_toList]

/-- No other place is in front of the one that is reported. -/
theorem length_le (h : UnknownAt source front w rest) (h' : UnknownAt source front' w rest') :
    front.toList.length ≤ front'.toList.length := by
  by_contra hLess
  have hParts := congrArg String.toList (h'.parts.symm.trans h.parts)
  simp only [String.toList_append, List.append_assoc] at hParts
  -- if the other place were in front, `front` would hold it, and could not be read
  rcases List.append_eq_append_iff.mp hParts with ⟨between, hFront, hRest⟩ | ⟨between, hFront, -⟩
  · have hSome : between ≠ [] := by
      rintro rfl
      simp [hFront] at hLess
    have hUnknown := h.unknown
    rw [hFront] at hUnknown
    -- the other place is a whole one in what `front` has more
    obtain ⟨more, hBetween, hMore⟩ : ∃ more, between = w.toList ++ more ∧
        ∃ left, rest'.toList = more ++ left := by
      rcases List.append_eq_append_iff.mp hRest with ⟨more, hBetween, hMore⟩ | ⟨left, hw, hLeft⟩
      · exact ⟨more, hBetween, _, hMore⟩
      · rw [hUnknown.eq_nil_of_append hSome hw, List.append_nil] at hw
        exact ⟨[], by rw [hw, List.append_nil], rest'.toList, rfl⟩
    obtain ⟨left, hLeft⟩ := hMore
    have hPlace : UnknownAt front front' w (.ofList more) := by
      refine ⟨String.toList_inj.mp ?_, h'.readable, ?_⟩
      · simp [hFront, hBetween]
      · have hOther := h'.unknown
        rw [hLeft] at hOther
        simpa using hOther.of_append
    obtain ⟨ts, hRead⟩ := h.readable
    rw [hPlace.readTokens_eq] at hRead
    cases hRead
  · rw [hFront, List.length_append] at hLess
    omega

/-- There is one such place at most. -/
theorem unique (h : UnknownAt source front w rest) (h' : UnknownAt source front' w' rest') :
    front' = front ∧ w' = w ∧ rest' = rest := by
  -- both are what reading reports, so the texts agree, and neither place is in front of the
  -- other
  have hSame := h'.readTokens_eq.symm.trans h.readTokens_eq
  cases hSame
  have hLength := Nat.le_antisymm (h'.length_le h) (h.length_le h')
  have hParts := congrArg String.toList (h'.parts.symm.trans h.parts)
  simp only [String.toList_append, List.append_assoc] at hParts
  obtain ⟨hFront, hRest⟩ := List.append_inj hParts hLength
  exact ⟨String.toList_inj.mp hFront, rfl, String.toList_inj.mp (List.append_cancel_left hRest)⟩

end UnknownAt

-- ---------------------------------------------------------------------------
-- What reading reports
-- ---------------------------------------------------------------------------

/-- An unknown lexeme is unknown between the lexemes around it. -/
theorem isUnknownBetween_of_lexemes {before behind : List Lexeme} {w : Lexeme}
    (hRun : w.IsChain fun a b => Lexeme.joins a b = true)
    (hSeams : (before ++ w :: behind).IsChain fun u v =>
      ∃ hu hv, Lexeme.joins (u.getLast hu) (v.head hv) = false)
    (hRead : w.read = .unknown) : IsUnknownBetween before.flatten w behind.flatten := by
  refine ((Lexeme.read_eq_unknown_iff hRun).mp hRead).imp_right fun hWord => ⟨hWord, ?_, ?_⟩
  · -- the last lexeme in front does not join with the first letter of the word
    intro a ha
    obtain ⟨-, -, hSeam⟩ := List.isChain_append.mp hSeams
    rcases List.eq_nil_or_concat before with rfl | ⟨before, u, rfl⟩
    · cases ha
    · obtain ⟨hu, hw, hJoins⟩ := hSeam u (by simp) w rfl
      rw [List.concat_eq_append, List.flatten_append, List.flatten_singleton,
        List.getLast?_append_of_ne_nil _ hu, List.getLast?_eq_some_getLast hu] at ha
      rw [← Option.some.inj ha]
      rw [Lexeme.joins_comm] at hJoins
      exact Lexeme.isAlpha_eq_false_of_joins hJoins (hWord.2.1 _ (List.head_mem hw))
  · intro b hb
    obtain ⟨-, hBehind, -⟩ := List.isChain_append.mp hSeams
    cases behind with
    | nil => cases hb
    | cons v behind =>
      obtain ⟨hw, hv, hJoins⟩ := (List.isChain_cons_cons.mp hBehind).1
      rw [List.flatten_cons, List.head?_append_of_ne_nil _ hv, List.head?_eq_some_head hv] at hb
      rw [← Option.some.inj hb]
      exact Lexeme.isAlpha_eq_false_of_joins hJoins (hWord.2.1 _ (List.getLast_mem hw))

/-- When reading fails, the source can be read up to the place that is reported. -/
theorem exists_unknownAt {source : String} {e : EvaluationError}
    (h : readTokens source = .error e) :
    ∃ front w rest, e = .unknownSymbol w ∧ UnknownAt source front w rest := by
  obtain ⟨before, w, behind, ts, hLexemes, hTokens, hRead, rfl⟩ :=
    Lexeme.exists_unknown_of_tokens h
  obtain ⟨hText, hSome, hRuns, hSeams⟩ := List.splitBy_eq_iff.mp hLexemes
  refine ⟨.ofList before.flatten, .ofList w, .ofList behind.flatten, rfl, ?_, ⟨ts, ?_⟩, ?_⟩
  · rw [← String.toList_inj, hText]
    simp
  · -- the lexemes in front of the unknown one are those of the text in front of it
    have hSplit : Lexeme.split before.flatten = before := by
      refine List.splitBy_flatten (fun hNil => hSome (List.mem_append_left _ hNil))
        (fun u hu => hRuns u (List.mem_append_left _ hu)) hSeams.left_of_append
    rw [readTokens, String.toList_ofList, hSplit, hTokens]
  · simp only [String.toList_ofList]
    exact isUnknownBetween_of_lexemes (hRuns w (by simp)) hSeams hRead

/-- **Unknown symbols.** Reading fails exactly if the source can be read up to a text that is
unknown where it stands, a foreign character or a whole run of letters that names no function,
and then it reports this text. There is one such place at most. -/
theorem readTokens_eq_error_iff (source : String) :
    (∀ e, readTokens source = .error e ↔
      ∃ front w rest, e = .unknownSymbol w ∧ UnknownAt source front w rest) ∧
    ∀ front w rest front' w' rest', UnknownAt source front w rest →
      UnknownAt source front' w' rest' → front' = front ∧ w' = w ∧ rest' = rest := by
  refine ⟨fun e => ⟨exists_unknownAt, ?_⟩, fun _ _ _ _ _ _ => UnknownAt.unique⟩
  rintro ⟨front, w, rest, rfl, hPlace⟩
  exact hPlace.readTokens_eq

/-- A run of letters is reported as a whole, also if it begins with the name of a function, and
the foreign character behind it is not. -/
theorem readTokens_eq_error_sinx :
    readTokens "2 sinx % 3" = .error (.unknownSymbol "sinx") ∧
      ∀ front w rest, UnknownAt "2 sinx % 3" front w rest →
        front = "2 " ∧ w = "sinx" ∧ rest = " % 3" := by
  have hWord : IsUnknownWord "sinx".toList := by
    refine ⟨by decide, List.forall_iff_forall_mem.mp (by decide), fun f => ?_⟩
    cases f <;> decide
  have hPlace : UnknownAt "2 sinx % 3" "2 " "sinx" " % 3" := by
    refine ⟨rfl, ⟨[.number "2"], by decide⟩, Or.inr ⟨hWord, ?_, ?_⟩⟩
    · rintro a ⟨⟩
      rfl
    · rintro a ⟨⟩
      rfl
  obtain ⟨hError, hUnique⟩ := readTokens_eq_error_iff "2 sinx % 3"
  exact ⟨(hError _).mpr ⟨"2 ", "sinx", " % 3", rfl, hPlace⟩, fun front w rest h =>
    hUnique _ _ _ front w rest hPlace h⟩

end PocketCalculator
