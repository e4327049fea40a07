import PocketCalculator.Proofs.Lexemes

/-!
# PocketCalculator — spellings

A text *spells* tokens if it consists of their texts in order, with blanks in front of
them, between them and behind them. Blanks may be missing everywhere but between two
numbers and between two functions, whose texts would run together.

The characters of a token tell its kind: numeral characters belong to numbers, letters to
functions. So two characters of different tokens join exactly where the tokens would run
together, and the lexemes of a text that spells tokens are the texts of these tokens and
single blanks.

* `Lexeme.text_of_read`, `Lexeme.read_text` — a lexeme is read as a token exactly if it is its
  text.
* `Lexeme.tokens_split_spaced`, `Lexeme.spells_of_tokens` — from the spelling to the
  tokens and back.
* `readTokens_iff_spells` — reading gives the one list of tokens that a text spells.
-/

namespace PocketCalculator

namespace Token

/-- Whether the text of a token is one that an expression can have: numbers are written
with digits and points, of which there is at least one. -/
def WellSpelled : Token → Prop
  | number text => text ≠ "" ∧ ∀ c ∈ text.toList, isNumeral c = true
  | _ => True

/-- Whether two tokens would run together if nothing stood between them. -/
def fuses (t u : Token) : Bool :=
  t.isNumber && u.isNumber || t.isFunction && u.isFunction

/-- The texts of tokens one after the other. -/
def texts (ts : List Token) : String :=
  .join (ts.map text)

theorem toList_texts (ts : List Token) :
    (texts ts).toList = ts.flatMap fun t => t.text.toList := by
  rw [texts, String.toList_join, List.flatMap_map]

end Token

/-- The text of tokens, each with the blanks behind it. -/
def spaced (pieces : List (Token × List Char)) : List Char :=
  pieces.flatMap fun p => p.1.text.toList ++ p.2

/-- Whether a text consists of the texts of tokens in order and of blanks, where blanks must
stand between two numbers and between two functions. -/
def Spells (cs : List Char) (ts : List Token) : Prop :=
  ∃ (lead : List Char) (pieces : List (Token × List Char)),
    (∀ c ∈ lead, isBlank c = true) ∧
    (∀ p ∈ pieces, p.1.WellSpelled ∧ ∀ c ∈ p.2, isBlank c = true) ∧
    (pieces.IsChain fun p q => p.1.fuses q.1 = true → p.2 ≠ []) ∧
    pieces.map Prod.fst = ts ∧
    cs = lead ++ spaced pieces

-- ---------------------------------------------------------------------------
-- Classes of characters
-- ---------------------------------------------------------------------------

/-- No digit and no point is a letter. -/
theorem isAlpha_of_isNumeral {c : Char} (h : isNumeral c = true) : c.isAlpha = false := by
  simp only [isNumeral, Char.isDigit, Bool.or_eq_true, Bool.and_eq_true, decide_eq_true_eq] at h
  rcases h with ⟨-, hNine⟩ | rfl
  · show (decide ('A'.val ≤ c.val ∧ c.val ≤ 'Z'.val) ||
      (decide ('a'.val ≤ c.val) && decide (c.val ≤ 'z'.val))) = false
    grind
  · decide

/-- A blank belongs to no number and to no name. -/
theorem classes_of_isBlank {c : Char} (h : isBlank c = true) :
    isNumeral c = false ∧ c.isAlpha = false := by
  simp only [isBlank, Bool.or_eq_true, decide_eq_true_eq] at h
  rcases h with (((rfl | rfl) | rfl) | rfl) | rfl <;> decide

theorem isBlank_of_isNumeral {c : Char} (h : isNumeral c = true) : isBlank c = false := by
  rw [Bool.eq_false_iff]
  intro hBlank
  simp [(classes_of_isBlank hBlank).1] at h

namespace Token

/-- The characters of a token tell its kind, and none of them is blank. -/
theorem classes_of_mem_text {t : Token} (ht : t.WellSpelled) :
    ∀ c ∈ t.text.toList,
      isNumeral c = t.isNumber ∧ c.isAlpha = t.isFunction ∧ isBlank c = false := by
  cases t with
  | number text =>
    intro c hc
    have hNumeral := ht.2 c hc
    exact ⟨hNumeral, isAlpha_of_isNumeral hNumeral, isBlank_of_isNumeral hNumeral⟩
  | operator op => cases op <;> exact List.forall_iff_forall_mem.mp (by decide)
  | function f => cases f <;> exact List.forall_iff_forall_mem.mp (by decide)
  | leftParen | rightParen => exact List.forall_iff_forall_mem.mp (by decide)

/-- The text of a token is never empty. -/
theorem text_ne_nil {t : Token} (ht : t.WellSpelled) : t.text.toList ≠ [] := by
  cases t with
  | number text => exact mt String.toList_eq_nil_iff.mp ht.1
  | operator op => cases op <;> decide
  | function f => cases f <;> decide
  | leftParen | rightParen => decide

end Token

namespace Lexeme

/-- Characters of two tokens join exactly where the tokens would run together. -/
theorem joins_eq_fuses {t u : Token} (ht : t.WellSpelled) (hu : u.WellSpelled) {a b : Char}
    (ha : a ∈ t.text.toList) (hb : b ∈ u.text.toList) : joins a b = t.fuses u := by
  obtain ⟨hNumeral, hAlpha, -⟩ := Token.classes_of_mem_text ht a ha
  obtain ⟨hNumeral', hAlpha', -⟩ := Token.classes_of_mem_text hu b hb
  rw [joins, hNumeral, hAlpha, hNumeral', hAlpha', Token.fuses]

/-- A character that is neither a digit nor a letter joins with none. -/
theorem joins_eq_false {a : Char} (hNumeral : isNumeral a = false) (hAlpha : a.isAlpha = false)
    (b : Char) : joins a b = false := by
  rw [joins, hNumeral, hAlpha]
  rfl

theorem joins_blank {c : Char} (hc : isBlank c = true) (d : Char) : joins c d = false :=
  joins_eq_false (classes_of_isBlank hc).1 (classes_of_isBlank hc).2 d

/-- A lexeme is a run of numeral characters, a run of letters, or a single character. -/
theorem run_cases {c : Char} {cs : List Char}
    (h : (c :: cs).IsChain fun a b => joins a b = true) :
    (∀ d ∈ c :: cs, isNumeral d = true) ∨ (∀ d ∈ c :: cs, d.isAlpha = true) ∨
      (isNumeral c = false ∧ c.isAlpha = false ∧ cs = []) := by
  -- the first character decides: its class goes on to the next as long as they join
  by_cases hNumeral : isNumeral c = true
  · refine Or.inl (h.induction (isNumeral · = true) _ ?_ fun _ => hNumeral)
    intro a b hJoins ha
    simpa [joins, ha, isAlpha_of_isNumeral ha] using hJoins
  · by_cases hAlpha : c.isAlpha = true
    · refine Or.inr (Or.inl (h.induction (·.isAlpha = true) _ ?_ fun _ => hAlpha))
      intro a b hJoins ha
      have hNot : isNumeral a = false := by
        rw [Bool.eq_false_iff]
        intro hDigit
        simp [isAlpha_of_isNumeral hDigit] at ha
      simpa [joins, ha, hNot] using hJoins
    · simp only [Bool.not_eq_true] at hNumeral hAlpha
      refine Or.inr (Or.inr ⟨hNumeral, hAlpha, ?_⟩)
      cases cs with
      | nil => rfl
      | cons d cs =>
        have hJoins := (List.isChain_cons_cons.mp h).1
        simp [joins_eq_false hNumeral hAlpha d] at hJoins

/-- The text of a token is one lexeme. -/
theorem isChain_text {t : Token} (ht : t.WellSpelled) :
    t.text.toList.IsChain fun a b => joins a b = true := by
  cases t with
  | number text =>
    have hJoins : ∀ a ∈ text.toList, ∀ b ∈ text.toList, joins a b = true := by
      intro a ha b hb
      rw [joins, ht.2 a ha, ht.2 b hb]
      rfl
    exact (List.pairwise_of_forall_mem_list hJoins).isChain
  | operator op => cases op <;> decide
  | function f => cases f <;> decide
  | leftParen | rightParen => decide

-- ---------------------------------------------------------------------------
-- Single lexemes
-- ---------------------------------------------------------------------------

/-- A sign or a parenthesis is the whole text of its token. -/
theorem text_of_sign? {c : Char} {t : Token} (h : sign? c = some t) :
    t.WellSpelled ∧ t.text.toList = [c] := by
  unfold sign? at h
  split at h
  · cases h
    exact ⟨trivial, rfl⟩
  · cases h
    exact ⟨trivial, rfl⟩
  · obtain ⟨op, hOp, rfl⟩ := Option.map_eq_some_iff.mp h
    rw [Operator.ofSymbol?_eq_some_iff.mp hOp]
    exact ⟨trivial, by simp [Token.text]⟩

theorem read_blank {c : Char} (h : isBlank c = true) (cs : List Char) :
    read (c :: cs) = .blank := by
  rw [read, if_pos h]

theorem read_numerals {c : Char} (h : isNumeral c = true) (cs : List Char) :
    read (c :: cs) = .token (.number (.ofList (c :: cs))) := by
  simp [read, h, isBlank_of_isNumeral h]

/-- A run of letters is read as the function that it names, if it names one. -/
theorem read_letters {c : Char} (h : c.isAlpha = true) (cs : List Char) :
    read (c :: cs) =
      (NamedFunction.ofName? (.ofList (c :: cs))).elim .unknown (.token <| .function ·) := by
  -- letters are neither numeral nor blank, so the first two tests of the reader fail
  have hNumeral : isNumeral c = false := by
    rw [Bool.eq_false_iff]
    intro hNumeral
    simp [isAlpha_of_isNumeral hNumeral] at h
  have hBlank : isBlank c = false := by
    rw [Bool.eq_false_iff]
    intro hBlank
    simp [(classes_of_isBlank hBlank).2] at h
  simp only [read, h, hNumeral, hBlank, Bool.false_eq_true, if_false, if_true]
  cases NamedFunction.ofName? (.ofList (c :: cs)) <;> rfl

/-- Any other character is read as the sign or the parenthesis that it is, if it is one. -/
theorem read_other {c : Char} (hBlank : isBlank c = false) (hNumeral : isNumeral c = false)
    (hAlpha : c.isAlpha = false) (cs : List Char) :
    read (c :: cs) = (sign? c).elim .unknown .token := by
  simp only [read, hBlank, hNumeral, hAlpha, Bool.false_eq_true, if_false]
  cases sign? c <;> rfl

/-- A lexeme is read as a token only if it is the text of this token. -/
theorem text_of_read {w : Lexeme} {t : Token} (hw : w.IsChain fun a b => joins a b = true)
    (h : w.read = .token t) : t.WellSpelled ∧ t.text.toList = w := by
  match w, hw, h with
  | c :: cs, hw, h =>
    by_cases hBlank : isBlank c = true
    · simp [read_blank hBlank] at h
    -- the class of the first character tells how the reader takes the lexeme
    rcases run_cases hw with hRun | hRun | ⟨hNumeral, hAlpha, rfl⟩
    · rw [read_numerals (hRun c List.mem_cons_self)] at h
      cases h
      exact ⟨⟨by simp, by simpa using hRun⟩, String.toList_ofList⟩
    · rw [read_letters (hRun c List.mem_cons_self)] at h
      cases hName : NamedFunction.ofName? (.ofList (c :: cs)) with
      | none =>
        rw [hName] at h
        cases h
      | some f =>
        rw [hName] at h
        cases h
        refine ⟨trivial, ?_⟩
        rw [Token.text, ← NamedFunction.ofName?_eq_some_iff.mp hName, String.toList_ofList]
    · rw [read_other (by simpa using hBlank) hNumeral hAlpha] at h
      cases hSign : sign? c with
      | none =>
        rw [hSign] at h
        cases h
      | some u =>
        rw [hSign] at h
        cases h
        exact text_of_sign? hSign

/-- Only blanks are read as blank. -/
theorem isBlank_of_read {w : Lexeme} (hw : w.IsChain fun a b => joins a b = true)
    (h : w.read = .blank) : ∀ c ∈ w, isBlank c = true := by
  match w, hw, h with
  | [], _, _ => simp
  | c :: cs, hw, h =>
    by_cases hBlank : isBlank c = true
    · obtain ⟨hNumeral, hAlpha⟩ := classes_of_isBlank hBlank
      rcases run_cases hw with hRun | hRun | ⟨-, -, rfl⟩
      · simp [hRun c List.mem_cons_self] at hNumeral
      · simp [hRun c List.mem_cons_self] at hAlpha
      · simpa using hBlank
    · -- what begins with another character is a token or unknown
      exfalso
      rcases run_cases hw with hRun | hRun | ⟨hNumeral, hAlpha, -⟩
      · rw [read_numerals (hRun c List.mem_cons_self)] at h
        cases h
      · rw [read_letters (hRun c List.mem_cons_self)] at h
        cases hName : NamedFunction.ofName? (.ofList (c :: cs)) <;> rw [hName] at h <;> cases h
      · rw [read_other (by simpa using hBlank) hNumeral hAlpha] at h
        cases hSign : sign? c <;> rw [hSign] at h <;> cases h

/-- The text of a token is read as this token. -/
theorem read_text {t : Token} (ht : t.WellSpelled) : read t.text.toList = .token t := by
  cases t with
  | number text =>
    cases hText : text.toList with
    | nil => exact absurd (String.toList_eq_nil_iff.mp hText) ht.1
    | cons c cs =>
      have hc : isNumeral c = true := ht.2 c (by rw [hText]; exact List.mem_cons_self)
      rw [Token.text, hText, read_numerals hc, ← hText, String.ofList_toList]
  | operator op => cases op <;> rfl
  | function f => cases f <;> rfl
  | leftParen | rightParen => rfl

-- ---------------------------------------------------------------------------
-- From the spelling to the tokens
-- ---------------------------------------------------------------------------

/-- Blanks in front of a text give no tokens. -/
theorem tokens_split_blanks {lead : List Char} (h : ∀ c ∈ lead, isBlank c = true)
    (cs : List Char) : tokens (split (lead ++ cs)) = tokens (split cs) := by
  induction lead with
  | nil => rfl
  | cons c lead ih =>
    have hBlank := h c List.mem_cons_self
    have hSeam : ∀ a ∈ [c].getLast?, ∀ b ∈ (lead ++ cs).head?, joins a b = false := by
      intro a ha b _
      rw [← Option.some.inj ha]
      exact joins_blank hBlank b
    -- a blank joins with nothing, so it is a lexeme of its own
    rw [List.cons_append, ← List.singleton_append, split_append hSeam]
    show tokens ([c] :: split (lead ++ cs)) = _
    rw [tokens, read_blank hBlank]
    exact ih fun d hd => h d (List.mem_cons_of_mem c hd)

/-- A token in front of a text with which its own does not join is read first. -/
theorem tokens_split_text {t : Token} (ht : t.WellSpelled) {cs : List Char}
    (hSeam : ∀ a ∈ t.text.toList, ∀ b ∈ cs.head?, joins a b = false) :
    tokens (split (t.text.toList ++ cs)) = (tokens (split cs)).map (t :: ·) := by
  have hRun : split t.text.toList = [t.text.toList] :=
    List.splitBy_of_isChain (Token.text_ne_nil ht) (isChain_text ht)
  rw [split_append fun a ha b hb => hSeam a (List.mem_of_getLast? ha) b hb, hRun,
    List.singleton_append, tokens, read_text ht]

/-- A spelling begins with the first character of its first token. -/
theorem head?_spaced {u : Token} (hu : u.WellSpelled) (blanks : List Char)
    (pieces : List (Token × List Char)) :
    (spaced ((u, blanks) :: pieces)).head? = u.text.toList.head? := by
  rw [spaced, List.flatMap_cons, List.append_assoc]
  exact List.head?_append_of_ne_nil _ (Token.text_ne_nil hu)

/-- What stands behind a token does not join with it. -/
theorem joins_spaced {t : Token} {blanks : List Char} {pieces : List (Token × List Char)}
    (hPieces : ∀ p ∈ (t, blanks) :: pieces,
      p.1.WellSpelled ∧ ∀ c ∈ p.2, isBlank c = true)
    (hChain : ((t, blanks) :: pieces).IsChain fun p q => p.1.fuses q.1 = true → p.2 ≠ []) :
    ∀ a ∈ t.text.toList, ∀ b ∈ (blanks ++ spaced pieces).head?, joins a b = false := by
  intro a ha b hb
  obtain ⟨ht, hBlanks⟩ := hPieces _ List.mem_cons_self
  match blanks, pieces with
  -- either a blank stands behind the token, or the next token does not run together with it
  | c :: blanks, pieces =>
    rw [← Option.some.inj hb, joins_comm]
    exact joins_blank (hBlanks c List.mem_cons_self) a
  | [], [] => simp [spaced] at hb
  | [], (u, blanks') :: pieces =>
    obtain ⟨hu, -⟩ := hPieces _ (List.mem_cons_of_mem _ List.mem_cons_self)
    rw [List.nil_append, head?_spaced hu] at hb
    rw [joins_eq_fuses ht hu ha (List.mem_of_head? hb), Bool.eq_false_iff]
    intro hFuses
    exact (List.isChain_cons_cons.mp hChain).1 hFuses rfl

/-- **Reading a spelling.** Tokens with enough blanks between them are read as these tokens. -/
theorem tokens_split_spaced {pieces : List (Token × List Char)}
    (hPieces : ∀ p ∈ pieces, p.1.WellSpelled ∧ ∀ c ∈ p.2, isBlank c = true)
    (hChain : pieces.IsChain fun p q => p.1.fuses q.1 = true → p.2 ≠ []) :
    tokens (split (spaced pieces)) = .ok (pieces.map Prod.fst) := by
  induction pieces with
  | nil => rfl
  | cons p pieces ih =>
    obtain ⟨t, blanks⟩ := p
    obtain ⟨ht, hBlanks⟩ := hPieces _ List.mem_cons_self
    -- the blanks behind the first token end its lexeme and are skipped, and the others are read
    -- as before
    have hRest := ih (fun q hq => hPieces q (List.mem_cons_of_mem _ hq)) hChain.tail
    have hSpaced : spaced ((t, blanks) :: pieces) =
        t.text.toList ++ (blanks ++ spaced pieces) := by
      simp [spaced]
    rw [hSpaced, tokens_split_text ht (joins_spaced hPieces hChain),
      tokens_split_blanks hBlanks, hRest]
    rfl

end Lexeme

-- ---------------------------------------------------------------------------
-- From the tokens to the spelling
-- ---------------------------------------------------------------------------

namespace Spells

theorem nil : Spells [] [] :=
  ⟨[], [], by simp, by simp, List.isChain_nil, rfl, rfl⟩

/-- Blanks can be put in front of a spelling. -/
theorem blanks {cs : List Char} {ts : List Token} (h : Spells cs ts) {bs : List Char}
    (hBlanks : ∀ b ∈ bs, isBlank b = true) : Spells (bs ++ cs) ts := by
  obtain ⟨lead, pieces, hLead, hPieces, hChain, hTokens, rfl⟩ := h
  refine ⟨bs ++ lead, pieces, ?_, hPieces, hChain, hTokens, (List.append_assoc ..).symm⟩
  intro b hb
  rcases List.mem_append.mp hb with hb | hb
  · exact hBlanks b hb
  · exact hLead b hb

/-- A token in front of a spelling adds to it if it does not join with what follows. -/
theorem token {cs : List Char} {ts : List Token} (h : Spells cs ts) {t : Token}
    (ht : t.WellSpelled)
    (hSeam : ∀ a ∈ t.text.toList.getLast?, ∀ b ∈ cs.head?, Lexeme.joins a b = false) :
    Spells (t.text.toList ++ cs) (t :: ts) := by
  obtain ⟨lead, pieces, hLead, hPieces, hChain, rfl, rfl⟩ := h
  -- the leading blanks of the spelling become those behind the new token
  refine ⟨[], (t, lead) :: pieces, by simp, List.forall_mem_cons.mpr ⟨⟨ht, hLead⟩, hPieces⟩,
    List.isChain_cons.mpr ⟨?_, hChain⟩, rfl, by simp [spaced]⟩
  -- with no blanks between, the last character of `t` would join with the first of `u`
  rintro ⟨u, blanks⟩ hHead hFuses rfl
  obtain ⟨rest, rfl⟩ := List.head?_eq_some_iff.mp hHead
  obtain ⟨hu, -⟩ := hPieces _ List.mem_cons_self
  have hLast := List.getLast_mem_getLast? (Token.text_ne_nil ht)
  have hFirst := List.head_mem_head? (Token.text_ne_nil hu)
  have hJoins := hSeam _ hLast _ (by rwa [List.nil_append, Lexeme.head?_spaced hu])
  rw [Lexeme.joins_eq_fuses ht hu (List.mem_of_getLast? hLast) (List.mem_of_head? hFirst),
    hFuses] at hJoins
  cases hJoins

/-- The characters that are not blank are those of the tokens. -/
theorem filter_isBlank {cs : List Char} {ts : List Token} (h : Spells cs ts) :
    (cs.filter fun c => !isBlank c) = (Token.texts ts).toList := by
  obtain ⟨lead, pieces, hLead, hPieces, -, rfl, rfl⟩ := h
  have hNone : ∀ bs : List Char, (∀ c ∈ bs, isBlank c = true) →
      (bs.filter fun c => !isBlank c) = [] := by
    intro bs hBlanks
    simpa [List.filter_eq_nil_iff] using hBlanks
  rw [List.filter_append, hNone lead hLead, List.nil_append, Token.toList_texts, List.flatMap_map]
  -- piece by piece: the text of a token stays, the blanks behind it go
  induction pieces with
  | nil => rfl
  | cons p pieces ih =>
    obtain ⟨ht, hBlanks⟩ := hPieces p List.mem_cons_self
    have hAll : (p.1.text.toList.filter fun c => !isBlank c) = p.1.text.toList := by
      rw [List.filter_eq_self]
      intro c hc
      rw [(Token.classes_of_mem_text ht c hc).2.2]
      rfl
    rw [spaced, List.flatMap_cons, List.flatMap_cons, List.filter_append, List.filter_append,
      hAll, hNone p.2 hBlanks, List.append_nil]
    exact congrArg _ (ih fun q hq => hPieces q (List.mem_cons_of_mem p hq))

end Spells

namespace Lexeme

/-- The lexemes that are read as tokens and blanks spell these tokens. -/
theorem spells_of_tokens {ws : List Lexeme}
    (hRuns : ∀ w ∈ ws, w.IsChain fun a b => joins a b = true)
    (hSeams : ws.IsChain fun v w => ∃ hv hw, joins (v.getLast hv) (w.head hw) = false)
    {ts : List Token} (h : tokens ws = .ok ts) : Spells ws.flatten ts := by
  -- from the end, so that the spelling of the rest is known when its first lexeme is read
  induction ws generalizing ts with
  | nil =>
    cases h
    exact Spells.nil
  | cons w ws ih =>
    have hRun := hRuns w List.mem_cons_self
    have hRest : ∀ us, tokens ws = .ok us → Spells ws.flatten us := fun us =>
      ih (fun v hv => hRuns v (List.mem_cons_of_mem w hv)) hSeams.tail
    rw [List.flatten_cons]
    rw [tokens] at h
    cases hRead : w.read with
    | unknown =>
      rw [hRead] at h
      cases h
    | blank =>
      rw [hRead] at h
      exact (hRest ts h).blanks (isBlank_of_read hRun hRead)
    | token t =>
      rw [hRead] at h
      cases hTokens : tokens ws with
      | error e => simp [hTokens, Except.map] at h
      | ok us =>
        simp only [hTokens, Except.map, Except.ok.injEq] at h
        obtain ⟨ht, rfl⟩ := text_of_read hRun hRead
        rw [← h]
        -- the seam between two lexemes is where the new token does not join with what follows
        refine (hRest us hTokens).token ht ?_
        intro a ha b hb
        cases ws with
        | nil => simp at hb
        | cons v ws =>
          obtain ⟨hw, hv, hJoins⟩ := (List.isChain_cons_cons.mp hSeams).1
          rw [List.flatten_cons, List.head?_append_of_ne_nil _ hv] at hb
          rwa [List.getLast_of_mem_getLast? ha, List.head_of_mem_head? hb] at hJoins

end Lexeme

/-- A source that spells tokens is read as these. -/
theorem readTokens_of_spells {source : String} {ts : List Token}
    (h : Spells source.toList ts) : readTokens source = .ok ts := by
  obtain ⟨lead, pieces, hLead, hPieces, hChain, rfl, hText⟩ := h
  rw [readTokens, hText, Lexeme.tokens_split_blanks hLead,
    Lexeme.tokens_split_spaced hPieces hChain]

/-- A source that is read as tokens spells them. -/
theorem spells_of_readTokens {source : String} {ts : List Token}
    (h : readTokens source = .ok ts) : Spells source.toList ts := by
  -- the lexemes of a source are runs that do not join, and together they are the source
  have hSpells := Lexeme.spells_of_tokens (fun w hw => List.isChain_of_mem_splitBy hw)
    (List.isChain_getLast_head_splitBy Lexeme.joins source.toList) h
  rwa [List.flatten_splitBy] at hSpells

/-- The tokens of a source are spelled as their kinds are. -/
theorem wellSpelled_of_readTokens {source : String} {ts : List Token}
    (h : readTokens source = .ok ts) : ∀ t ∈ ts, t.WellSpelled := by
  obtain ⟨lead, pieces, -, hPieces, -, rfl, -⟩ := spells_of_readTokens h
  intro t ht
  obtain ⟨p, hp, rfl⟩ := List.mem_map.mp ht
  exact (hPieces p hp).1

/-- **Spelling.** Reading gives a list of tokens exactly if the source spells it. So a source
has at most one reading, and the texts of its tokens make up the source without its
blanks. -/
theorem readTokens_iff_spells (source : String) (ts : List Token) :
    (readTokens source = .ok ts ↔ Spells source.toList ts) ∧
      (Spells source.toList ts →
        (∀ us, Spells source.toList us → us = ts) ∧
        (Token.texts ts).toList = source.toList.filter fun c => !isBlank c) := by
  refine ⟨⟨spells_of_readTokens, readTokens_of_spells⟩, ?_⟩
  intro h
  refine ⟨?_, h.filter_isBlank.symm⟩
  -- both readings are what the reader gives
  intro us hOther
  have hSame := (readTokens_of_spells hOther).symm.trans (readTokens_of_spells h)
  exact Except.ok.inj hSame

/-- In ` 1. 5sin` only the blank between the two numbers is needed. -/
theorem readTokens_iff_spells_numbers :
    readTokens " 1. 5sin" = .ok [.number "1.", .number "5", .function .sin] ∧
      (Token.texts [.number "1.", .number "5", .function .sin]).toList =
        " 1. 5sin".toList.filter fun c => !isBlank c := by
  have hSpells : Spells " 1. 5sin".toList [.number "1.", .number "5", .function .sin] := by
    refine ⟨[' '], [(.number "1.", [' ']), (.number "5", []), (.function .sin, [])], ?_, ?_, ?_,
      rfl, rfl⟩
    · simp [isBlank]
    · simp [Token.WellSpelled, isNumeral, isBlank]
    · simp [Token.fuses, Token.isNumber, Token.isFunction]
  obtain ⟨hRead, hTexts⟩ :=
    readTokens_iff_spells " 1. 5sin" [.number "1.", .number "5", .function .sin]
  exact ⟨hRead.mpr hSpells, (hTexts hSpells).2⟩

end PocketCalculator
