import ChainProduct.Text.CodeRange

/-!
# Blank characters

The characters with the property White_Space, the removal of blanks from both ends of a text, and
the words of a text, which are its parts between blanks. Main statements: every ASCII white space
character is blank (`isBlank_of_isWhitespace`), a trimmed text neither starts nor ends with a blank
(`not_isBlank_of_head?_trim`, `not_isBlank_of_getLast?_trim`), and it holds a blank exactly when it
has two words or more (`two_le_length_words_iff`).
-/

namespace ChainProduct.Text

/-- The code points with the property White_Space. -/
def whiteSpace : CodeRanges :=
  [(0x09, 0x0d), (0x20, 0x20), (0x85, 0x85), (0xa0, 0xa0), (0x1680, 0x1680), (0x2000, 0x200a),
    (0x2028, 0x2029), (0x202f, 0x202f), (0x205f, 0x205f), (0x3000, 0x3000)]

/-- The character has the property White_Space. -/
def isBlank (c : Char) : Bool :=
  isIn whiteSpace c

/-- The text without its trailing blanks. -/
def trimEnd (text : List Char) : List Char :=
  (text.reverse.dropWhile isBlank).reverse

/-- The text without the blanks at its start and at its end. -/
def trim (text : List Char) : List Char :=
  trimEnd (text.dropWhile isBlank)

/-- What is white space in ASCII is blank. -/
theorem isBlank_of_isWhitespace {c : Char} (h : c.isWhitespace) : isBlank c := by
  simp only [Char.isWhitespace, Bool.or_eq_true, decide_eq_true_eq] at h
  rcases h with ((rfl | rfl) | rfl) | rfl <;> decide

/-- No digit is blank. -/
theorem not_isBlank_of_isDigit {c : Char} (h : c.isDigit) : isBlank c = false := by
  obtain ⟨hlow, hhigh⟩ : 48 ≤ c.toNat ∧ c.toNat ≤ 57 := Char.isDigit_iff_toNat.mp h
  refine Bool.eq_false_iff.mpr fun hblank ↦ ?_
  obtain ⟨range, hrange, hfirst, hlast⟩ := isIn_iff.mp hblank
  simp only [whiteSpace, List.mem_cons, List.not_mem_nil, or_false] at hrange
  rcases hrange with rfl | rfl | rfl | rfl | rfl | rfl | rfl | rfl | rfl | rfl <;> omega

/-- What is left without leading blanks does not start with a blank. -/
theorem not_isBlank_of_head?_dropWhile {text : List Char} {c : Char}
    (h : (text.dropWhile isBlank).head? = some c) : isBlank c = false := by
  have := List.head?_dropWhile_not isBlank text
  simpa [h] using this

/-- A trimmed text does not end with a blank. -/
theorem not_isBlank_of_getLast?_trim {text : List Char} {c : Char}
    (h : (trim text).getLast? = some c) : isBlank c = false := by
  have hlast : ((text.dropWhile isBlank).reverse.dropWhile isBlank).head? = some c := by
    simpa [trim, trimEnd] using h
  exact not_isBlank_of_head?_dropWhile hlast

/-- What is left without trailing blanks is a first part of the text. -/
theorem trimEnd_isPrefix (text : List Char) : trimEnd text <+: text := by
  have h := List.dropWhile_suffix (l := text.reverse) isBlank
  simpa [trimEnd] using List.reverse_prefix.mpr h

/-- A trimmed text does not start with a blank. -/
theorem not_isBlank_of_head?_trim {text : List Char} {c : Char}
    (h : (trim text).head? = some c) : isBlank c = false := by
  obtain ⟨rest, hrest⟩ := trimEnd_isPrefix (text.dropWhile isBlank)
  have hhead : (text.dropWhile isBlank).head? = some c := by
    rw [← hrest, List.head?_append]
    simp [show (trimEnd (text.dropWhile isBlank)).head? = some c from h]
  exact not_isBlank_of_head?_dropWhile hhead

/-- Nothing is left without leading blanks exactly when all of the text is blank. -/
theorem dropWhile_isBlank_eq_nil_iff {text : List Char} :
    text.dropWhile isBlank = [] ↔ ∀ c ∈ text, isBlank c := by
  induction text with
  | nil => simp
  | cons c rest ih =>
      cases hc : isBlank c <;> simp [hc, ih]

/-- Nothing is left without trailing blanks exactly when all of the text is blank. -/
theorem trimEnd_eq_nil_iff {text : List Char} : trimEnd text = [] ↔ ∀ c ∈ text, isBlank c := by
  rw [trimEnd, List.reverse_eq_nil_iff, dropWhile_isBlank_eq_nil_iff]
  simp

/-- Nothing is left of a text exactly when all of it is blank. -/
theorem trim_eq_nil_iff {text : List Char} : trim text = [] ↔ ∀ c ∈ text, isBlank c := by
  rw [trim, trimEnd_eq_nil_iff]
  constructor
  · intro h
    apply dropWhile_isBlank_eq_nil_iff.mp
    cases hrest : text.dropWhile isBlank with
    | nil => rfl
    | cons c rest =>
        have hc : isBlank c = false := not_isBlank_of_head?_dropWhile (by rw [hrest]; rfl)
        have := h c (by simp [hrest])
        simp [hc] at this
  · intro h
    simp [dropWhile_isBlank_eq_nil_iff.mpr h]

/-! ## Words -/

/-- The words of a text: its parts between blanks. -/
def words (text : List Char) : List (List Char) :=
  (text.splitOnP isBlank).filter (· ≠ [])

/-- A blank separates words. -/
theorem words_append_cons {c : Char} (h : isBlank c) (before after : List Char) :
    words (before ++ c :: after) = words before ++ words after := by
  rw [words, List.splitOnP_append_cons before after h, List.filter_append]
  rfl

/-- A text without blanks is a word, if there is anything of it. -/
theorem words_eq_singleton {text : List Char} (htext : text ≠ [])
    (h : ∀ c ∈ text, isBlank c = false) : words text = [text] := by
  rw [words, List.splitOnP_eq_singleton h]
  simp [htext]

/-- A word starts where a text starts with another character than a blank. -/
theorem words_cons_ne_nil {c : Char} (h : isBlank c = false) (rest : List Char) :
    words (c :: rest) ≠ [] := by
  obtain ⟨first, more, hparts⟩ :=
    List.exists_cons_of_ne_nil (List.splitOnP_ne_nil isBlank rest)
  rw [words, List.splitOnP_cons_eq_if_modifyHead, hparts]
  simp [h]

/-- Leading blanks are part of no word. -/
theorem words_dropWhile (text : List Char) : words (text.dropWhile isBlank) = words text := by
  induction text with
  | nil => rfl
  | cons c rest ih =>
      cases hc : isBlank c with
      | false => simp [hc]
      | true =>
          rw [List.dropWhile_cons_of_pos hc, ih]
          exact (words_append_cons hc [] rest).symm

/-- A text has no words exactly when all of it is blank. -/
theorem words_eq_nil_iff {text : List Char} : words text = [] ↔ ∀ c ∈ text, isBlank c := by
  rw [← dropWhile_isBlank_eq_nil_iff, ← words_dropWhile]
  cases hrest : text.dropWhile isBlank with
  | nil => simp [words]
  | cons c rest =>
      have hc : isBlank c = false := not_isBlank_of_head?_dropWhile (by rw [hrest]; rfl)
      simp [words_cons_ne_nil hc]

/-- Trailing blanks are part of no word. -/
theorem words_trimEnd (text : List Char) : words (trimEnd text) = words text := by
  obtain ⟨blanks, hblanks, htext⟩ :
      ∃ blanks, (∀ c ∈ blanks, isBlank c) ∧ text = trimEnd text ++ blanks := by
    refine ⟨(text.reverse.takeWhile isBlank).reverse, fun c hc ↦ ?_, ?_⟩
    · exact List.all_eq_true.mp List.all_takeWhile c (List.mem_reverse.mp hc)
    · rw [trimEnd, ← List.reverse_append, List.takeWhile_append_dropWhile, List.reverse_reverse]
  cases blanks with
  | nil =>
      rw [List.append_nil] at htext
      rw [← htext]
  | cons c rest =>
      have hrest : words rest = [] :=
        words_eq_nil_iff.mpr fun d hd ↦ hblanks d (List.mem_cons_of_mem c hd)
      have hwords := words_append_cons (hblanks c List.mem_cons_self) (trimEnd text) rest
      rw [← htext, hrest, List.append_nil] at hwords
      exact hwords.symm

/-- Trimming a text leaves its words. -/
theorem words_trim (text : List Char) : words (trim text) = words text := by
  rw [trim, words_trimEnd, words_dropWhile]

/-- A text has two words or more exactly when a blank is left between its first and its last
character that are not blank. -/
theorem two_le_length_words_iff {text : List Char} :
    2 ≤ (words text).length ↔ (trim text).any isBlank := by
  rw [← words_trim]
  constructor
  · intro hlength
    cases hany : (trim text).any isBlank with
    | true => rfl
    | false =>
        by_cases htrim : trim text = []
        · simp [htrim, words] at hlength
        · rw [words_eq_singleton htrim (by simpa using hany)] at hlength
          simp at hlength
  · intro hany
    obtain ⟨c, hmem, hc⟩ := List.any_eq_true.mp hany
    obtain ⟨before, after, hparts⟩ := List.append_of_mem hmem
    -- The blank is neither the first nor the last character, so there are words on both sides.
    have hbefore : words before ≠ [] := by
      cases before with
      | nil =>
          have hhead : (trim text).head? = some c := by simp [hparts]
          have hfirst := not_isBlank_of_head?_trim hhead
          simp [hc] at hfirst
      | cons first rest =>
          exact words_cons_ne_nil
            (not_isBlank_of_head?_trim (show (trim text).head? = some first by simp [hparts])) rest
    have hafter : words after ≠ [] := by
      intro hnil
      have hblanks : ∀ d ∈ c :: after, isBlank d :=
        List.forall_mem_cons.mpr ⟨hc, words_eq_nil_iff.mp hnil⟩
      have hlast :
          (trim text).getLast? = some ((c :: after).getLast (List.cons_ne_nil c after)) := by
        simp [hparts, List.getLast?_eq_some_getLast]
      have hend := hblanks _ (List.getLast_mem (List.cons_ne_nil c after))
      simp [not_isBlank_of_getLast?_trim hlast] at hend
    rw [hparts, words_append_cons hc, List.length_append]
    have := List.length_pos_iff.mpr hbefore
    have := List.length_pos_iff.mpr hafter
    omega

end ChainProduct.Text
