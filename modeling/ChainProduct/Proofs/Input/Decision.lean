import ChainProduct.Proofs.Input.Format

/-!
# Lines that decide

Which lines settle what is read, told from their bytes and without a reader. `IsBadLine` says what
can be wrong with a line on which a number has to stand, and `LinesDecide` that a line is wrong in
its place, or that the matrix count and all dimensions are there. A dimension that is too large for
a chain is not wrong on its line.

The main theorem, `scan_count_eq_error_iff`, says that a scanner has decided after exactly these
lines. As with the format of an input, each stage of the scanner has one lemma, by induction on the
lines.
-/

namespace ChainProduct

/-- The greatest matrix count for which the dimensions can be counted. -/
def greatestCount : Nat := indexLimit - 2

/-- The greatest 64-bit integer with a sign. -/
def greatestInteger : Nat := 0x7fff_ffff_ffff_ffff

/-- The words on a line, unless its bytes are not UTF-8. -/
def lineWords? (line : List UInt8) : Option (List (List Char)) :=
  (lineText? line).map Text.words

/-- The lines that are not blank. A line that is not UTF-8 is none of the blank ones. -/
def nonBlankLines (lines : List (List UInt8)) : List (List UInt8) :=
  lines.filter fun line ↦ lineWords? line ≠ some []

/-- All that stands on the line is the numeral of a number from one up to the greatest. -/
def IsNumberLine (greatest : Nat) (line : List UInt8) (value : Nat) : Prop :=
  ∃ word, lineWords? line = some [word] ∧ Text.IsNumeral word value ∧ 1 ≤ value ∧ value ≤ greatest

/-- Why no such number stands on a line that is not blank. -/
inductive IsBadLine (greatest : Nat) (line : List UInt8) : Prop
  /-- The bytes are not UTF-8. -/
  | notText (h : lineWords? line = none)
  /-- More than one word stands on the line. -/
  | several {words : List (List Char)} (h : lineWords? line = some words)
      (hwords : 2 ≤ words.length)
  /-- The only word is no numeral of a natural number, or that of zero or of a greater one. -/
  | noNumber {word : List Char} (h : lineWords? line = some [word])
      (hword : ∀ value, Text.IsNumeral word value → value = 0 ∨ greatest < value)

/-- While this many dimensions are missing, the first of the lines that are not blank settle what is
read: something is wrong with the line of one dimension, or all of them are there. -/
inductive DimensionsDecide (missing : Nat) : List (List UInt8) → Prop
  | bad {dims rest : List (List UInt8)} {line : List UInt8}
      (hdims : ∀ dim ∈ dims, ∃ value, IsNumberLine greatestInteger dim value)
      (hmore : dims.length < missing) (hline : IsBadLine greatestInteger line) :
      DimensionsDecide missing (dims ++ line :: rest)
  | all {dims rest : List (List UInt8)}
      (hdims : ∀ dim ∈ dims, ∃ value, IsNumberLine greatestInteger dim value)
      (hall : dims.length = missing) : DimensionsDecide missing (dims ++ rest)

/-- The first of the lines that are not blank settle what is read: something is wrong with that of
the matrix count, or those behind it settle it, one dimension more than the matrices missing. -/
inductive LinesDecide : List (List UInt8) → Prop
  | bad {line : List UInt8} {rest : List (List UInt8)} (hline : IsBadLine greatestCount line) :
      LinesDecide (line :: rest)
  | dimensions {line : List UInt8} {rest : List (List UInt8)} {matrices : Nat}
      (hline : IsNumberLine greatestCount line matrices)
      (hrest : DimensionsDecide (matrices + 1) rest) : LinesDecide (line :: rest)

/-! ## One line -/

/-- A line that is not blank is that of a number, or something is wrong with it. -/
theorem isBadLine_or_isNumberLine (greatest : Nat) {line : List UInt8}
    (h : lineWords? line ≠ some []) :
    IsBadLine greatest line ∨ ∃ value, IsNumberLine greatest line value := by
  cases hwords : lineWords? line with
  | none => exact .inl (.notText hwords)
  | some words =>
      match words with
      | [] => exact absurd hwords h
      | [word] =>
          by_cases hnumber : ∃ value, Text.IsNumeral word value ∧ 1 ≤ value ∧ value ≤ greatest
          · obtain ⟨value, hvalue⟩ := hnumber
            exact .inr ⟨value, word, hwords, hvalue⟩
          · refine .inl (.noNumber hwords fun value hvalue ↦ ?_)
            by_contra hrange
            exact hnumber ⟨value, hvalue, by omega⟩
      | first :: second :: rest => exact .inl (.several hwords (by simp))

/-- Nothing is wrong with the line of a number. -/
theorem IsNumberLine.not_isBadLine {greatest value : Nat} {line : List UInt8}
    (h : IsNumberLine greatest line value) : ¬ IsBadLine greatest line := by
  obtain ⟨word, hword, hvalue, hrange⟩ := h
  intro hbad
  cases hbad with
  | notText h => simp [hword] at h
  | several h hwords =>
      rw [hword, Option.some.injEq] at h
      subst h
      simp at hwords
  | noNumber h hnone =>
      obtain rfl : word = _ := by simpa [hword] using h
      have := hnone value hvalue
      omega

/-- The number on a line is the only one. -/
theorem IsNumberLine.unique {greatest value other : Nat} {line : List UInt8}
    (h : IsNumberLine greatest line value) (hother : IsNumberLine greatest line other) :
    other = value := by
  obtain ⟨word, hword, hvalue, -⟩ := h
  obtain ⟨word', hword', hother, -⟩ := hother
  obtain rfl : word = word' := by simpa [hword] using hword'
  rw [← Text.natural?_eq_some_iff] at hvalue hother
  exact Option.some.inj (hother.symm.trans hvalue)

/-- A blank line is left out. -/
theorem nonBlankLines_cons_of_blank {line : List UInt8} (h : lineWords? line = some [])
    (rest : List (List UInt8)) : nonBlankLines (line :: rest) = nonBlankLines rest := by
  simp [nonBlankLines, h]

/-- Any other line stays. -/
theorem nonBlankLines_cons_of_ne {line : List UInt8} (h : lineWords? line ≠ some [])
    (rest : List (List UInt8)) : nonBlankLines (line :: rest) = line :: nonBlankLines rest := by
  simp [nonBlankLines, h]

namespace Scanner

/-- A line without words is counted and otherwise passed over. -/
theorem line_of_no_words (scanner : Scanner) {bytes : List UInt8} (h : lineWords? bytes = some []) :
    scanner.line bytes = .ok { scanner with lines := scanner.lines + 1 } := by
  obtain ⟨text, htext, hwords⟩ := Option.map_eq_some_iff.mp h
  simp [line, LineContent.ofBytes?, htext, LineContent.ofText_of_words_eq_nil hwords]

/-- The only word on a line is taken. -/
theorem line_of_word (scanner : Scanner) {bytes : List UInt8} {word : List Char}
    (h : lineWords? bytes = some [word]) :
    scanner.line bytes = do
      let stage ← scanner.stage.take (scanner.lines + 1) word
      return { lines := scanner.lines + 1, stage } := by
  obtain ⟨text, htext, hwords⟩ := Option.map_eq_some_iff.mp h
  simp [line, LineContent.ofBytes?, htext, LineContent.ofText_of_words_eq_singleton hwords]

/-- A bad line is refused when its only word would be, if it has one. -/
theorem exists_line_eq_error {greatest : Nat} {bytes : List UInt8} (h : IsBadLine greatest bytes)
    {scanner : Scanner}
    (htake : ∀ word, (∀ value, Text.IsNumeral word value → value = 0 ∨ greatest < value) →
      ∃ verdict, scanner.stage.take (scanner.lines + 1) word = .error verdict) :
    ∃ verdict, scanner.line bytes = .error verdict := by
  cases h with
  | notText h => exact ⟨_, line_of_not_text (Option.map_eq_none_iff.mp h)⟩
  | several h hwords =>
      obtain ⟨text, htext, rfl⟩ := Option.map_eq_some_iff.mp h
      refine ⟨.error (.severalValues (scanner.lines + 1) (String.ofList (Text.trim text))), ?_⟩
      simp [line, LineContent.ofBytes?, htext, LineContent.ofText_of_two_le_length_words hwords,
        refuse]
  | @noNumber word h hword =>
      obtain ⟨verdict, hverdict⟩ := htake word hword
      exact ⟨verdict, by rw [line_of_word scanner h, hverdict, error_bind]⟩

end Scanner

/-! ## The lines of dimensions -/

/-- The first line that is not blank is wrong, or it is that of a dimension and those behind it
decide, with one dimension less missing. -/
theorem dimensionsDecide_cons_iff {missing : Nat} {line : List UInt8} {rest : List (List UInt8)} :
    DimensionsDecide (missing + 1) (line :: rest) ↔ IsBadLine greatestInteger line ∨
      (∃ value, IsNumberLine greatestInteger line value) ∧ DimensionsDecide missing rest := by
  constructor
  · intro h
    -- The lines end in an append in each case, so they are named before the cases are told apart.
    generalize hlines : line :: rest = lines at h
    cases h with
    | @bad dims after wrong hdims hmore hline =>
        cases dims with
        | nil =>
            obtain ⟨rfl, -⟩ := List.cons.inj hlines
            exact .inl hline
        | cons dim dims =>
            obtain ⟨rfl, rfl⟩ := List.cons.inj hlines
            obtain ⟨hfirst, hdims⟩ := List.forall_mem_cons.mp hdims
            exact .inr ⟨hfirst, .bad hdims (Nat.lt_of_succ_lt_succ hmore) hline⟩
    | @all dims after hdims hall =>
        cases dims with
        | nil => simp at hall
        | cons dim dims =>
            obtain ⟨rfl, rfl⟩ := List.cons.inj hlines
            obtain ⟨hfirst, hdims⟩ := List.forall_mem_cons.mp hdims
            exact .inr ⟨hfirst, .all hdims (Nat.succ.inj hall)⟩
  · rintro (hbad | ⟨hfirst, hrest⟩)
    · exact @DimensionsDecide.bad _ [] rest line (fun _ ↦ nofun) (Nat.succ_pos missing) hbad
    · cases hrest with
      | @bad dims after wrong hdims hmore hline =>
          rw [← List.cons_append]
          exact .bad (List.forall_mem_cons.mpr ⟨hfirst, hdims⟩) (Nat.succ_lt_succ hmore) hline
      | @all dims after hdims hall =>
          rw [← List.cons_append]
          exact .all (List.forall_mem_cons.mpr ⟨hfirst, hdims⟩) (congrArg Nat.succ hall)

/-- Without lines nothing is decided as long as a dimension is missing. -/
theorem not_dimensionsDecide_nil (missing : Nat) : ¬ DimensionsDecide (missing + 1) [] := by
  intro h
  generalize hlines : ([] : List (List UInt8)) = lines at h
  cases h with
  | bad => simp at hlines
  | all hdims hall =>
      obtain ⟨rfl, -⟩ := List.append_eq_nil_iff.mp hlines.symm
      simp at hall

/-- No line is needed when no dimension is missing. -/
theorem dimensionsDecide_zero (lines : List (List UInt8)) : DimensionsDecide 0 lines :=
  @DimensionsDecide.all 0 [] lines (fun _ ↦ nofun) rfl

namespace Scanner

/-- A line on which something is wrong is refused where a dimension is missing. -/
theorem exists_line_dims_eq_error {line : List UInt8} (h : IsBadLine greatestInteger line)
    (seen matrices : Nat) (found : Array Int) :
    ∃ verdict, Scanner.line { lines := seen, stage := .dims matrices found } line =
      .error verdict := by
  refine exists_line_eq_error h fun word hword ↦
    Stage.exists_take_dims_eq_error (fun number hnumber ↦ ?_) _ matrices found
  by_contra hnot
  have hpos : 0 < number := Int.not_le.mp hnot
  obtain ⟨value, hvalue, -, hvaluePos, hmost⟩ := dimensionOf?_pos_iff.mp ⟨hnumber, hpos⟩
  have := hword value hvalue
  unfold greatestInteger at this
  omega

/-- The dimension on a line is found, and the last one decides. -/
theorem line_dims_of_isNumberLine {line : List UInt8} {value : Nat}
    (h : IsNumberLine greatestInteger line value) (seen matrices : Nat) (found : Array Int) :
    Scanner.line { lines := seen, stage := .dims matrices found } line =
      if found.size < matrices then
        .ok { lines := seen + 1, stage := .dims matrices (found.push value) }
      else .error (Chain.ofList (found.push (value : Int)).toList) := by
  obtain ⟨word, hword, hvalue, hpos, hmost⟩ := h
  obtain ⟨hnumber, hnumberPos⟩ := dimensionOf?_pos_iff.mpr ⟨value, hvalue, rfl, hpos, hmost⟩
  rw [line_of_word _ hword, Stage.take_dims hnumber hnumberPos]
  split <;> rfl

/-- A scanner that waits for dimensions has decided after exactly the lines that decide. -/
theorem scan_dims_eq_error_iff (seen : Nat) {matrices missing : Nat} {found : Array Int}
    {lines : List (List UInt8)} (h : found.size + missing = matrices) :
    (∃ verdict, scan { lines := seen, stage := .dims matrices found } lines = .error verdict) ↔
      DimensionsDecide (missing + 1) (nonBlankLines lines) := by
  induction lines generalizing seen missing found with
  | nil =>
      have hnot := not_dimensionsDecide_nil missing
      simpa [scan, pure, Except.pure, nonBlankLines] using hnot
  | cons line lines ih =>
      rw [scan_cons]
      by_cases hblank : lineWords? line = some []
      · rw [line_of_no_words _ hblank, nonBlankLines_cons_of_blank hblank]
        exact ih (seen + 1) h
      rw [nonBlankLines_cons_of_ne hblank, dimensionsDecide_cons_iff]
      rcases isBadLine_or_isNumberLine greatestInteger hblank with hbad | ⟨value, hvalue⟩
      · obtain ⟨verdict, hline⟩ := exists_line_dims_eq_error hbad seen matrices found
        rw [hline, error_bind]
        exact iff_of_true ⟨verdict, rfl⟩ (.inl hbad)
      · rw [line_dims_of_isNumberLine hvalue, or_iff_right hvalue.not_isBadLine,
          and_iff_right ⟨value, hvalue⟩]
        -- The dimension is either followed by another one or the last one.
        cases missing with
        | zero =>
            rw [if_neg (by omega), error_bind]
            exact iff_of_true ⟨_, rfl⟩ (dimensionsDecide_zero _)
        | succ missing =>
            rw [if_pos (by omega), ok_bind]
            exact ih (seen + 1) (by rw [Array.size_push]; omega)

end Scanner

/-! ## The line of the matrix count -/

/-- Behind the line of a matrix count it is the lines of dimensions that decide. -/
theorem linesDecide_cons_iff {line : List UInt8} {rest : List (List UInt8)} {matrices : Nat}
    (h : IsNumberLine greatestCount line matrices) :
    LinesDecide (line :: rest) ↔ DimensionsDecide (matrices + 1) rest := by
  constructor
  · intro hdecide
    cases hdecide with
    | bad hline => exact absurd hline h.not_isBadLine
    | dimensions hline hrest =>
        obtain rfl := h.unique hline
        exact hrest
  · exact .dimensions h

namespace Scanner

/-- A line on which something is wrong is refused where the matrix count is missing. -/
theorem exists_line_count_eq_error {line : List UInt8} (h : IsBadLine greatestCount line)
    (seen : Nat) : ∃ verdict, Scanner.line { lines := seen, stage := .count } line =
      .error verdict := by
  refine exists_line_eq_error h fun word hword ↦
    Stage.exists_take_count_eq_error (fun matrices hmatrices ↦ ?_) _
  have := hword matrices (countOf?_eq_some_iff.mp hmatrices).1
  unfold greatestCount at this
  omega

/-- The matrix count on a line is followed by the dimensions. -/
theorem line_count_of_isNumberLine {line : List UInt8} {matrices : Nat}
    (h : IsNumberLine greatestCount line matrices) (seen : Nat) :
    Scanner.line { lines := seen, stage := .count } line =
      .ok { lines := seen + 1, stage := .dims matrices #[] } := by
  obtain ⟨word, hword, hvalue, hpos, hmost⟩ := h
  have hlimit : matrices + 1 < indexLimit := by
    have : 2 ≤ indexLimit := by decide
    unfold greatestCount at hmost
    omega
  have hcount := countOf?_eq_some_iff.mpr ⟨hvalue, Nat.lt_of_succ_lt hlimit⟩
  rw [line_of_word _ hword, Stage.take_count hcount hpos hlimit]
  rfl

/-- A scanner that waits for the matrix count has decided after exactly the lines that decide. -/
theorem scan_count_eq_error_iff (seen : Nat) {lines : List (List UInt8)} :
    (∃ verdict, scan { lines := seen, stage := .count } lines = .error verdict) ↔
      LinesDecide (nonBlankLines lines) := by
  induction lines generalizing seen with
  | nil =>
      have hnot : ¬ LinesDecide [] := nofun
      simpa [scan, pure, Except.pure, nonBlankLines] using hnot
  | cons line lines ih =>
      rw [scan_cons]
      by_cases hblank : lineWords? line = some []
      · rw [line_of_no_words _ hblank, nonBlankLines_cons_of_blank hblank]
        exact ih (seen + 1)
      rw [nonBlankLines_cons_of_ne hblank]
      rcases isBadLine_or_isNumberLine greatestCount hblank with hbad | ⟨matrices, hmatrices⟩
      · obtain ⟨verdict, hline⟩ := exists_line_count_eq_error hbad seen
        rw [hline, error_bind]
        exact iff_of_true ⟨verdict, rfl⟩ (.bad hbad)
      · rw [line_count_of_isNumberLine hmatrices, ok_bind, linesDecide_cons_iff hmatrices]
        exact scan_dims_eq_error_iff (seen + 1) (Nat.zero_add matrices)

/-- A scanner goes on behind lines that do not decide. -/
theorem exists_scan_eq_ok {lines : List (List UInt8)} (h : ¬ LinesDecide (nonBlankLines lines)) :
    ∃ scanner, initial.scan lines = .ok scanner := by
  cases hscan : initial.scan lines with
  | error verdict => exact absurd ((scan_count_eq_error_iff 0).mp ⟨verdict, hscan⟩) h
  | ok scanner => exact ⟨scanner, rfl⟩

end Scanner

end ChainProduct
