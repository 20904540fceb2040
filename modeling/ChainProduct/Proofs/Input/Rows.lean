import ChainProduct.Proofs.Input.Lines

/-!
# Reading the rows of a text

The bytes of a text are cut at line feeds exactly where the text is, and each piece is the UTF-8 of
a line of the text (`splitOn_utf8`). So reading a text never meets a line that is not UTF-8. The
rows of a text are its lines that are not blank, each with its number, for which blank lines count.
The main theorem, `parse_eq_judge`, says that reading a text is judging its rows one after another.
-/

namespace ChainProduct

/-! ## Lines of a text -/

/-- The UTF-8 bytes of a text. -/
def utf8 (text : List Char) : List UInt8 :=
  text.flatMap String.utf8EncodeChar

/-- The source of a text serves its UTF-8 bytes. -/
theorem toList_toUTF8 (text : String) : text.toUTF8.data.toList = utf8 text.toList := by
  rw [String.toUTF8_eq_toByteArray, ← String.ofList_toList (s := text), String.toByteArray_ofList,
    List.utf8Encode, List.toList_data_toByteArray, String.toList_ofList, utf8]

/-- The UTF-8 bytes of a text are read as the text. -/
theorem lineText?_utf8 (text : List Char) : lineText? (utf8 text) = some text := by
  have hbytes : (utf8 text).toByteArray = (String.ofList text).toByteArray := rfl
  rw [lineText?, hbytes, String.fromUTF8?, dif_pos (String.isValidUTF8 _), Option.map_some]
  exact congrArg some String.toList_ofList

/-- The UTF-8 bytes of a character other than a line feed hold no line feed. -/
theorem lineFeed_not_mem_utf8EncodeChar {c : Char} (h : c ≠ '\n') :
    lineFeed ∉ String.utf8EncodeChar c := by
  have hval : c.val.toNat = c.toNat := rfl
  have hne : c.toNat ≠ 10 := fun hfeed ↦ h (Char.ext (UInt32.toNat_inj.mp hfeed))
  simp only [String.utf8EncodeChar, lineFeed]
  -- One byte is the character itself, and of several bytes each has its highest bit set.
  split
  · simp [← UInt8.toNat_inj]
    omega
  · split
    · simp [← UInt8.toNat_inj]
      omega
    · split <;> simp [← UInt8.toNat_inj] <;> omega

/-- Elements other than the separator become part of the first piece. -/
theorem splitOn_append_of_not_mem {α : Type} [BEq α] [LawfulBEq α] {separator : α} {xs : List α}
    (h : separator ∉ xs) (ys : List α) :
    (xs ++ ys).splitOn separator = (ys.splitOn separator).modifyHead (xs ++ ·) := by
  induction xs with
  | nil => exact (congrFun List.modifyHead_id _).symm
  | cons x xs ih =>
      obtain ⟨hx, hxs⟩ := List.ne_and_not_mem_of_not_mem_cons h
      rw [List.cons_append, List.splitOn_cons_eq_if_modifyHead, ih hxs,
        if_neg (by simpa using Ne.symm hx), List.modifyHead_modifyHead]
      rfl

/-- The lines of the UTF-8 bytes of a text are the UTF-8 bytes of its lines. -/
theorem splitOn_utf8 (text : List Char) :
    (utf8 text).splitOn lineFeed = (text.splitOn '\n').map utf8 := by
  induction text with
  | nil => rfl
  | cons c rest ih =>
      rw [utf8, List.flatMap_cons, ← utf8]
      by_cases hc : c = '\n'
      · subst hc
        exact (List.splitOn_append_cons_self [] (utf8 rest)).trans
          (by rw [ih]; exact congrArg (List.map utf8) (List.splitOn_append_cons_self [] rest).symm)
      · rw [splitOn_append_of_not_mem (lineFeed_not_mem_utf8EncodeChar hc), ih,
          List.splitOn_cons_eq_if_modifyHead, if_neg (by simpa using hc)]
        cases rest.splitOn '\n' with
        | nil => rfl
        | cons first more => rfl

/-! ## Rows -/

/-- A row: the number of a line, counted from one, and its text, which is not blank. -/
structure Row where
  line : Nat
  text : List Char
  not_blank : Text.words text ≠ []

/-- The row of a numbered line, unless the line is blank. -/
def Row.ofLine? (text : List Char) (line : Nat) : Option Row :=
  if h : Text.words text = [] then none else some ⟨line, text, h⟩

/-- The row of a line has its text and its number. -/
theorem Row.ofLine?_eq_some_iff {text : List Char} {line : Nat} {row : Row} :
    Row.ofLine? text line = some row ↔ row.text = text ∧ row.line = line := by
  unfold Row.ofLine?
  split
  · next h =>
      simp only [reduceCtorEq, false_iff, not_and]
      rintro rfl
      exact absurd h row.not_blank
  · rw [Option.some.injEq]
    constructor
    · rintro rfl
      exact ⟨rfl, rfl⟩
    · rintro ⟨rfl, rfl⟩
      rfl

/-- The rows of lines that are numbered from the first one on. -/
def rowsFrom (first : Nat) (lines : List (List Char)) : List Row :=
  (lines.zipIdx first).filterMap fun numbered ↦ Row.ofLine? numbered.1 numbered.2

/-- The rows of a text, the lines of which are numbered from one on. -/
def rowsOf (text : String) : List Row :=
  rowsFrom 1 (text.toList.splitOn '\n')

/-- A blank line gives no row. -/
theorem rowsFrom_cons_of_blank {text : List Char} (h : Text.words text = []) (first : Nat)
    (lines : List (List Char)) : rowsFrom first (text :: lines) = rowsFrom (first + 1) lines := by
  simp [rowsFrom, Row.ofLine?, h]

/-- The row of a line stands before those of the other lines. -/
theorem rowsFrom_cons_of_row (row : Row) (lines : List (List Char)) :
    rowsFrom row.line (row.text :: lines) = row :: rowsFrom (row.line + 1) lines := by
  simp [rowsFrom, Row.ofLine?, row.not_blank]

/-- The rows of a text are its lines that are not blank. The number of a row is the place of its
line among all lines, the blank ones included. -/
theorem mem_rowsOf_iff {text : String} {row : Row} :
    row ∈ rowsOf text ↔
      ∃ index, (text.toList.splitOn '\n')[index]? = some row.text ∧ row.line = index + 1 := by
  simp only [rowsOf, rowsFrom, List.mem_filterMap, Prod.exists,
    List.mk_mem_zipIdx_iff_le_and_getElem?_sub]
  constructor
  · rintro ⟨content, line, ⟨hle, hline⟩, hrow⟩
    obtain ⟨rfl, rfl⟩ := Row.ofLine?_eq_some_iff.mp hrow
    exact ⟨row.line - 1, hline, by omega⟩
  · rintro ⟨index, hline, hnumber⟩
    refine ⟨row.text, row.line, ⟨by omega, ?_⟩, Row.ofLine?_eq_some_iff.mpr ⟨rfl, rfl⟩⟩
    rwa [hnumber, Nat.add_sub_cancel]

/-! ## Judging rows -/

/-- Take the next row. -/
def Stage.row (stage : Stage) (row : Row) : Scan Stage :=
  match LineContent.ofText row.text with
  | .blank => .ok stage
  | .several values => refuse (.severalValues row.line (String.ofList values))
  | .single value => stage.take row.line value

/-- What rows come to when nothing follows them. -/
def Stage.judge (stage : Stage) (rows : List Row) : Verdict :=
  match rows.foldlM Stage.row stage with
  | .error verdict => verdict
  | .ok next => .error next.shortage

namespace Stage

/-- A stage that decides on a row looks at no other row. -/
theorem judge_cons_of_error {stage : Stage} {row : Row} {decision : Verdict}
    (h : stage.row row = .error decision) (rest : List Row) :
    stage.judge (row :: rest) = decision := by
  simp [judge, h, bind, Except.bind]

/-- A stage that goes on after a row judges the rest. -/
theorem judge_cons_of_ok {stage next : Stage} {row : Row} (h : stage.row row = .ok next)
    (rest : List Row) : stage.judge (row :: rest) = next.judge rest := by
  simp [judge, h, bind, Except.bind]

end Stage

namespace Scanner

/-- A line without words is counted and otherwise passed over. -/
theorem line_utf8_of_blank (scanner : Scanner) {text : List Char} (h : Text.words text = []) :
    scanner.line (utf8 text) = .ok { scanner with lines := scanner.lines + 1 } := by
  simp [line, LineContent.ofBytes?, lineText?_utf8, LineContent.ofText_of_words_eq_nil h]

/-- A line with words is taken as its row. -/
theorem line_utf8_of_row (stage : Stage) {row : Row} {seen : Nat} (h : row.line = seen + 1) :
    line { lines := seen, stage } (utf8 row.text) = do
      let next ← stage.row row
      return { lines := row.line, stage := next } := by
  have hnotBlank : LineContent.ofText row.text ≠ .blank := fun hblank ↦
    row.not_blank (Text.words_eq_nil_iff.mpr (LineContent.ofText_eq_blank_iff.mp hblank))
  simp only [line, LineContent.ofBytes?, lineText?_utf8, Option.map_some, Stage.row, h]
  cases hcontent : LineContent.ofText row.text with
  | blank => exact absurd hcontent hnotBlank
  | several values => rfl
  | single value => rfl

/-- Scanning the lines of a text is judging its rows. -/
theorem verdict_map_utf8 (seen : Nat) (stage : Stage) (lines : List (List Char)) :
    verdict { lines := seen, stage } (lines.map utf8) =
      stage.judge (rowsFrom (seen + 1) lines) := by
  induction lines generalizing seen stage with
  | nil => rfl
  | cons text lines ih =>
      rw [List.map_cons]
      by_cases hblank : Text.words text = []
      · rw [verdict_cons_of_ok (line_utf8_of_blank _ hblank), rowsFrom_cons_of_blank hblank]
        exact ih (seen + 1) stage
      · let row : Row := ⟨seen + 1, text, hblank⟩
        have hline := line_utf8_of_row stage (show row.line = seen + 1 from rfl)
        have hrows : rowsFrom (seen + 1) (text :: lines) = row :: rowsFrom (seen + 2) lines :=
          rowsFrom_cons_of_row row lines
        rw [hrows]
        cases hnext : stage.row row with
        | error decision =>
            rw [hnext] at hline
            rw [Stage.judge_cons_of_error hnext]
            exact verdict_cons_of_error hline _
        | ok next =>
            rw [hnext] at hline
            rw [Stage.judge_cons_of_ok hnext]
            exact (verdict_cons_of_ok hline _).trans (ih (seen + 1) next)

end Scanner

/-- Reading a text is judging its rows. -/
theorem Chain.parse_eq_judge (text : String) :
    Chain.parse text = Stage.count.judge (rowsOf text) := by
  show Chain.read ([text.toUTF8.data.toList].map .bytes) = _
  rw [Chain.read_bytes_eq_verdict, List.flatten_singleton, toList_toUTF8, splitOn_utf8]
  exact Scanner.verdict_map_utf8 0 .count _

end ChainProduct
