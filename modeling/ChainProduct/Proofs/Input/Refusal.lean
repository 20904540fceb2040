import ChainProduct.Proofs.Input.Format
import ChainProduct.Proofs.Input.Rows

/-!
# Why a text is refused

The reasons for which a text is refused, told by its rows and without a reader. `CountFault` and
`DimensionFault` say what can be wrong with one row, `Decides` which rows settle that a text is
refused, whatever follows them, and `EndsShort` when there are too few of them. Every row before
the deciding one is as it has to be, so it is the first that is wrong. Dimensions that are too
large are the exception: the rows of all dimensions settle that, and not the row of the first of
them.

The main theorem, `parse_reports_first_fault`, says that the reasons told so are exactly those that
reading reports.
-/

namespace ChainProduct

/-! ## What stands on a row -/

namespace Row

/-- What stands on the row, without the blanks at both ends and in quotes. -/
def quoted (row : Row) : String :=
  Text.quote (String.ofList (Text.trim row.text))

/-- Blanks separate words on the row. -/
def HoldsSeveral (row : Row) : Prop :=
  2 ≤ (Text.words row.text).length

/-- All that stands on the row is the numeral of a number in the range of indices. -/
def IsCount (row : Row) (number : Nat) : Prop :=
  ∃ word, Text.words row.text = [word] ∧ Text.IsNumeral word number ∧ number < indexLimit

/-- All that stands on the row is the numeral of a 64-bit integer with a sign. -/
def IsInteger (row : Row) (number : Int) : Prop :=
  ∃ word, Text.words row.text = [word] ∧ Text.IsSignedNumeral word number ∧
    -0x8000_0000_0000_0000 ≤ number ∧ number ≤ 0x7fff_ffff_ffff_ffff

/-- The row is a matrix count for which the dimensions can be counted. -/
def Announces (row : Row) (matrices : Nat) : Prop :=
  row.IsCount matrices ∧ 1 ≤ matrices ∧ matrices + 1 < indexLimit

/-- The row is a positive integer. -/
def IsPositive (row : Row) (number : Int) : Prop :=
  row.IsInteger number ∧ 0 < number

end Row

/-! ## Reasons -/

/-- Why a row cannot be that of a matrix count. -/
inductive CountFault (row : Row) : String → Prop
  | several (h : row.HoldsSeveral) :
      CountFault row (s!"line {row.line}: expected a single integer, got " ++ row.quoted)
  | notACount (hsingle : ¬ row.HoldsSeveral) (h : ∀ number, ¬ row.IsCount number) :
      CountFault row
        (s!"line {row.line}: matrix count must be a non-negative integer, got " ++ row.quoted)
  | zero (h : row.IsCount 0) : CountFault row "matrix count must be at least 1"
  | tooLarge {number : Nat} (h : row.IsCount number) (hlast : number + 1 = indexLimit) :
      CountFault row s!"matrix count {number} is too large"

/-- Why a row cannot be that of a dimension. Dimensions that are too large are not told here. -/
inductive DimensionFault (row : Row) : String → Prop
  | several (h : row.HoldsSeveral) :
      DimensionFault row (s!"line {row.line}: expected a single integer, got " ++ row.quoted)
  | notAnInteger (hsingle : ¬ row.HoldsSeveral) (h : ∀ number, ¬ row.IsInteger number) :
      DimensionFault row (s!"line {row.line}: dimension must be an integer, got " ++ row.quoted)
  | notPositive {number : Int} (h : row.IsInteger number) (hnumber : number ≤ 0) :
      DimensionFault row s!"line {row.line}: dimension must be positive, got {number}"

/-- The number at this position, counted from zero, is the first one larger than any dimension. -/
def IsFirstBeyond (numbers : List Int) (position : Nat) (number : Int) : Prop :=
  numbers[position]? = some number ∧ maxDimension < number ∧
    ∀ i < position, ∀ other, numbers[i]? = some other → other ≤ maxDimension

/-- The rows settle that a text is refused: something is wrong with the last of them and with none
before it, or the rows of all dimensions are there and one of these is too large. -/
inductive Decides : List Row → String → Prop
  | count {row : Row} {reason : String} (h : CountFault row reason) : Decides [row] reason
  | dimension {count row : Row} {rows : List Row} {numbers : List Int} {matrices : Nat}
      {reason : String} (hcount : count.Announces matrices)
      (hrows : List.Forall₂ Row.IsPositive rows numbers) (hmore : rows.length ≤ matrices)
      (hrow : DimensionFault row reason) : Decides (count :: (rows ++ [row])) reason
  | tooLarge {count : Row} {rows : List Row} {numbers : List Int} {matrices position : Nat}
      {number : Int} (hcount : count.Announces matrices)
      (hrows : List.Forall₂ Row.IsPositive rows numbers) (hall : rows.length = matrices + 1)
      (hfirst : IsFirstBeyond numbers position number) :
      Decides (count :: rows)
        s!"dimension {number} at position {position} must be in 1..={maxDimension}"

/-- Nothing is wrong with the rows but that they are too few. -/
inductive EndsShort : List Row → String → Prop
  | noCount : EndsShort [] "empty input: expected a matrix count"
  | missing {count : Row} {rows : List Row} {numbers : List Int} {matrices : Nat}
      (hcount : count.Announces matrices) (hrows : List.Forall₂ Row.IsPositive rows numbers)
      (hmore : rows.length ≤ matrices) :
      EndsShort (count :: rows)
        s!"expected {matrices + 1} dimensions for {matrices} matrices, found {rows.length}"

/-! ## Taking one row -/

namespace Row

/-- A row without several words has one, since it is not blank. -/
theorem exists_word {row : Row} (h : ¬ row.HoldsSeveral) :
    ∃ word, Text.words row.text = [word] := by
  apply List.length_eq_one_iff.mp
  have := List.length_pos_iff.mpr row.not_blank
  unfold HoldsSeveral at h
  omega

/-- The only word on a row is what is quoted. -/
theorem quoted_eq {row : Row} {word : List Char} (h : Text.words row.text = [word]) :
    row.quoted = Text.quote (String.ofList word) := by
  rw [quoted, LineContent.trim_eq_of_ofText_eq_single (LineContent.ofText_of_words_eq_singleton h)]

/-- Whether a row is a matrix count depends on its only word. -/
theorem isCount_iff {row : Row} {word : List Char} (h : Text.words row.text = [word])
    {number : Nat} : row.IsCount number ↔ countOf? word = some number := by
  rw [countOf?_eq_some_iff, IsCount, h]
  simp

/-- The only word on the row of a count is read as the count. -/
theorem IsCount.exists_word {row : Row} {number : Nat} (h : row.IsCount number) :
    ∃ word, Text.words row.text = [word] ∧ countOf? word = some number := by
  obtain ⟨word, hword, hnumeral⟩ := h
  exact ⟨word, hword, countOf?_eq_some_iff.mpr hnumeral⟩

/-- Whether a row is an integer depends on its only word. -/
theorem isInteger_iff {row : Row} {word : List Char} (h : Text.words row.text = [word])
    {number : Int} : row.IsInteger number ↔ dimensionOf? word = some number := by
  rw [dimensionOf?_eq_some_iff, IsInteger, h]
  simp

/-- The only word on the row of an integer is read as the integer. -/
theorem IsInteger.exists_word {row : Row} {number : Int} (h : row.IsInteger number) :
    ∃ word, Text.words row.text = [word] ∧ dimensionOf? word = some number := by
  obtain ⟨word, hword, hnumeral⟩ := h
  exact ⟨word, hword, dimensionOf?_eq_some_iff.mpr hnumeral⟩

/-- A row is that of a matrix count, or something is wrong with it. -/
theorem exists_countFault_or_announces (row : Row) :
    (∃ reason, CountFault row reason) ∨ ∃ matrices, row.Announces matrices := by
  by_cases hseveral : row.HoldsSeveral
  · exact .inl ⟨_, .several hseveral⟩
  by_cases hcount : ∃ number, row.IsCount number
  · obtain ⟨number, hcount⟩ := hcount
    have hlimit : number < indexLimit := by
      obtain ⟨word, -, -, hlimit⟩ := hcount
      exact hlimit
    rcases Nat.eq_zero_or_pos number with rfl | hpos
    · exact .inl ⟨_, .zero hcount⟩
    by_cases hlast : number + 1 = indexLimit
    · exact .inl ⟨_, .tooLarge hcount hlast⟩
    · exact .inr ⟨number, hcount, hpos, by omega⟩
  · exact .inl ⟨_, .notACount hseveral (not_exists.mp hcount)⟩

/-- A row is that of a positive integer, or something is wrong with it. -/
theorem exists_dimensionFault_or_isPositive (row : Row) :
    (∃ reason, DimensionFault row reason) ∨ ∃ number, row.IsPositive number := by
  by_cases hseveral : row.HoldsSeveral
  · exact .inl ⟨_, .several hseveral⟩
  by_cases hinteger : ∃ number, row.IsInteger number
  · obtain ⟨number, hinteger⟩ := hinteger
    by_cases hpos : 0 < number
    · exact .inr ⟨number, hinteger, hpos⟩
    · exact .inl ⟨_, .notPositive hinteger (by omega)⟩
  · exact .inl ⟨_, .notAnInteger hseveral (not_exists.mp hinteger)⟩

end Row

namespace Stage

/-- A row with several words is refused. -/
theorem row_of_holdsSeveral (stage : Stage) {row : Row} (h : row.HoldsSeveral) :
    stage.row row = refuse (.severalValues row.line (String.ofList (Text.trim row.text))) := by
  rw [Stage.row, LineContent.ofText_of_two_le_length_words h]

/-- The only word on a row is taken. -/
theorem row_of_word (stage : Stage) {row : Row} {word : List Char}
    (h : Text.words row.text = [word]) : stage.row row = stage.take row.line word := by
  rw [Stage.row, LineContent.ofText_of_words_eq_singleton h]

/-- A matrix count is followed by its dimensions. -/
theorem row_of_announces {row : Row} {matrices : Nat} (h : row.Announces matrices) :
    Stage.count.row row = .ok (.dims matrices #[]) := by
  obtain ⟨hcount, hpos, hlimit⟩ := h
  obtain ⟨word, hword, hvalue⟩ := hcount.exists_word
  rw [row_of_word _ hword, take_count hvalue hpos hlimit]

/-- A positive integer is a dimension: the chain is complete with the last one. -/
theorem row_of_isPositive {row : Row} {number : Int} (h : row.IsPositive number) (matrices : Nat)
    (found : Array Int) : (Stage.dims matrices found).row row =
      if found.size < matrices then .ok (.dims matrices (found.push number))
      else .error (Chain.ofList (found.push number).toList) := by
  obtain ⟨hinteger, hpos⟩ := h
  obtain ⟨word, hword, hvalue⟩ := hinteger.exists_word
  rw [row_of_word _ hword, take_dims hvalue hpos]

/-- What is wrong with the row of a matrix count is reported. -/
theorem row_of_countFault {row : Row} {reason : String} (h : CountFault row reason) :
    ∃ cause : InputError, cause.reason = reason ∧ Stage.count.row row = refuse cause := by
  cases h with
  | several h => exact ⟨_, rfl, row_of_holdsSeveral _ h⟩
  | notACount hsingle h =>
      obtain ⟨word, hword⟩ := row.exists_word hsingle
      refine ⟨.notACount row.line (String.ofList word), ?_, ?_⟩
      · rw [row.quoted_eq hword]
        rfl
      · have hnone : countOf? word = none :=
          Option.eq_none_iff_forall_ne_some.mpr fun number hcount ↦
            h number ((Row.isCount_iff hword).mpr hcount)
        rw [row_of_word _ hword, take, hnone]
  | zero h =>
      obtain ⟨word, hword, hvalue⟩ := h.exists_word
      refine ⟨.zeroCount, rfl, ?_⟩
      rw [row_of_word _ hword, take, hvalue]
      rfl
  | @tooLarge number h hlast =>
      obtain ⟨word, hword, hvalue⟩ := h.exists_word
      refine ⟨.countTooLarge number, rfl, ?_⟩
      rw [row_of_word _ hword, take, hvalue]
      obtain ⟨less, rfl⟩ : ∃ less, number = less + 1 := ⟨number - 1, by
        have : 1 < indexLimit := by decide
        omega⟩
      exact if_neg (by omega)

/-- What is wrong with the row of a dimension is reported, whatever was found before. -/
theorem row_of_dimensionFault {row : Row} {reason : String} (h : DimensionFault row reason) :
    ∃ cause : InputError, cause.reason = reason ∧
      ∀ matrices found, (Stage.dims matrices found).row row = refuse cause := by
  cases h with
  | several h => exact ⟨_, rfl, fun _ _ ↦ row_of_holdsSeveral _ h⟩
  | notAnInteger hsingle h =>
      obtain ⟨word, hword⟩ := row.exists_word hsingle
      refine ⟨.notAnInteger row.line (String.ofList word), ?_, fun matrices found ↦ ?_⟩
      · rw [row.quoted_eq hword]
        rfl
      · have hnone : dimensionOf? word = none :=
          Option.eq_none_iff_forall_ne_some.mpr fun number hinteger ↦
            h number ((Row.isInteger_iff hword).mpr hinteger)
        rw [row_of_word _ hword, take, hnone]
  | @notPositive number h hnumber =>
      obtain ⟨word, hword, hvalue⟩ := h.exists_word
      refine ⟨.notPositive row.line number, rfl, fun matrices found ↦ ?_⟩
      rw [row_of_word _ hword, take, hvalue]
      exact if_pos hnumber

/-! ## Taking the rows of dimensions -/

/-- Rows of positive integers are found, as long as more have to follow. -/
theorem judge_dims_append {rows : List Row} {numbers : List Int}
    (hrows : List.Forall₂ Row.IsPositive rows numbers) {matrices : Nat} (found : Array Int)
    (hmore : found.size + rows.length ≤ matrices) (rest : List Row) :
    (Stage.dims matrices found).judge (rows ++ rest) =
      (Stage.dims matrices (found ++ numbers.toArray)).judge rest := by
  induction hrows generalizing found with
  | nil => simp
  | @cons row number rows numbers hrow hrows ih =>
      rw [List.length_cons] at hmore
      have hstep := row_of_isPositive hrow matrices found
      rw [if_pos (by omega)] at hstep
      rw [List.cons_append, judge_cons_of_ok hstep,
        ih (found.push number) (by rw [Array.size_push]; omega)]
      simp

/-- Rows of as many positive integers as dimensions are the chain, whatever follows them. -/
theorem judge_dims_full {rows : List Row} {numbers : List Int}
    (hrows : List.Forall₂ Row.IsPositive rows numbers) {matrices : Nat} (found : Array Int)
    (hfound : found.size ≤ matrices) (hall : found.size + rows.length = matrices + 1)
    (rest : List Row) :
    (Stage.dims matrices found).judge (rows ++ rest) = Chain.ofList (found.toList ++ numbers) := by
  induction hrows generalizing found with
  | nil =>
      rw [List.length_nil] at hall
      omega
  | @cons row number rows numbers hrow hrows ih =>
      rw [List.length_cons] at hall
      have hstep := row_of_isPositive hrow matrices found
      have hpush : (found.push number).toList ++ numbers = found.toList ++ number :: numbers := by
        simp
      -- Either more rows have to follow this one, or it is that of the last dimension.
      by_cases hlast : found.size < matrices
      · rw [if_pos hlast] at hstep
        rw [List.cons_append, judge_cons_of_ok hstep,
          ih (found.push number) (by rw [Array.size_push]; omega) (by rw [Array.size_push]; omega),
          hpush]
      · rw [if_neg hlast] at hstep
        obtain rfl : rows = [] := List.length_eq_zero_iff.mp (by omega)
        cases hrows
        rw [List.cons_append, judge_cons_of_error hstep, ← hpush, List.append_nil]

/-- The first rows are of positive integers: as many as wanted, or all of them, or those up to a row
with which something is wrong. -/
theorem exists_positive_rows (rows : List Row) (wanted : Nat) :
    ∃ first rest numbers, rows = first ++ rest ∧ List.Forall₂ Row.IsPositive first numbers ∧
      (first.length = wanted ∨ first.length < wanted ∧
        (rest = [] ∨ ∃ row after reason, rest = row :: after ∧ DimensionFault row reason)) := by
  induction rows generalizing wanted with
  | nil => exact ⟨[], [], [], rfl, .nil, (Nat.eq_zero_or_pos wanted).imp Eq.symm (⟨·, .inl rfl⟩)⟩
  | cons row rows ih =>
      cases wanted with
      | zero => exact ⟨[], row :: rows, [], rfl, .nil, .inl rfl⟩
      | succ wanted =>
          rcases row.exists_dimensionFault_or_isPositive with ⟨reason, hfault⟩ | ⟨number, hrow⟩
          · exact ⟨[], row :: rows, [], rfl, .nil,
              .inr ⟨Nat.succ_pos wanted, .inr ⟨row, rows, reason, rfl, hfault⟩⟩⟩
          · obtain ⟨first, rest, numbers, rfl, hfirst, hend⟩ := ih wanted
            refine ⟨row :: first, rest, number :: numbers, rfl, .cons hrow hfirst, ?_⟩
            simpa using hend

end Stage

/-! ## Which rows decide -/

/-- The first of positive numbers that is too large for a dimension is the first bad one. -/
theorem firstBad?_eq_some_iff_isFirstBeyond {numbers : List Int} (h : ∀ x ∈ numbers, 0 < x)
    {position : Nat} {number : Int} :
    Chain.firstBad? numbers = some (number, position) ↔ IsFirstBeyond numbers position number := by
  have hdimension {i : Nat} {x : Int} (hx : numbers[i]? = some x) :
      IsDimension x ↔ x ≤ maxDimension := by
    have := h x (List.mem_of_getElem? hx)
    unfold IsDimension
    omega
  rw [Chain.firstBad?_eq_some_iff, IsFirstBeyond]
  refine and_congr_right fun hnumber ↦ and_congr ?_ ?_
  · exact (not_congr (hdimension hnumber)).trans Int.not_le
  · exact forall₄_congr fun i _ other hother ↦ hdimension hother

/-- Rows of positive integers are of positive numbers. -/
theorem pos_of_isPositive {rows : List Row} {numbers : List Int}
    (h : List.Forall₂ Row.IsPositive rows numbers) : ∀ x ∈ numbers, 0 < x := by
  induction h with
  | nil => exact nofun
  | cons hrow _ ih => exact List.forall_mem_cons.mpr ⟨hrow.2, ih⟩

namespace Stage

/-- Rows that decide are reported, whatever follows them. -/
theorem judge_of_decides {first : List Row} {reason : String} (h : Decides first reason) :
    ∃ cause : InputError, cause.reason = reason ∧
      ∀ rest, Stage.count.judge (first ++ rest) = .error cause := by
  cases h with
  | count h =>
      obtain ⟨cause, hreason, hstep⟩ := row_of_countFault h
      exact ⟨cause, hreason, judge_cons_of_error hstep⟩
  | dimension hcount hrows hmore hrow =>
      obtain ⟨cause, hreason, hstep⟩ := row_of_dimensionFault hrow
      refine ⟨cause, hreason, fun rest ↦ ?_⟩
      rw [List.cons_append, judge_cons_of_ok (row_of_announces hcount), List.append_assoc,
        judge_dims_append hrows #[] (by simpa using hmore)]
      exact judge_cons_of_error (hstep _ _) rest
  | @tooLarge _ _ numbers _ position number hcount hrows hall hfirst =>
      refine ⟨.badDimension (toString number) position, rfl, fun rest ↦ ?_⟩
      rw [List.cons_append, judge_cons_of_ok (row_of_announces hcount),
        judge_dims_full hrows #[] (Nat.zero_le _) (by simpa using hall)]
      exact Chain.ofList_of_firstBad?
        ((firstBad?_eq_some_iff_isFirstBeyond (pos_of_isPositive hrows)).mpr hfirst)

/-- Rows that are too few are reported. -/
theorem judge_of_endsShort {rows : List Row} {reason : String} (h : EndsShort rows reason) :
    ∃ cause : InputError, cause.reason = reason ∧ Stage.count.judge rows = .error cause := by
  cases h with
  | noCount => exact ⟨.noCount, rfl, rfl⟩
  | @missing _ rows numbers matrices hcount hrows hmore =>
      refine ⟨.missingDimensions matrices rows.length, rfl, ?_⟩
      have hfound := judge_dims_append hrows #[] (by simpa using hmore) []
      rw [List.append_nil] at hfound
      rw [judge_cons_of_ok (row_of_announces hcount), hfound, hrows.length_eq]
      simp [judge, shortage, pure, Except.pure]

/-- Rows of all dimensions decide if one of them is too large, and otherwise they are a chain. -/
theorem decides_or_ok_of_full {count : Row} {rows : List Row} {numbers : List Int}
    {matrices : Nat} (hcount : count.Announces matrices)
    (hrows : List.Forall₂ Row.IsPositive rows numbers) (hall : rows.length = matrices + 1)
    (rest : List Row) : (∃ reason, Decides (count :: rows) reason) ∨
      ∃ chain, Stage.count.judge (count :: (rows ++ rest)) = .ok chain := by
  cases hbad : Chain.firstBad? numbers with
  | some bad =>
      have hfirst := (firstBad?_eq_some_iff_isFirstBeyond (pos_of_isPositive hrows)).mp hbad
      exact .inl ⟨_, .tooLarge hcount hrows hall hfirst⟩
  | none =>
      have hlength : 2 ≤ numbers.length := by
        have := hcount.2.1
        rw [← hrows.length_eq]
        omega
      obtain ⟨chain, hchain⟩ := Chain.exists_ofList_of_firstBad? hbad hlength
      refine .inr ⟨chain, ?_⟩
      rw [judge_cons_of_ok (row_of_announces hcount),
        judge_dims_full hrows #[] (Nat.zero_le matrices) (by simpa using hall)]
      exact hchain

/-- Some first rows decide, or the rows are too few, or they are accepted. -/
theorem decides_or_endsShort_or_ok (rows : List Row) :
    (∃ first reason, first <+: rows ∧ Decides first reason) ∨
      (∃ reason, EndsShort rows reason) ∨ ∃ chain, Stage.count.judge rows = .ok chain := by
  cases rows with
  | nil => exact .inr (.inl ⟨_, .noCount⟩)
  | cons count rows =>
      rcases count.exists_countFault_or_announces with ⟨reason, hfault⟩ | ⟨matrices, hcount⟩
      · exact .inl ⟨[count], reason, List.prefix_append [count] rows, .count hfault⟩
      obtain ⟨first, rest, numbers, rfl, hfirst, hall | ⟨hmore, hend⟩⟩ :=
        exists_positive_rows rows (matrices + 1)
      · rcases decides_or_ok_of_full hcount hfirst hall rest with ⟨reason, hdecides⟩ | hchain
        · exact .inl ⟨count :: first, reason, List.prefix_append (count :: first) rest, hdecides⟩
        · exact .inr (.inr hchain)
      · have hle : first.length ≤ matrices := Nat.lt_succ_iff.mp hmore
        rcases hend with rfl | ⟨row, after, reason, rfl, hfault⟩
        · rw [List.append_nil]
          exact .inr (.inl ⟨_, .missing hcount hfirst hle⟩)
        · exact .inl ⟨count :: (first ++ [row]), reason, ⟨after, by simp⟩,
            .dimension hcount hfirst hle hfault⟩

end Stage

namespace Chain

/-- Reading a text reports the first thing that is wrong with its rows, and nothing after the row
that decides matters. The number of a row that is named is the place of its line. -/
theorem parse_reports_first_fault (text : String) :
    (∀ reason, (∃ cause, parse text = .error cause ∧ cause.reason = reason) ↔
      (∃ first, first <+: rowsOf text ∧ Decides first reason) ∨ EndsShort (rowsOf text) reason) ∧
    (∀ first reason, first <+: rowsOf text → Decides first reason →
      ∀ other, first <+: rowsOf other → parse other = parse text) ∧
    ∀ row, row ∈ rowsOf text ↔
      ∃ index, (text.toList.splitOn '\n')[index]? = some row.text ∧ row.line = index + 1 := by
  have hdecided : ∀ first reason, Decides first reason → ∃ cause : InputError,
      cause.reason = reason ∧ ∀ other, first <+: rowsOf other → parse other = .error cause := by
    intro first reason hdecides
    obtain ⟨cause, hreason, hjudge⟩ := Stage.judge_of_decides hdecides
    refine ⟨cause, hreason, fun other hfirst ↦ ?_⟩
    obtain ⟨rest, hrest⟩ := hfirst
    rw [parse_eq_judge, ← hrest, hjudge]
  refine ⟨fun reason ↦ ⟨?_, ?_⟩, ?_, fun row ↦ mem_rowsOf_iff⟩
  · rintro ⟨cause, hrefused, rfl⟩
    rcases Stage.decides_or_endsShort_or_ok (rowsOf text) with
      ⟨first, reason, hfirst, hdecides⟩ | ⟨reason, hshort⟩ | ⟨chain, haccepted⟩
    · obtain ⟨reported, rfl, hparse⟩ := hdecided first reason hdecides
      obtain rfl : cause = reported := Except.error.inj (hrefused.symm.trans (hparse text hfirst))
      exact .inl ⟨first, hfirst, hdecides⟩
    · obtain ⟨reported, rfl, hjudge⟩ := Stage.judge_of_endsShort hshort
      rw [← parse_eq_judge, hrefused] at hjudge
      obtain rfl : cause = reported := Except.error.inj hjudge
      exact .inr hshort
    · rw [← parse_eq_judge, hrefused] at haccepted
      contradiction
  · rintro (⟨first, hfirst, hdecides⟩ | hshort)
    · obtain ⟨cause, hreason, hparse⟩ := hdecided first reason hdecides
      exact ⟨cause, hparse text hfirst, hreason⟩
    · obtain ⟨cause, hreason, hjudge⟩ := Stage.judge_of_endsShort hshort
      exact ⟨cause, (parse_eq_judge text).trans hjudge, hreason⟩
  · intro first reason hfirst hdecides other hother
    obtain ⟨cause, -, hparse⟩ := hdecided first reason hdecides
    rw [hparse other hother, hparse text hfirst]

/-- A dimension that is not positive is reported with the number of its line, for which the blank
one counts, although the dimension before it is too large, and whatever follows it. -/
theorem parse_reports_first_fault_negative :
    (∃ cause, parse "2\n\n10\n99999999999\n-3\n" = .error cause ∧
      cause.reason = "line 5: dimension must be positive, got -3") ∧
    parse "2\n\n10\n99999999999\n-3\n4 4\n" = parse "2\n\n10\n99999999999\n-3\n" := by
  let count : Row := ⟨1, ['2'], by decide⟩
  let ten : Row := ⟨3, ['1', '0'], by decide⟩
  let large : Row := ⟨4, List.replicate 11 '9', by decide⟩
  let negative : Row := ⟨5, ['-', '3'], by decide⟩
  have hcount : count.Announces 2 :=
    ⟨(Row.isCount_iff (show Text.words count.text = [['2']] from rfl)).mpr rfl, by decide⟩
  have hten : ten.IsPositive 10 :=
    ⟨(Row.isInteger_iff (show Text.words ten.text = [['1', '0']] from rfl)).mpr rfl, by decide⟩
  have hlarge : large.IsPositive 99999999999 :=
    ⟨(Row.isInteger_iff (show Text.words large.text = [large.text] from rfl)).mpr rfl, by decide⟩
  have hnegative : negative.IsInteger (-3) :=
    (Row.isInteger_iff (show Text.words negative.text = [['-', '3']] from rfl)).mpr rfl
  have hreason : s!"line {negative.line}: dimension must be positive, got {(-3 : Int)}" =
      "line 5: dimension must be positive, got -3" := by decide
  have hdecides : Decides [count, ten, large, negative]
      "line 5: dimension must be positive, got -3" :=
    .dimension hcount (.cons hten (.cons hlarge .nil)) (by decide)
      (hreason ▸ .notPositive hnegative (by decide))
  have hrows : rowsOf "2\n\n10\n99999999999\n-3\n" = [count, ten, large, negative] := rfl
  have hfirst : [count, ten, large, negative] <+: rowsOf "2\n\n10\n99999999999\n-3\n" :=
    hrows ▸ List.prefix_rfl
  obtain ⟨hreasons, hdecided, -⟩ := parse_reports_first_fault "2\n\n10\n99999999999\n-3\n"
  exact ⟨(hreasons _).mpr (.inl ⟨_, hfirst, hdecides⟩),
    hdecided _ _ hfirst hdecides "2\n\n10\n99999999999\n-3\n4 4\n" ⟨_, rfl⟩⟩

end Chain

end ChainProduct
