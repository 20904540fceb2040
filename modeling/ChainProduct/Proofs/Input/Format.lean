import ChainProduct.Proofs.Input.Lines
import Mathlib.Data.List.Forall2

/-!
# The format of an input

Which bytes hold a chain: `IsInput data matrices dims` says that the lines of `data` start with a
matrix count and one dimension more than that, each alone on its line, with blank lines anywhere
and whatever else after the last one. The main theorem, `read_accepts_exactly`, says that reading
accepts exactly these bytes, however they are cut into pieces, and gives exactly these dimensions.

The scanner is compared with the format line by line: `Describe` says what values a scanner waits
for before the matrix count, and `Completes` what rows are still to come when some dimensions were
found. Each stage of the scanner has one lemma, by induction on the lines.
-/

namespace ChainProduct

/-- The values on lines: what is left of each line without the blanks at both ends, if anything is
left. There are none unless every line is UTF-8. -/
def valuesOf? (lines : List (List UInt8)) : Option (List (List Char)) :=
  (lines.mapM lineText?).map fun texts ↦ (texts.map Text.trim).filter (· ≠ [])

/-- The first values on the lines. What follows the line of the last one means nothing. -/
def StartWith (lines : List (List UInt8)) (values : List (List Char)) : Prop :=
  ∃ first rest, lines = first ++ rest ∧ valuesOf? first = some values

/-- The bytes hold a chain: the first value on their lines is a matrix count, and one dimension
more than that follows. -/
def IsInput (data : List UInt8) (matrices : Nat) (dims : List Nat) : Prop :=
  ∃ count rows, StartWith (data.splitOn lineFeed) (count :: rows) ∧
    Text.IsNumeral count matrices ∧ 1 ≤ matrices ∧ matrices ≤ indexLimit - 2 ∧
    rows.length = matrices + 1 ∧ List.Forall₂ Text.IsNumeral rows dims ∧
    ∀ d ∈ dims, 1 ≤ d ∧ d ≤ maxDimension

/-- The rows are those of the dimensions that are missing when some were found: there are as many
as have to follow, and they make up the chain with those found. -/
def Completes (matrices : Nat) (found : List Int) (rows : List (List Char)) (chain : Chain) :
    Prop :=
  ∃ numbers, List.Forall₂ (fun row number ↦ dimensionOf? row = some number ∧ 0 < number)
      rows numbers ∧
    found.length + rows.length = matrices + 1 ∧ Chain.ofList (found ++ numbers) = .ok chain

/-- The values are a matrix count and the rows of a chain of as many matrices. -/
def Describe (values : List (List Char)) (chain : Chain) : Prop :=
  ∃ count rows matrices, values = count :: rows ∧ countOf? count = some matrices ∧
    matrices ≠ 0 ∧ matrices + 1 < indexLimit ∧ Completes matrices [] rows chain

/-! ## First values -/

/-- The values on a line and those after it. -/
theorem valuesOf?_cons (line : List UInt8) (rest : List (List UInt8)) :
    valuesOf? (line :: rest) = do
      let text ← lineText? line
      let values ← valuesOf? rest
      return if Text.trim text = [] then values else Text.trim text :: values := by
  unfold valuesOf?
  rw [List.mapM_cons]
  cases lineText? line with
  | none => rfl
  | some text =>
      cases rest.mapM lineText? with
      | none => rfl
      | some texts =>
          by_cases hblank : Text.trim text = [] <;> simp [hblank]

/-- All lines start with no values. -/
theorem startWith_nil (lines : List (List UInt8)) : StartWith lines [] :=
  ⟨[], lines, rfl, rfl⟩

/-- Without lines there are no values. -/
theorem eq_nil_of_startWith_nil {values : List (List Char)} (h : StartWith [] values) :
    values = [] := by
  obtain ⟨first, rest, hlines, hvalues⟩ := h
  obtain ⟨rfl, rfl⟩ := List.append_eq_nil_iff.mp hlines.symm
  exact (Option.some.inj hvalues).symm

/-- Lines start with a value exactly when the first of them that is not blank holds it. -/
theorem startWith_cons_iff {line : List UInt8} {lines : List (List UInt8)} {value : List Char}
    {values : List (List Char)} :
    StartWith (line :: lines) (value :: values) ↔ ∃ text, lineText? line = some text ∧
      if Text.trim text = [] then StartWith lines (value :: values)
      else Text.trim text = value ∧ StartWith lines values := by
  constructor
  · intro hstart
    obtain ⟨first, rest, hlines, hvalues⟩ := hstart
    cases first with
    | nil => simp [valuesOf?] at hvalues
    | cons head first =>
        obtain ⟨rfl, rfl⟩ : line = head ∧ lines = first ++ rest := by simpa using hlines
        rw [valuesOf?_cons] at hvalues
        obtain ⟨text, htext, hvalues⟩ := Option.bind_eq_some_iff.mp hvalues
        obtain ⟨others, hothers, hvalues⟩ := Option.bind_eq_some_iff.mp hvalues
        refine ⟨text, htext, ?_⟩
        split
        · next hblank =>
            rw [if_pos hblank] at hvalues
            obtain rfl := Option.some.inj hvalues
            exact ⟨first, rest, rfl, hothers⟩
        · next hvalue =>
            rw [if_neg hvalue] at hvalues
            obtain ⟨rfl, rfl⟩ := List.cons.inj (Option.some.inj hvalues)
            exact ⟨rfl, first, rest, rfl, hothers⟩
  · intro hline
    obtain ⟨text, htext, h⟩ := hline
    split at h
    · next hblank =>
        obtain ⟨first, rest, rfl, hvalues⟩ := h
        exact ⟨line :: first, rest, rfl, by simp [valuesOf?_cons, htext, hvalues, hblank]⟩
    · next hvalue =>
        obtain ⟨rfl, first, rest, rfl, hvalues⟩ := h
        exact ⟨line :: first, rest, rfl, by simp [valuesOf?_cons, htext, hvalues, hvalue]⟩

/-- Lines start with values that satisfy a condition, which does not hold without a value, exactly
when the first line is text and is passed over if it is blank, and otherwise holds the first of
these values. -/
theorem exists_startWith_cons_iff {line : List UInt8} {lines : List (List UInt8)}
    {P : List (List Char) → Prop} (h : ¬ P []) :
    (∃ values, StartWith (line :: lines) values ∧ P values) ↔
      ∃ text, lineText? line = some text ∧
        if Text.trim text = [] then ∃ values, StartWith lines values ∧ P values
        else ∃ values, StartWith lines values ∧ P (Text.trim text :: values) := by
  constructor
  · intro hexists
    obtain ⟨values, hstart, hvalues⟩ := hexists
    cases values with
    | nil => exact absurd hvalues h
    | cons value values =>
        obtain ⟨text, htext, hline⟩ := startWith_cons_iff.mp hstart
        refine ⟨text, htext, ?_⟩
        split
        · next hblank =>
            rw [if_pos hblank] at hline
            exact ⟨value :: values, hline, hvalues⟩
        · next hvalue =>
            rw [if_neg hvalue] at hline
            obtain ⟨rfl, hline⟩ := hline
            exact ⟨values, hline, hvalues⟩
  · intro hexists
    obtain ⟨text, htext, hline⟩ := hexists
    split at hline
    · next hblank =>
        obtain ⟨values, hstart, hvalues⟩ := hline
        cases values with
        | nil => exact absurd hvalues h
        | cons value values =>
            refine ⟨value :: values, startWith_cons_iff.mpr ⟨text, htext, ?_⟩, hvalues⟩
            rwa [if_pos hblank]
    · next hvalue =>
        obtain ⟨values, hstart, hvalues⟩ := hline
        refine ⟨_, startWith_cons_iff.mpr ⟨text, htext, ?_⟩, hvalues⟩
        rw [if_neg hvalue]
        exact ⟨rfl, hstart⟩

/-! ## Rows of numbers -/

/-- A numeral holds no blank. -/
theorem any_isBlank_of_isNumeral {text : List Char} {value : Nat}
    (h : Text.IsNumeral text value) : text.any Text.isBlank = false := by
  obtain ⟨digits, htext, ⟨-, hdigits⟩, -⟩ := h
  have hblank : digits.any Text.isBlank = false :=
    List.any_eq_false.mpr fun c hc ↦ by simp [Text.not_isBlank_of_isDigit (hdigits c hc)]
  rcases htext with rfl | rfl
  · exact hblank
  · rw [List.any_cons, hblank]
    decide

/-- A row of a positive dimension is a numeral of it, in the range of integers with a sign. -/
theorem dimensionOf?_pos_iff {row : List Char} {number : Int} :
    dimensionOf? row = some number ∧ 0 < number ↔
      ∃ value, Text.IsNumeral row value ∧ number = value ∧ 0 < value ∧
        value ≤ 0x7fff_ffff_ffff_ffff := by
  constructor
  · rintro ⟨hrow, hpos⟩
    obtain ⟨hrow, hrange⟩ := Option.filter_eq_some_iff.mp hrow
    obtain ⟨value, hvalue, rfl, hvaluePos⟩ := Text.integer?_eq_some_pos_iff.mp ⟨hrow, hpos⟩
    simp only [decide_eq_true_eq] at hrange
    exact ⟨value, hvalue, rfl, hvaluePos, by omega⟩
  · intro hexists
    obtain ⟨value, hvalue, rfl, hpos, hmost⟩ := hexists
    obtain ⟨hrow, hvaluePos⟩ := Text.integer?_eq_some_pos_iff.mpr ⟨value, hvalue, rfl, hpos⟩
    refine ⟨Option.filter_eq_some_iff.mpr ⟨hrow, ?_⟩, hvaluePos⟩
    simp only [decide_eq_true_eq]
    omega

/-- A matrix count is a numeral in the range of indices. -/
theorem countOf?_eq_some_iff {text : List Char} {count : Nat} :
    countOf? text = some count ↔ Text.IsNumeral text count ∧ count < indexLimit := by
  rw [countOf?, Option.filter_eq_some_iff, Text.natural?_eq_some_iff, decide_eq_true_eq]

/-- A dimension is a numeral in the range of 64-bit integers with a sign. -/
theorem dimensionOf?_eq_some_iff {text : List Char} {number : Int} :
    dimensionOf? text = some number ↔ Text.IsSignedNumeral text number ∧
      -0x8000_0000_0000_0000 ≤ number ∧ number ≤ 0x7fff_ffff_ffff_ffff := by
  rw [dimensionOf?, Option.filter_eq_some_iff, Text.integer?_eq_some_iff, decide_eq_true_eq]

/-! ## Rows of a chain -/

/-- Before all dimensions are found, rows have to follow. -/
theorem not_completes_nil {matrices : Nat} {found : List Int} (h : found.length ≤ matrices)
    (chain : Chain) : ¬ Completes matrices found [] chain := by
  intro hcomplete
  obtain ⟨numbers, -, hlength, -⟩ := hcomplete
  rw [List.length_nil] at hlength
  omega

/-- The first row that follows is that of a dimension, and the others complete the chain with it. -/
theorem completes_cons_iff {matrices : Nat} {found : List Int} {row : List Char}
    {rows : List (List Char)} {chain : Chain} :
    Completes matrices found (row :: rows) chain ↔
      ∃ number, (dimensionOf? row = some number ∧ 0 < number) ∧
        Completes matrices (found ++ [number]) rows chain := by
  have hlength (number : Int) :
      (found ++ [number]).length + rows.length = found.length + (row :: rows).length := by
    simp only [List.length_append, List.length_cons, List.length_nil]
    omega
  constructor
  · intro hcomplete
    obtain ⟨numbers, hrows, hcount, hchain⟩ := hcomplete
    cases hrows with
    | @cons _ number _ numbers hrow hrows =>
        refine ⟨number, hrow, numbers, hrows, (hlength number).trans hcount, ?_⟩
        rwa [List.append_assoc, List.singleton_append]
  · intro hcomplete
    obtain ⟨number, hrow, numbers, hrows, hcount, hchain⟩ := hcomplete
    refine ⟨number :: numbers, .cons hrow hrows, (hlength number).symm.trans hcount, ?_⟩
    rwa [List.append_assoc, List.singleton_append] at hchain

/-- Once all dimensions are found, no row is missing. -/
theorem completes_full_iff {matrices : Nat} {found : List Int} {rows : List (List Char)}
    {chain : Chain} (h : found.length = matrices + 1) :
    Completes matrices found rows chain ↔ rows = [] ∧ Chain.ofList found = .ok chain := by
  constructor
  · intro hcomplete
    obtain ⟨numbers, hrows, hcount, hchain⟩ := hcomplete
    obtain rfl : rows = [] := List.length_eq_zero_iff.mp (by omega)
    cases hrows
    exact ⟨rfl, by rwa [List.append_nil] at hchain⟩
  · rintro ⟨rfl, hchain⟩
    exact ⟨[], .nil, h, by rwa [List.append_nil]⟩

/-- A matrix count is followed by the rows of all dimensions. -/
theorem describe_cons_iff {count : List Char} {rows : List (List Char)} {chain : Chain} :
    Describe (count :: rows) chain ↔ ∃ matrices, countOf? count = some matrices ∧
      matrices ≠ 0 ∧ matrices + 1 < indexLimit ∧ Completes matrices [] rows chain := by
  constructor
  · intro hdescribe
    obtain ⟨count, rows, matrices, hvalues, h⟩ := hdescribe
    obtain ⟨rfl, rfl⟩ := List.cons.inj hvalues
    exact ⟨matrices, h⟩
  · rintro ⟨matrices, h⟩
    exact ⟨count, rows, matrices, rfl, h⟩

/-- A chain is not described without a matrix count. -/
theorem not_describe_nil (chain : Chain) : ¬ Describe [] chain := by
  intro hdescribe
  obtain ⟨count, rows, matrices, hvalues, -⟩ := hdescribe
  exact List.cons_ne_nil count rows hvalues.symm

/-! ## The scanner against the format -/

/-- A scanner that has found some dimensions accepts exactly the lines that start with the rows of
the others. -/
theorem verdict_dims_eq_ok_iff (seen : Nat) {matrices : Nat} {found : Array Int}
    {lines : List (List UInt8)} {chain : Chain} (h : found.size ≤ matrices) :
    Scanner.verdict { lines := seen, stage := .dims matrices found } lines = .ok chain ↔
      ∃ rows, StartWith lines rows ∧ Completes matrices found.toList rows chain := by
  induction lines generalizing seen found with
  | nil =>
      have hnot : ¬ ∃ rows, StartWith [] rows ∧ Completes matrices found.toList rows chain := by
        intro hexists
        obtain ⟨rows, hstart, hrows⟩ := hexists
        obtain rfl := eq_nil_of_startWith_nil hstart
        exact not_completes_nil h chain hrows
      simp [Scanner.verdict, Scanner.scan, pure, Except.pure, hnot]
  | cons line lines ih =>
      rw [Scanner.verdict_cons_eq_ok_iff, exists_startWith_cons_iff (not_completes_nil h chain)]
      refine exists_congr fun text ↦ and_congr_right fun _ ↦ ?_
      split
      · exact ih (seen + 1) h
      · simp only [completes_cons_iff]
        cases hrow : dimensionOf? (Text.trim text) with
        | none => simp [Stage.take, hrow, refuse]
        | some number =>
            by_cases hnumber : number ≤ 0
            · simp [Stage.take, hrow, hnumber, refuse, show ¬ 0 < number by omega]
            · have hpos : 0 < number := by omega
              have hsingle : (Text.trim text).any Text.isBlank = false := by
                obtain ⟨value, hvalue, -⟩ := dimensionOf?_pos_iff.mp ⟨hrow, hpos⟩
                exact any_isBlank_of_isNumeral hvalue
              -- The dimension is either followed by another one or the last one.
              by_cases hmore : found.size < matrices
              · have hpush : (found.push number).size ≤ matrices := by
                  rw [Array.size_push]
                  omega
                simpa [Stage.take, hrow, hnumber, hmore, hsingle, hpos] using
                  ih (seen + 1) hpush
              · have hfull : (found.toList ++ [number]).length = matrices + 1 := by
                  simp only [List.length_append, Array.length_toList, List.length_singleton]
                  omega
                simp [Stage.take, hrow, hnumber, hmore, hsingle, hpos, completes_full_iff hfull,
                  startWith_nil]

/-- A scanner that waits for the matrix count accepts exactly the lines that start with the
description of a chain. -/
theorem verdict_count_eq_ok_iff (seen : Nat) {lines : List (List UInt8)} {chain : Chain} :
    Scanner.verdict { lines := seen, stage := .count } lines = .ok chain ↔
      ∃ values, StartWith lines values ∧ Describe values chain := by
  induction lines generalizing seen with
  | nil =>
      have hnot : ¬ ∃ values, StartWith [] values ∧ Describe values chain := by
        intro hexists
        obtain ⟨values, hstart, hvalues⟩ := hexists
        obtain rfl := eq_nil_of_startWith_nil hstart
        exact not_describe_nil chain hvalues
      simp [Scanner.verdict, Scanner.scan, pure, Except.pure, hnot]
  | cons line lines ih =>
      rw [Scanner.verdict_cons_eq_ok_iff, exists_startWith_cons_iff (not_describe_nil chain)]
      refine exists_congr fun text ↦ and_congr_right fun _ ↦ ?_
      split
      · exact ih (seen + 1)
      · simp only [describe_cons_iff]
        cases hcount : countOf? (Text.trim text) with
        | none => simp [Stage.take, hcount, refuse]
        | some matrices =>
            have hsingle : (Text.trim text).any Text.isBlank = false :=
              any_isBlank_of_isNumeral (countOf?_eq_some_iff.mp hcount).1
            cases matrices with
            | zero => simp [Stage.take, hcount, refuse]
            | succ matrices =>
                by_cases hlarge : matrices + 1 + 1 < indexLimit
                · have hnone : (#[] : Array Int).size ≤ matrices + 1 := Nat.zero_le _
                  simpa [Stage.take, hcount, hlarge, hsingle] using
                    verdict_dims_eq_ok_iff (seen + 1) hnone
                · simp [Stage.take, hcount, hlarge, refuse]

/-! ## Inputs -/

/-- The rows of all dimensions of a chain are their numerals. -/
theorem completes_all_iff {matrices : Nat} {rows : List (List Char)} {chain : Chain} :
    Completes matrices [] rows chain ↔ chain.matrices = matrices ∧ rows.length = matrices + 1 ∧
      List.Forall₂ Text.IsNumeral rows chain.dims.toList := by
  constructor
  · intro hcomplete
    obtain ⟨numbers, hrows, hcount, hchain⟩ := hcomplete
    rw [List.length_nil, Nat.zero_add] at hcount
    obtain ⟨-, -, hdims⟩ := Chain.ofList_eq_ok_iff.mp hchain
    have hsize : chain.dims.size = numbers.length := by
      rw [← Array.length_toList, hdims, List.length_map, List.nil_append]
    refine ⟨?_, hcount, ?_⟩
    · rw [Chain.matrices, hsize, ← hrows.length_eq, hcount, Nat.add_sub_cancel]
    · rw [hdims, List.nil_append, List.forall₂_map_right_iff]
      refine hrows.imp fun row number hrow ↦ ?_
      obtain ⟨value, hvalue, rfl, -⟩ := dimensionOf?_pos_iff.mp hrow
      exact hvalue
  · intro hcomplete
    obtain ⟨hmatrices, hcount, hrows⟩ := hcomplete
    refine ⟨chain.dims.toList.map Int.ofNat, ?_, by simpa using hcount, ?_⟩
    · -- Dimensions of a chain are small enough to be read as integers with a sign.
      rw [List.forall₂_map_right_iff]
      have hpairs : List.Forall₂ (fun d row ↦ IsDimension (d : Nat) ∧ Text.IsNumeral row d)
          chain.dims.toList rows :=
        (List.forall₂_and_left _ _).mpr
          ⟨fun d hd ↦ chain.isDimension d (Array.mem_toList_iff.mp hd), hrows.flip⟩
      refine hpairs.flip.imp fun row d hpair ↦ ?_
      obtain ⟨⟨hlow, hhigh⟩, hvalue⟩ := hpair
      refine dimensionOf?_pos_iff.mpr ⟨d, hvalue, rfl, by omega, ?_⟩
      have : maxDimension ≤ 0x7fff_ffff_ffff_ffff := by decide
      omega
    · refine Chain.ofList_eq_ok_iff.mpr ⟨?_, ?_, ?_⟩
      · simpa using chain.two_le_size
      · intro x hx
        obtain ⟨d, hd, rfl⟩ := List.mem_map.mp hx
        exact chain.isDimension d (Array.mem_toList_iff.mp hd)
      · rw [List.nil_append, List.map_map]
        exact (List.map_id _).symm

/-- The dimensions of an input are those of a chain. -/
theorem IsInput.exists_chain {data : List UInt8} {matrices : Nat} {dims : List Nat}
    (h : IsInput data matrices dims) :
    ∃ chain : Chain, chain.matrices = matrices ∧ chain.dims.toList = dims := by
  obtain ⟨count, rows, -, -, hpos, -, hcount, hrows, hdims⟩ := h
  have hlength : dims.length = matrices + 1 := hrows.length_eq.symm.trans hcount
  have hsize : dims.toArray.size = matrices + 1 := hlength
  refine ⟨⟨dims.toArray, by omega, ?_⟩, ?_, rfl⟩
  · intro d hd
    obtain ⟨hlow, hhigh⟩ := hdims d (List.mem_toArray.mp hd)
    exact ⟨by omega, by omega⟩
  · rw [Chain.matrices, hsize, Nat.add_sub_cancel]

/-- Lines start with the description of a chain exactly when they are an input of its dimensions. -/
theorem exists_describe_iff {data : List UInt8} {chain : Chain} :
    (∃ values, StartWith (data.splitOn lineFeed) values ∧ Describe values chain) ↔
      IsInput data chain.matrices chain.dims.toList := by
  have hdims : ∀ d ∈ chain.dims.toList, 1 ≤ d ∧ d ≤ maxDimension := by
    intro d hd
    obtain ⟨hlow, hhigh⟩ := chain.isDimension d (Array.mem_toList_iff.mp hd)
    exact ⟨by omega, by omega⟩
  constructor
  · intro hdescribe
    obtain ⟨values, hstart, count, rows, matrices, rfl, hcount, hzero, hlimit, hrows⟩ := hdescribe
    obtain ⟨rfl, hlength, hrows⟩ := completes_all_iff.mp hrows
    refine ⟨count, rows, hstart, (countOf?_eq_some_iff.mp hcount).1, ?_, ?_, hlength, hrows, hdims⟩
      <;> omega
  · intro hinput
    obtain ⟨count, rows, hstart, hcount, hpos, hlimit, hlength, hrows, -⟩ := hinput
    have hlarge : chain.matrices + 1 < indexLimit := by
      have : 2 ≤ indexLimit := by decide
      omega
    exact ⟨count :: rows, hstart, count, rows, chain.matrices, rfl,
      countOf?_eq_some_iff.mpr ⟨hcount, by omega⟩, by omega, hlarge,
      completes_all_iff.mpr ⟨rfl, hlength, hrows⟩⟩

namespace Chain

/-- Reading gives a chain exactly from the inputs of its dimensions. -/
theorem read_bytes_eq_ok_iff {pieces : List (List UInt8)} {chain : Chain} :
    read (pieces.map .bytes) = .ok chain ↔
      IsInput pieces.flatten chain.matrices chain.dims.toList := by
  rw [read_bytes_eq_verdict, Scanner.initial, verdict_count_eq_ok_iff, exists_describe_iff]

/-- What follows the line of the last dimension means nothing. -/
theorem read_append_lines {pieces : List (List UInt8)} {chain : Chain}
    (h : read (pieces.map .bytes) = .ok chain) (more : List UInt8) :
    read ((pieces ++ [lineFeed :: more]).map .bytes) = .ok chain := by
  rw [read_bytes_eq_ok_iff] at h ⊢
  obtain ⟨count, rows, ⟨first, rest, hlines, hvalues⟩, hinput⟩ := h
  refine ⟨count, rows, ⟨first, rest ++ more.splitOn lineFeed, ?_, hvalues⟩, hinput⟩
  rw [List.flatten_append, List.flatten_singleton, List.splitOn_append_cons_self, hlines,
    List.append_assoc]

/-- Reading accepts exactly the inputs, with their matrix count and their dimensions, and refuses
all other bytes. What holds a text is what its UTF-8 bytes hold. -/
theorem read_accepts_exactly (pieces : List (List UInt8)) :
    (∀ matrices dims, (∃ chain, read (pieces.map .bytes) = .ok chain ∧
        chain.matrices = matrices ∧ chain.dims.toList = dims) ↔
      IsInput pieces.flatten matrices dims) ∧
    ((∃ cause, read (pieces.map .bytes) = .error cause) ↔
      ∀ matrices dims, ¬ IsInput pieces.flatten matrices dims) ∧
    ∀ text : String, parse text = read [.bytes text.toUTF8.data.toList] := by
  have haccepts : ∀ matrices dims, (∃ chain, read (pieces.map .bytes) = .ok chain ∧
      chain.matrices = matrices ∧ chain.dims.toList = dims) ↔
      IsInput pieces.flatten matrices dims := by
    intro matrices dims
    constructor
    · rintro ⟨chain, hread, rfl, rfl⟩
      exact read_bytes_eq_ok_iff.mp hread
    · intro hinput
      obtain ⟨chain, rfl, rfl⟩ := hinput.exists_chain
      exact ⟨chain, read_bytes_eq_ok_iff.mpr hinput, rfl, rfl⟩
  refine ⟨haccepts, ⟨?_, ?_⟩, fun text ↦ rfl⟩
  · rintro ⟨cause, hrefused⟩ matrices dims hinput
    obtain ⟨chain, hread, -⟩ := (haccepts matrices dims).mpr hinput
    rw [hrefused] at hread
    contradiction
  · intro hnone
    cases hread : read (pieces.map .bytes) with
    | error cause => exact ⟨cause, rfl⟩
    | ok chain => exact absurd (read_bytes_eq_ok_iff.mp hread) (hnone _ _)

end Chain

end ChainProduct
