import ChainProduct.Input.Reader

/-!
# Reading is scanning lines

A reader takes bytes one at a time and keeps those of the line it is in. The main theorem,
`read_eq`, says that what it makes of a source is what scanning the lines of its bytes gives: they
are cut at every line feed, and the bytes after the last one are a line like the others, unless the
source fails. For bytes in pieces this is `read_bytes_eq_verdict`.
-/

namespace ChainProduct

namespace Scanner

/-- Take lines one after another. -/
def scan (scanner : Scanner) (lines : List (List UInt8)) : Scan Scanner :=
  lines.foldlM line scanner

/-- What scanning lines comes to when nothing follows them. -/
def verdict (scanner : Scanner) (lines : List (List UInt8)) : Verdict :=
  match scanner.scan lines with
  | .error verdict => verdict
  | .ok scanner => .error scanner.stage.shortage

/-- A scanner that decides on a line looks at no other line. -/
theorem verdict_cons_of_error {scanner : Scanner} {first : List UInt8} {decision : Verdict}
    (h : scanner.line first = .error decision) (rest : List (List UInt8)) :
    scanner.verdict (first :: rest) = decision := by
  simp [verdict, scan, h, bind, Except.bind]

/-- A scanner that goes on after a line scans the rest. -/
theorem verdict_cons_of_ok {scanner next : Scanner} {first : List UInt8}
    (h : scanner.line first = .ok next) (rest : List (List UInt8)) :
    scanner.verdict (first :: rest) = next.verdict rest := by
  simp [verdict, scan, h, bind, Except.bind]

/-- Scanning goes on behind a line unless it decides. -/
theorem scan_cons (scanner : Scanner) (first : List UInt8) (rest : List (List UInt8)) :
    scanner.scan (first :: rest) = scanner.line first >>= fun next ↦ next.scan rest :=
  List.foldlM_cons

/-- Scanning goes on behind the first lines unless they decide. -/
theorem scan_append (scanner : Scanner) (first rest : List (List UInt8)) :
    scanner.scan (first ++ rest) = scanner.scan first >>= fun next ↦ next.scan rest :=
  List.foldlM_append

/-- So does what scanning comes to. -/
theorem verdict_append (scanner : Scanner) (first rest : List (List UInt8)) :
    scanner.verdict (first ++ rest) =
      match scanner.scan first with
      | .error decision => decision
      | .ok next => next.verdict rest := by
  rw [verdict, scan_append]
  cases scanner.scan first with
  | error decision => rfl
  | ok next => rfl

/-- A line that is not UTF-8 is refused. -/
theorem line_of_not_text {scanner : Scanner} {bytes : List UInt8} (h : lineText? bytes = none) :
    scanner.line bytes = refuse (.unreadable .notText) := by
  simp [line, LineContent.ofBytes?, h]

/-- A blank line is counted and otherwise passed over. -/
theorem line_of_blank {scanner : Scanner} {bytes : List UInt8} {text : List Char}
    (h : lineText? bytes = some text) (hblank : Text.trim text = []) :
    scanner.line bytes = .ok { scanner with lines := scanner.lines + 1 } := by
  simp [line, LineContent.ofBytes?, LineContent.ofText, h, hblank]

/-- A line with blanks inside is refused. -/
theorem line_of_several {scanner : Scanner} {bytes : List UInt8} {text : List Char}
    (h : lineText? bytes = some text) (hvalue : Text.trim text ≠ [])
    (hblank : (Text.trim text).any Text.isBlank = true) :
    scanner.line bytes =
      refuse (.severalValues (scanner.lines + 1) (String.ofList (Text.trim text))) := by
  simp only [line, LineContent.ofBytes?, LineContent.ofText, h, Option.map_some, if_neg hvalue,
    if_pos hblank]

/-- The value on any other line is taken. -/
theorem line_of_single (scanner : Scanner) {bytes : List UInt8} {text : List Char}
    (h : lineText? bytes = some text) (hvalue : Text.trim text ≠ [])
    (hblank : (Text.trim text).any Text.isBlank = false) :
    scanner.line bytes = do
      let stage ← scanner.stage.take (scanner.lines + 1) (Text.trim text)
      return { lines := scanner.lines + 1, stage } := by
  simp [line, LineContent.ofBytes?, LineContent.ofText, h, hvalue, hblank]

/-- A line without bytes is blank. -/
theorem line_nil (scanner : Scanner) :
    scanner.line [] = .ok { scanner with lines := scanner.lines + 1 } := by
  have htext : lineText? [] = some [] := by decide
  exact line_of_blank htext rfl

/-- Lines are accepted when the first one is text and is blank, with the rest accepted, or holds a
value that is taken, with the rest accepted unless the value decided. -/
theorem verdict_cons_eq_ok_iff {scanner : Scanner} {first : List UInt8}
    {rest : List (List UInt8)} {chain : Chain} :
    scanner.verdict (first :: rest) = .ok chain ↔ ∃ text, lineText? first = some text ∧
      if Text.trim text = [] then
        verdict { scanner with lines := scanner.lines + 1 } rest = .ok chain
      else (Text.trim text).any Text.isBlank = false ∧
        match scanner.stage.take (scanner.lines + 1) (Text.trim text) with
        | .error decision => decision = .ok chain
        | .ok stage => verdict { lines := scanner.lines + 1, stage } rest = .ok chain := by
  cases htext : lineText? first with
  | none =>
      rw [verdict_cons_of_error (line_of_not_text htext)]
      simp
  | some text =>
      simp only [Option.some.injEq, exists_eq_left']
      by_cases hblank : Text.trim text = []
      · rw [verdict_cons_of_ok (line_of_blank htext hblank), if_pos hblank]
      · rw [if_neg hblank]
        cases hseveral : (Text.trim text).any Text.isBlank with
        | true =>
            rw [verdict_cons_of_error (line_of_several htext hblank hseveral)]
            simp
        | false =>
            have hline := line_of_single scanner htext hblank hseveral
            cases htake : scanner.stage.take (scanner.lines + 1) (Text.trim text) with
            | error decision =>
                rw [htake] at hline
                rw [verdict_cons_of_error hline]
                simp
            | ok stage =>
                rw [htake] at hline
                rw [verdict_cons_of_ok hline]
                simp

end Scanner

namespace Source

/-- The bytes that a source serves before it fails. A read that was interrupted is repeated. -/
def served : Source → List UInt8
  | [] => []
  | .bytes piece :: rest => piece ++ served rest
  | .failure error :: rest => if error.kind = .interrupted then served rest else []

/-- The failure of a source, unless it gets to its end. -/
def failure? : Source → Option ReadError
  | [] => none
  | .bytes _ :: rest => failure? rest
  | .failure error :: rest => if error.kind = .interrupted then failure? rest else some error

/-- Pieces of bytes serve all their bytes and do not fail. -/
theorem served_map_bytes (pieces : List (List UInt8)) :
    served (pieces.map .bytes) = pieces.flatten ∧ failure? (pieces.map .bytes) = none := by
  induction pieces with
  | nil => exact ⟨rfl, rfl⟩
  | cons piece pieces ih => simp [served, failure?, ih]

end Source

/-- The lines of bytes that a line feed ends. -/
def completeLines (data : List UInt8) : List (List UInt8) :=
  (data.splitOn lineFeed).dropLast

namespace Reader

/-- Bytes are cut into lines: the complete ones are scanned, and the last one is kept. -/
theorem foldlM_byte {reader : Reader} (h : lineFeed ∉ reader.pending) (data : List UInt8) :
    data.foldlM byte reader = do
      let lines := (reader.pending.reverse ++ data).splitOn lineFeed
      let scanner ← reader.scanner.scan lines.dropLast
      return { scanner, pending := (lines.getLastD []).reverse } := by
  induction data generalizing reader with
  | nil =>
      have hlines : reader.pending.reverse.splitOn lineFeed = [reader.pending.reverse] :=
        List.splitOn_eq_singleton (by simpa using h)
      simp [hlines, Scanner.scan, pure, Except.pure, bind, Except.bind]
  | cons next rest ih =>
      rw [List.foldlM_cons]
      by_cases hnext : next = lineFeed
      · -- The pending bytes are the first line of all that is left.
        subst hnext
        have hlines : (reader.pending.reverse ++ lineFeed :: rest).splitOn lineFeed =
            reader.pending.reverse :: rest.splitOn lineFeed :=
          List.splitOn_append_cons_self_of_not_mem (by simpa using h) rest
        obtain ⟨line, lines, hrest⟩ := List.exists_cons_of_ne_nil
          (List.splitOn_ne_nil lineFeed rest)
        cases hline : reader.scanner.line reader.pending.reverse with
        | error verdict =>
            simp [byte, hline, hlines, hrest, Scanner.scan, bind, Except.bind]
        | ok scanner =>
            have hstep : reader.byte lineFeed = .ok { scanner, pending := [] } := by
              simp [byte, hline, bind, Except.bind, pure, Except.pure]
            rw [hstep]
            show rest.foldlM byte { scanner, pending := [] } = _
            rw [ih (by simp), hlines, hrest]
            simp [hrest, Scanner.scan, hline, bind, Except.bind]
      · have hstep : reader.byte next = .ok { reader with pending := next :: reader.pending } := by
          simp [byte, hnext]
        rw [hstep]
        show rest.foldlM byte { reader with pending := next :: reader.pending } = _
        rw [ih (by simpa [eq_comm] using ⟨hnext, h⟩)]
        simp

/-- A source is read as the bytes that it serves, and then its failure. -/
theorem foldlM_take (source : Source) (reader : Reader) :
    source.foldlM take reader = source.served.foldlM byte reader >>= fun next ↦
      match source.failure? with
      | none => .ok next
      | some error => refuse (.unreadable error) := by
  induction source generalizing reader with
  | nil => rfl
  | cons read rest ih =>
      rw [List.foldlM_cons]
      cases read with
      | bytes piece =>
          rw [take, Source.served, List.foldlM_append, bind_assoc]
          exact congrArg _ (funext ih)
      | failure error =>
          by_cases herror : error.kind = .interrupted
          · simp only [take, Source.served, Source.failure?, herror, if_true, ok_bind, ih]
          · simp [take, Source.served, Source.failure?, herror, refuse]

/-- At the end of a source the last line counts like the others, also when it has no bytes. -/
theorem finish_eq_verdict (scanner : Scanner) (last : List UInt8) :
    finish { scanner, pending := last.reverse } = scanner.verdict [last] := by
  by_cases hlast : last = []
  · subst hlast
    rw [Scanner.verdict_cons_of_ok scanner.line_nil]
    rfl
  · simp only [finish, lastLine, List.reverse_eq_nil_iff, hlast, if_false, List.reverse_reverse]
    cases hline : scanner.line last with
    | error verdict => exact (Scanner.verdict_cons_of_error hline []).symm
    | ok next => exact (Scanner.verdict_cons_of_ok hline []).symm

end Reader

/-- What is read from a source is what scanning the lines of its bytes comes to. When it fails,
these are the complete lines, and the failure is the outcome unless they decide. -/
theorem Chain.read_eq (source : Source) : Chain.read source =
    match source.failure? with
    | none => Scanner.initial.verdict (source.served.splitOn lineFeed)
    | some error =>
        match Scanner.initial.scan (completeLines source.served) with
        | .error verdict => verdict
        | .ok _ => .error (.unreadable error) := by
  have hne := List.splitOn_ne_nil lineFeed source.served
  obtain ⟨complete, last, hlines⟩ : ∃ complete last,
      source.served.splitOn lineFeed = complete ++ [last] :=
    ⟨_, _, (List.dropLast_concat_getLast hne).symm⟩
  -- The last line is the one that no line feed ends; the reader takes it at the end.
  rw [Chain.read, Reader.foldlM_take, Reader.foldlM_byte (by simp [Reader.initial]), completeLines]
  simp only [Reader.initial, List.reverse_nil, List.nil_append, hlines, List.dropLast_concat,
    List.getLastD_concat]
  rw [Scanner.verdict_append]
  cases hscan : Scanner.initial.scan complete with
  | error decision => cases source.failure? <;> rfl
  | ok next =>
      cases source.failure? with
      | none => exact Reader.finish_eq_verdict next last
      | some error => rfl

/-- What is read from pieces of bytes is what scanning the lines of all these bytes comes to. -/
theorem Chain.read_bytes_eq_verdict (pieces : List (List UInt8)) :
    Chain.read (pieces.map .bytes) =
      Scanner.initial.verdict (pieces.flatten.splitOn lineFeed) := by
  obtain ⟨hserved, hfailure⟩ := Source.served_map_bytes pieces
  rw [read_eq, hserved, hfailure]

end ChainProduct
