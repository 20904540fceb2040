import ChainProduct.Input.Scanner
import ChainProduct.Input.Source

/-!
# Reading a chain from a source

The bytes of a source are cut into lines at every line feed, and a line is scanned as soon as it
has ended. The bytes after the last line feed count as a line at the end of the source, if there
are any. A reader that has decided looks at nothing more. A read that was interrupted is repeated;
any other failure ends the reading, if it has not been decided by then.

Main statements: how bytes are cut into pieces makes no difference (`read_bytes_append`), nor does
a read that was interrupted (`read_interrupted`), and nothing after the read that decides matters
(`read_of_decided`).
-/

namespace ChainProduct

/-- The byte that ends a line. -/
def lineFeed : UInt8 := 10

/-- A reader that has not decided: the scanner of the lines before, and the bytes of the line it
is in, the latest one first. -/
structure Reader where
  scanner : Scanner
  pending : List UInt8
  deriving DecidableEq, Repr

namespace Reader

/-- The reader before the first byte. -/
def initial : Reader :=
  { scanner := .initial, pending := [] }

/-- Take one byte. -/
def byte (reader : Reader) (next : UInt8) : Scan Reader :=
  if next = lineFeed then do
    let scanner ← reader.scanner.line reader.pending.reverse
    return { scanner, pending := [] }
  else
    .ok { reader with pending := next :: reader.pending }

/-- Take what a read gave. -/
def take (reader : Reader) : Read → Scan Reader
  | .bytes piece => piece.foldlM byte reader
  | .failure error =>
      if error.kind = .interrupted then .ok reader else refuse (.unreadable error)

/-- The scanner at the end of the source. -/
def lastLine (reader : Reader) : Scan Scanner :=
  if reader.pending = [] then .ok reader.scanner else reader.scanner.line reader.pending.reverse

/-- The verdict at the end of the source. -/
def finish (reader : Reader) : Verdict :=
  match reader.lastLine with
  | .error verdict => verdict
  | .ok scanner => .error scanner.stage.shortage

end Reader

namespace Chain

/-- The chain that a source holds. -/
def read (source : Source) : Verdict :=
  match source.foldlM Reader.take Reader.initial with
  | .error verdict => verdict
  | .ok reader => reader.finish

/-- The chain that a text holds. -/
def parse (text : String) : Verdict :=
  read (.ofText text)

/-- Bytes read in two pieces count as bytes read in one. -/
theorem read_bytes_append (before after : Source) (first second : List UInt8) :
    read (before ++ .bytes (first ++ second) :: after) =
      read (before ++ .bytes first :: .bytes second :: after) := by
  simp [read, Reader.take]

/-- A read that was interrupted changes nothing. -/
theorem read_interrupted (before after : Source) {error : ReadError}
    (h : error.kind = .interrupted) : read (before ++ .failure error :: after) =
      read (before ++ after) := by
  have hskip (reader : Reader) : reader.take (.failure error) = .ok reader := by
    simp [Reader.take, h]
  simp [read, hskip, bind, Except.bind]

/-- Nothing that comes after the decision changes it. -/
theorem read_of_decided {before : Source} {verdict : Verdict}
    (h : before.foldlM Reader.take Reader.initial = .error verdict) (after : Source) :
    read (before ++ after) = verdict := by
  simp [read, h, bind, Except.bind]

end Chain

end ChainProduct
