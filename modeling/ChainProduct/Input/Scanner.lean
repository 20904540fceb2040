import ChainProduct.Chain
import ChainProduct.Input.Line

/-!
# Scanning lines for a chain

The first value on the lines is the number of matrices, and one dimension more than that follows,
each on a line of its own. A scanner stands between two lines. Each line either leaves it waiting
for more, or decides: the chain is complete, or the input is refused. Dimensions that are too large
are judged last, when all of them were read.
-/

namespace ChainProduct

/-- What reading a chain comes to. -/
abbrev Verdict := Except InputError Chain

/-- A step that decides by an error of this kind, and otherwise goes on. -/
abbrev Scan := Except Verdict

/-- Decide that the input is refused. -/
def refuse {α : Type} (cause : InputError) : Scan α :=
  .error (.error cause)

/-- The value of a matrix count, which has to be in the range of indices. -/
def countOf? (value : List Char) : Option Nat :=
  (Text.natural? value).filter (· < indexLimit)

/-- The value of a dimension, which has to be in the range of 64-bit integers with a sign. -/
def dimensionOf? (value : List Char) : Option Int :=
  (Text.integer? value).filter fun number ↦
    -0x8000_0000_0000_0000 ≤ number ∧ number ≤ 0x7fff_ffff_ffff_ffff

/-- What the next value is, and what was read before it. -/
inductive Stage where
  /-- The matrix count is next. -/
  | count
  /-- A dimension is next. -/
  | dims (matrices : Nat) (found : Array Int)
  deriving DecidableEq, Repr

/-- Take the value on a line. -/
def Stage.take (line : Nat) (value : List Char) : Stage → Scan Stage
  | .count =>
      match countOf? value with
      | none => refuse (.notACount line (String.ofList value))
      | some 0 => refuse .zeroCount
      | some matrices =>
          if matrices + 1 < indexLimit then .ok (.dims matrices #[])
          else refuse (.countTooLarge matrices)
  | .dims matrices found =>
      match dimensionOf? value with
      | none => refuse (.notAnInteger line (String.ofList value))
      | some number =>
          if number ≤ 0 then
            refuse (.notPositive line number)
          else if found.size < matrices then
            .ok (.dims matrices (found.push number))
          else
            .error (Chain.ofList (found.push number).toList)

namespace Stage

/-- A matrix count for which the dimensions can be counted is followed by them. -/
theorem take_count {value : List Char} {matrices : Nat} (h : countOf? value = some matrices)
    (hpos : 1 ≤ matrices) (hlimit : matrices + 1 < indexLimit) (line : Nat) :
    count.take line value = .ok (.dims matrices #[]) := by
  obtain ⟨less, rfl⟩ : ∃ less, matrices = less + 1 := ⟨matrices - 1, by omega⟩
  rw [take, h]
  exact if_pos hlimit

/-- A value that is no such count is refused in its place. -/
theorem exists_take_count_eq_error {value : List Char}
    (h : ∀ matrices, countOf? value = some matrices → matrices = 0 ∨ indexLimit ≤ matrices + 1)
    (line : Nat) : ∃ verdict, count.take line value = .error verdict := by
  rw [take]
  cases hcount : countOf? value with
  | none => exact ⟨_, rfl⟩
  | some matrices =>
      cases matrices with
      | zero => exact ⟨_, rfl⟩
      | succ less => exact ⟨_, if_neg (by have := h (less + 1) hcount; omega)⟩

/-- A positive dimension is found, and the last one completes the chain. -/
theorem take_dims {value : List Char} {number : Int} (h : dimensionOf? value = some number)
    (hpos : 0 < number) (line matrices : Nat) (found : Array Int) :
    (dims matrices found).take line value =
      if found.size < matrices then .ok (.dims matrices (found.push number))
      else .error (Chain.ofList (found.push number).toList) := by
  rw [take, h]
  exact if_neg (by omega)

/-- A value that is no positive dimension is refused in its place. -/
theorem exists_take_dims_eq_error {value : List Char}
    (h : ∀ number, dimensionOf? value = some number → number ≤ 0) (line matrices : Nat)
    (found : Array Int) : ∃ verdict, (dims matrices found).take line value = .error verdict := by
  rw [take]
  cases hnumber : dimensionOf? value with
  | none => exact ⟨_, rfl⟩
  | some number => exact ⟨_, if_pos (h number hnumber)⟩

end Stage

/-- The cause for which the input is refused when there is no next value. -/
def Stage.shortage : Stage → InputError
  | .count => .noCount
  | .dims matrices found => .missingDimensions matrices found.size

/-- A scanner between two lines: the number of lines it has seen, and what it expects. -/
structure Scanner where
  lines : Nat
  stage : Stage
  deriving DecidableEq, Repr

namespace Scanner

/-- The scanner before the first line. -/
def initial : Scanner :=
  { lines := 0, stage := .count }

/-- Take the bytes of the next line. -/
def line (scanner : Scanner) (bytes : List UInt8) : Scan Scanner :=
  let number := scanner.lines + 1
  match LineContent.ofBytes? bytes with
  | none => refuse (.unreadable .notText)
  | some .blank => .ok { scanner with lines := number }
  | some (.several values) => refuse (.severalValues number (String.ofList values))
  | some (.single value) => do
      let stage ← scanner.stage.take number value
      return { lines := number, stage }

end Scanner

end ChainProduct
