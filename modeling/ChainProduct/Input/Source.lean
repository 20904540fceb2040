import ChainProduct.Input.ReadError

/-!
# Sources of bytes

A source is what successive reads from it give: some bytes, or a failure. After the last of them
it is at its end. How the bytes are cut into pieces means nothing to a reader.
-/

namespace ChainProduct

/-- What one read gives. -/
inductive Read where
  | bytes (piece : List UInt8)
  | failure (error : ReadError)
  deriving DecidableEq, Repr

/-- The reads from a source, up to its end. -/
abbrev Source := List Read

namespace Source

/-- A source in memory, which does not fail. -/
def ofBytes (data : List UInt8) : Source :=
  [.bytes data]

/-- The source of the bytes of a text. -/
def ofText (text : String) : Source :=
  ofBytes text.toUTF8.data.toList

/-- A source that fails after the first bytes, as often as given, and then goes on. -/
def failingAt (data : List UInt8) (offset : Nat) (error : ReadError) (times : Nat) : Source :=
  .bytes (data.take offset) :: List.replicate times (.failure error) ++ [.bytes (data.drop offset)]

end Source

end ChainProduct
