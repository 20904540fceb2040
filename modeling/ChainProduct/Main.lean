import ChainProduct.Command.Run

/-!
# The command

Reads the arguments, the standard input and files, and prints what `Command.run` says.
-/

namespace ChainProduct.Command

/-- The text of the operating system for a failure. -/
def systemText : IO.Error → String
  | .alreadyExists _ code details | .otherError code details | .resourceBusy code details
  | .resourceVanished code details | .unsupportedOperation code details
  | .hardwareFault code details | .unsatisfiedConstraints code details
  | .illegalOperation code details | .protocolError code details | .timeExpired code details
  | .interrupted _ code details | .noFileOrDirectory _ code details
  | .invalidArgument _ code details | .permissionDenied _ code details
  | .resourceExhausted _ code details | .inappropriateType _ code details
  | .noSuchThing _ code details => details ++ " (os error " ++ toString code ++ ")"
  | .unexpectedEof => "unexpected end of file"
  | .userError message => message

/-- A failure of the operating system as a failed read. -/
def systemError (error : IO.Error) : ReadError :=
  { kind := if error matches .interrupted .. then .interrupted else .other
    detail := some (systemText error) }

/-- Read pieces until the reader has decided or nothing is left. -/
partial def gather (readPiece : IO ByteArray) (reader : Reader) (seen : List Read) : IO Source := do
  let next ←
    try
      pure (Read.bytes (← readPiece).data.toList)
    catch error =>
      pure (Read.failure (systemError error))
  if next = .bytes [] then
    return seen.reverse
  match reader.take next with
  | .ok reader => gather readPiece reader (next :: seen)
  | .error _ => return (next :: seen).reverse

/-- The most bytes that are read at once. -/
def pieceSize : USize := 8192

/-- The source that is read from a file. -/
def openPath (path : String) : IO (Except ReadError Source) := do
  try
    let handle ← IO.FS.Handle.mk path .read
    return .ok (← gather (handle.read pieceSize) .initial [])
  catch error =>
    return .error (systemError error)

/-- Print a text, whatever becomes of it. -/
def printTo (stream : IO.FS.Stream) (text : String) : IO Unit :=
  try
    stream.putStr text
    stream.flush
  catch _ =>
    pure ()

end ChainProduct.Command

open ChainProduct.Command in
/-- Run the command. A fault of the computation ends it with status 101. -/
def main (arguments : List String) : IO UInt32 := do
  let stdin ← IO.getStdin
  match ← run arguments (gather (stdin.read pieceSize) .initial []) openPath with
  | .ok outcome =>
      printTo (← IO.getStderr) outcome.err
      printTo (← IO.getStdout) outcome.out
      return outcome.status.toUInt32
  | .error fault =>
      printTo (← IO.getStderr) (complaint fault.message)
      return 101
