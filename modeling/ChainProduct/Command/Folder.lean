import ChainProduct.Input.Source

/-!
# A folder to work in

Opening a path in a folder that holds files and no other folders, with the failures that the
operating system reports. A path is followed one name at a time. Nothing is known of what lies
outside the folder but that it is made of folders too.
-/

namespace ChainProduct.Command

/-- A file: its name and the bytes it holds. -/
structure File where
  name : String
  data : List UInt8
  deriving DecidableEq, Repr

/-- The files of a folder. -/
abbrev Folder := List File

/-- Where a path has led so far. -/
inductive Place where
  /-- A folder that is not the folder at hand. -/
  | outside
  /-- The folder at hand. -/
  | here
  /-- A file that holds these bytes. -/
  | file (data : List UInt8)
  deriving DecidableEq, Repr

namespace Folder

/-- There is nothing of this name. -/
def notFound : ReadError :=
  { kind := .notFound, detail := some "No such file or directory (os error 2)" }

/-- A file was used as a folder. -/
def notADirectory : ReadError :=
  { kind := .other, detail := some "Not a directory (os error 20)" }

/-- A folder was read as a file. -/
def isADirectory : ReadError :=
  { kind := .other, detail := some "Is a directory (os error 21)" }

/-- A name or a path is longer than the system allows. -/
def nameTooLong : ReadError :=
  { kind := .other, detail := some "File name too long (os error 36)" }

/-- The most bytes that a name may have. -/
def maxNameSize : Nat := 255

/-- The most bytes that a path may have. -/
def maxPathSize : Nat := 4095

/-- Follow one more name of a path. -/
def follow (folder : Folder) (place : Place) (name : String) : Except ReadError Place :=
  match place with
  | .file _ => .error notADirectory
  | .outside =>
      if name = "" ∨ name = "." ∨ name = ".." then .ok .outside
      else if maxNameSize < name.utf8ByteSize then .error nameTooLong
      else .error notFound
  | .here =>
      if name = "" ∨ name = "." then .ok .here
      else if name = ".." then .ok .outside
      else if maxNameSize < name.utf8ByteSize then .error nameTooLong
      else
        match folder.find? (·.name = name) with
        | some file => .ok (.file file.data)
        | none => .error notFound

/-- Where a path leads. -/
def locate (folder : Folder) (path : String) : Except ReadError Place :=
  if path = "" then .error notFound
  else if maxPathSize < path.utf8ByteSize then .error nameTooLong
  else
    let names := (path.toList.splitOn '/').map String.ofList
    names.foldlM folder.follow (if path.toList.head? = some '/' then .outside else .here)

/-- Open a path for reading. A folder can be opened, but reading it fails. -/
def openFile (folder : Folder) (path : String) : Except ReadError Source := do
  match ← folder.locate path with
  | .file data => return .ofBytes data
  | .here | .outside => return [.failure isADirectory]

end Folder

end ChainProduct.Command
