import ReverseReplication.Table
import ReverseReplication.Text.Utf8

/-!
# Local files

Reading a local file gives its bytes or one of a few errors. `WorkingDirectory.read` is the file
system as a program sees it that has some files in its working directory and knows no other: paths
may be led by `./` and hold repeated slashes, and every other directory is out of sight.
-/

namespace ReverseReplication

open ReverseReplication.Text (Bytes)

/-- Why a file cannot be read. -/
inductive FileError where
  | notFound
  | notADirectory
  | isDirectory
  | nameTooLong
  | nulByte
  deriving DecidableEq, Repr, Inhabited

def FileError.message : FileError → String
  | .notFound => "No such file or directory (os error 2)"
  | .notADirectory => "Not a directory (os error 20)"
  | .isDirectory => "Is a directory (os error 21)"
  | .nameTooLong => "File name too long (os error 36)"
  | .nulByte => "file name contained an unexpected NUL byte"

/-- What reading the file at a path gives. -/
abbrev FileSystem := String → Except FileError Bytes

/-- The files of a directory by their names. -/
abbrev WorkingDirectory := Table String Bytes

namespace WorkingDirectory

/-- The parts of a path between its slashes. -/
def segments (path : String) : List String :=
  (path.toList.splitOn '/').map String.ofList

/-- How many bytes a path may have. -/
def maxPathBytes : Nat := 4095

/-- How many bytes one name in a path may have. -/
def maxNameBytes : Nat := 255

/-- Reads the file at a path, which may be relative to the directory. A path is followed from its
begin on, and the first name in it that leads nowhere decides; that a name is too long is seen when
it is looked up. -/
def read (files : WorkingDirectory) : FileSystem := fun path =>
  let parts := segments path
  let named := parts.filter fun s => s ≠ "" ∧ s ≠ "."
  if '\x00' ∈ path.toList then .error .nulByte
  else if path = "" then .error .notFound
  else if maxPathBytes < path.utf8ByteSize then .error .nameTooLong
  else
    match named.dropWhile (· = "..") with
    | [] => .error .isDirectory
    | name :: inside =>
      if maxNameBytes < name.utf8ByteSize then .error .nameTooLong
      else if parts.head? = some "" ∨ named.head? = some ".." then .error .notFound
      else
        match files.get? name with
        | none => .error .notFound
        | some contents =>
          if inside = [] ∧ parts.getLast? = some name then .ok contents
          else .error .notADirectory

end WorkingDirectory

end ReverseReplication
