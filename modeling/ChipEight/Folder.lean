import ChipEight.Text.Quoted

/-! # Files

A `Folder` is the working directory as a program sees it that only reads: names and the
bytes under them.  `Folder.read` follows a path in it and tells, as a `FileError`, why there
is nothing to read.
-/
namespace ChipEight

/-- Why a file cannot be read. -/
inductive FileError where
  /-- Nothing has this path. -/
  | missing (path : String)
  /-- A part of the path is not a directory. -/
  | notDirectory (path : String)
  /-- The path is that of a directory. -/
  | isDirectory (path : String)
  /-- The path, or a name in it, is longer than any can be. -/
  | tooLong (path : String)
  /-- The path holds a character that no path can hold. -/
  | nullCharacter
  deriving DecidableEq, Repr

/-- The sentence for why a file cannot be read. -/
def FileError.message : FileError → String
  | missing path => "[Errno 2] No such file or directory: " ++ Text.quote path
  | notDirectory path => "[Errno 20] Not a directory: " ++ Text.quote path
  | isDirectory path => "[Errno 21] Is a directory: " ++ Text.quote path
  | tooLong path => "[Errno 36] File name too long: " ++ Text.quote path
  | nullCharacter => "embedded null byte"

/-- The files of a directory. -/
structure Folder where
  /-- Names, each with the bytes of its file. -/
  files : List (String × List UInt8)

namespace Folder

/-- The file of a given name. -/
def file? (d : Folder) (name : String) : Option (List UInt8) :=
  (d.files.find? fun e => e.1 == name).map (·.2)

/-- The steps of a path; an empty one and a single dot stay where they are. -/
def steps (path : String) : List String :=
  (path.splitOn "/").filter fun s => s != "" && s != "."

/-- Whether a path says that it ends in a directory. -/
def endsInDirectory (path : String) : Bool := path.endsWith "/" || path.endsWith "/."

/-- The most bytes that a path can have. -/
def maxPathSize : Nat := 4095

/-- The most bytes that a name in a path can have. -/
def maxNameSize : Nat := 255

/-- The bytes of the file with a given path.  The steps of the path are taken one after the
other, so the first that fails is the one that counts. -/
def read (d : Folder) (path : String) : Except FileError (List UInt8) :=
  if path.toList.contains '\x00' then .error .nullCharacter
  else if path.isEmpty then .error (.missing path)
  else if maxPathSize < path.utf8ByteSize then .error (.tooLong path)
  else
    let steps := steps path
    -- this directory and those it lies in
    match steps.dropWhile (· == "..") with
    | [] => .error (.isDirectory path)
    | name :: rest =>
      if maxNameSize < name.utf8ByteSize then .error (.tooLong path)
      -- outside this directory there are no files
      else if path.startsWith "/" || steps.head? == some ".." then .error (.missing path)
      else
        match d.file? name with
        | none => .error (.missing path)
        | some bytes =>
          if rest.isEmpty && !endsInDirectory path then .ok bytes else .error (.notDirectory path)

end Folder

end ChipEight
