import Stemming.Bytes
import Stemming.Text.Split

/-! Reading files by path in a working directory that holds files and empty folders. -/
namespace Stemming

inductive OpenError where
  | notFound | notFolder | nameTooLong | zeroByte
  /-- Any other reason, in the words of the system. -/
  | other (reason : String)
  deriving DecidableEq, Repr

def OpenError.message : OpenError → String
  | notFound => "No such file or directory (os error 2)"
  | notFolder => "Not a directory (os error 20)"
  | nameTooLong => "File name too long (os error 36)"
  | zeroByte => "file name contained an unexpected NUL byte"
  | other reason => reason

/-- What stands behind a path. A folder can be opened, and fails at the first read. -/
inductive Opened where
  | file (contents : Bytes)
  | folder
  deriving DecidableEq, Repr

/-- How the program sees the files around it. -/
abbrev FileReader := String → Except OpenError Opened

/-- The files and folders of a working directory by name. -/
structure Directory where
  entries : List (String × Opened)

namespace Directory

/-- Where a walk along a path has come to. What lies above the working directory is unknown, so
nothing is found there. -/
inductive Place where
  | working | inside | above
  | atFile (contents : Bytes)

/-- Names and paths of more bytes cannot be looked up. -/
def longestName : Nat := 255

def longestPath : Nat := 4095

def lookup (d : Directory) (name : List Char) : Except OpenError Place :=
  match d.entries.lookup (String.ofList name) with
  | some (.file contents) => .ok (.atFile contents)
  | some .folder => .ok .inside
  | none => .error .notFound

/-- One component of a path: an empty one and a dot stay, two dots go up, a name goes down. -/
def enter (d : Directory) (place : Place) (name : List Char) : Except OpenError Place :=
  match place with
  | .atFile _ => .error .notFolder
  | _ =>
    if name = [] || name = ['.'] then .ok place
    else if name = ['.', '.'] then
      match place with
      | .inside => .ok .working
      | _ => .ok .above
    else if longestName < (Utf8.encode name).length then .error .nameTooLong
    else
      match place with
      | .working => d.lookup name
      | _ => .error .notFound

def walk (d : Directory) (path : List Char) : Except OpenError Place :=
  let start := if path.head? = some '/' then Place.above else Place.working
  (Text.splitAtChar '/' path).foldlM d.enter start

/-- Opens a path as seen from the working directory. -/
def reader (d : Directory) : FileReader := fun path =>
  if path.toList.any (·.toNat = 0) then .error .zeroByte
  else if path.isEmpty then .error .notFound
  else if longestPath < path.utf8ByteSize then .error .nameTooLong
  else
    match d.walk path.toList with
    | .ok (.atFile contents) => .ok (.file contents)
    | .ok _ => .ok .folder
    | .error e => .error e

end Directory

end Stemming
