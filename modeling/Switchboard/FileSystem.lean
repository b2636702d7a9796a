/-!
# Switchboard.FileSystem

Reading a file by its path: what can go wrong, and a file system held in memory in which a path is
looked up name by name.

* `FileError`: why a file gives no text, with the system's words for it.
* `FileSystem.read`: the text at a path. Every name but the last has to be a directory, and a path
  that ends in `/`, `.` or `..` ends in one.
-/

namespace Switchboard

inductive FileError where
  | notFound
  | permissionDenied
  /-- A name on the way is a file, and yet the path goes on. -/
  | notDirectory
  | isDirectory
  | nameTooLong
  /-- The path has the character that ends a path for the system. -/
  | nulInPath
  | notUtf8
  | other (reason : String)
deriving DecidableEq, Repr

def FileError.message : FileError → String
  | notFound => "No such file or directory (os error 2)"
  | permissionDenied => "Permission denied (os error 13)"
  | notDirectory => "Not a directory (os error 20)"
  | isDirectory => "Is a directory (os error 21)"
  | nameTooLong => "File name too long (os error 36)"
  | nulInPath => "file name contained an unexpected NUL byte"
  | notUtf8 => "stream did not contain valid UTF-8"
  | other reason => reason

/-- Files and directories by the names that lead to them from the root, which needs no entry. -/
structure FileSystem where
  directories : List (List String)
  files : List (List String × String)
  workingDirectory : List String
deriving DecidableEq, Repr

namespace FileSystem

/-- The most bytes that a name may have. -/
def maxNameLength : Nat := 255

/-- The most bytes that a path may have. -/
def maxPathLength : Nat := 4095

/-- The text at the end of `names`, looked up from the directory `here`. -/
def readFrom (fs : FileSystem) (here : List String) : List String → Except FileError String
  | [] => .error .isDirectory
  | name :: rest =>
    if name = "" ∨ name = "." then fs.readFrom here rest
    else if name = ".." then fs.readFrom here.dropLast rest
    else if maxNameLength < name.utf8ByteSize then .error .nameTooLong
    else
      let there := here ++ [name]
      match fs.files.lookup there with
      | some text => if rest = [] then .ok text else .error .notDirectory
      | none => if there ∈ fs.directories then fs.readFrom there rest else .error .notFound

/-- The text at a path, which starts at the root if it starts with `/`, else at the working
directory. -/
def read (fs : FileSystem) (path : String) : Except FileError String :=
  if '\x00' ∈ path.toList then .error .nulInPath
  else if path = "" then .error .notFound
  else if maxPathLength < path.utf8ByteSize then .error .nameTooLong
  else
    fs.readFrom (if path.toList.head? = some '/' then [] else fs.workingDirectory)
      (path.splitOn "/")

end FileSystem
end Switchboard
