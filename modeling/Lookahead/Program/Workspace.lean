import Lookahead.Table
import Lookahead.Text.Bytes

/-!
# Files

A grammar is read from a file, which can fail in a few ways.  A workspace is a
tree of files and directories held as a value, so that a whole run of the program
is a function of its input.
-/

namespace Lookahead.Program

/-- Why a file cannot be read as text. -/
inductive ReadFault where
  | missing
  | isDirectory
  | throughFile
  | denied
  | tooLong
  | nulCharacter
  | notText
  | other (details : String)
  deriving DecidableEq, Repr

/-- What is said about a file that cannot be read. -/
def ReadFault.message : ReadFault → String
  | .missing => "No such file or directory (os error 2)"
  | .isDirectory => "Is a directory (os error 21)"
  | .throughFile => "Not a directory (os error 20)"
  | .denied => "Permission denied (os error 13)"
  | .tooLong => "File name too long (os error 36)"
  | .nulCharacter => "file name contained an unexpected NUL byte"
  | .notText => "stream did not contain valid UTF-8"
  | .other details => details

/-- The text that bytes encode in UTF-8. -/
def decodeText (bytes : ByteArray) : Except ReadFault String :=
  match String.fromUTF8? bytes with
  | some text => .ok text
  | none => .error .notText

/-- The number of bytes that a name in a path may have. -/
def nameLimit : Nat := 255

/-- The number of bytes that a path may have. -/
def pathLimit : Nat := 4095

/-- What is wrong with a path on its face, before anything is looked up.  The empty
path leads nowhere. -/
def pathFault? (path : String) : Option ReadFault :=
  if path.toList.contains '\x00' then some .nulCharacter
  else if path.isEmpty then some .missing
  else if pathLimit < Text.byteLength path.toList then some .tooLong
  else none

/-- The names between the slashes of a path.  Two slashes in a row, or one at an
end, leave an empty name. -/
def pathNames (path : String) : List String :=
  (path.toList.splitOnP (· == '/')).map String.ofList

/-- Where names lead from the working directory.  An empty name and one dot stay
in place, and two dots lead back. -/
def walkNames (names : List String) : List String :=
  names.foldl
    (fun here name =>
      if name = "" ∨ name = "." then here
      else if name = ".." then here.dropLast
      else here ++ [name])
    []

/-- Files and directories by their paths from the working directory.  The
directories above a file or directory are there without being listed. -/
structure Workspace where
  files : Table (List String) ByteArray
  directories : List (List String)

namespace Workspace

/-- The workspace of some files and some further directories.  Of two files with
one place the later counts. -/
def ofFiles (files : List (String × ByteArray)) (directories : List String) : Workspace where
  files := .ofEntries (files.map fun file => (walkNames (pathNames file.1), file.2))
  directories := directories.map fun path => walkNames (pathNames path)

/-- Whether a path leads to a directory. -/
def hasDirectory (workspace : Workspace) (path : List String) : Bool :=
  path.isEmpty || workspace.directories.any path.isPrefixOf ||
    workspace.files.keys.any fun file => path.isPrefixOf file && path != file

/-- What a look-up says about a name that is not there. -/
def absentFault (name : String) : ReadFault :=
  if nameLimit < Text.byteLength name.toList then .tooLong else .missing

/-- Follow names from a directory above the working directory.  Nothing is known
to be there. -/
def findOutside : List String → Except ReadFault ByteArray
  | [] => .error .isDirectory
  | name :: rest =>
      if name = "" ∨ name = "." ∨ name = ".." then findOutside rest
      else .error (absentFault name)

/-- Follow names from the directory `here` to a file. -/
def findFrom (workspace : Workspace) (here : List String) :
    List String → Except ReadFault ByteArray
  | [] => .error .isDirectory
  | name :: rest =>
      if name = "" ∨ name = "." then findFrom workspace here rest
      else if name = ".." then
        if here.isEmpty then findOutside rest else findFrom workspace here.dropLast rest
      else if workspace.hasDirectory (here ++ [name]) then
        findFrom workspace (here ++ [name]) rest
      else
        match workspace.files.get? (here ++ [name]) with
        | none => .error (absentFault name)
        | some bytes => if rest.isEmpty then .ok bytes else .error .throughFile

/-- The bytes of the file at a path. -/
def readBytes (workspace : Workspace) (path : String) : Except ReadFault ByteArray :=
  match pathFault? path with
  | some fault => .error fault
  | none =>
      if path.toList.head? = some '/' then findOutside (pathNames path)
      else workspace.findFrom [] (pathNames path)

/-- The text of the file at a path. -/
def readText (workspace : Workspace) (path : String) : Except ReadFault String := do
  decodeText (← workspace.readBytes path)

end Workspace

end Lookahead.Program
