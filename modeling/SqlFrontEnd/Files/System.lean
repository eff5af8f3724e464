import SqlFrontEnd.Files.Path
import SqlFrontEnd.Number.Decimal
import SqlFrontEnd.Text.Quoted

/-!
# The file system

The program looks at paths and reads files, and does nothing else with them.  What it knows of a
file system is how that answers the two questions, each of which it may refuse.  The answers need
not go together: a regular file may be one that must not be read.

* `FileError`, `FileError.message`: why a question is refused, and the report of it.
* `FileSystem`: the answers.
* `FileSystem.isFile`: whether a path leads to a regular file, as the program asks it.
-/

namespace SqlFrontEnd

/-- Why the system refuses what is asked of it: the number of the error and its wording. -/
structure FileError where
  number : Nat
  description : String
deriving DecidableEq, Repr

namespace FileError

/-- Nothing has the name. -/
def notFound : FileError := ⟨2, "No such file or directory"⟩

/-- What is to be read is no open file. -/
def badDescriptor : FileError := ⟨9, "Bad file descriptor"⟩

/-- A directory must not be searched, or a file not be read. -/
def permissionDenied : FileError := ⟨13, "Permission denied"⟩

/-- A name is looked up in something that is no directory. -/
def notADirectory : FileError := ⟨20, "Not a directory"⟩

/-- A directory is to be read. -/
def isADirectory : FileError := ⟨21, "Is a directory"⟩

/-- A name or a path is beyond the limits. -/
def nameTooLong : FileError := ⟨36, "File name too long"⟩

/-- Symbolic links lead to each other. -/
def tooManyLinks : FileError := ⟨40, "Too many levels of symbolic links"⟩

/-- Tests for an error that means that a path leads nowhere. -/
def leadsNowhere (error : FileError) : Bool :=
  [notFound, notADirectory, badDescriptor, tooManyLinks].any (·.number == error.number)

/-- The report of an error that concerns no path. -/
def report (error : FileError) : String :=
  "[Errno " ++ Decimal.text error.number ++ "] " ++ error.description

/-- The report of an error on a path. -/
def message (error : FileError) (path : Path) : String :=
  error.report ++ ": " ++ Text.quoted path.toString

end FileError

/-- The answers of a file system on paths without null characters. -/
structure FileSystem where
  /-- Whether a path leads to a regular file. -/
  regular : Path → Except FileError Bool
  /-- The octets of what a path leads to. -/
  content : Path → Except FileError (List UInt8)

namespace FileSystem

/-- Tests whether a path leads to a regular file.  One that leads nowhere does not, and neither does
one that no file can have; every other error is passed on. -/
def isFile (files : FileSystem) (path : Path) : Except FileError Bool :=
  if path.hasNull then .ok false
  else
    match files.regular path with
    | .ok found => .ok found
    | .error error => if error.leadsNowhere then .ok false else .error error

end FileSystem

end SqlFrontEnd
