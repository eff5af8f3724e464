import SqlFrontEnd.Text.Split

/-!
# Paths

A path names a file by the names of the directories on the way to it.  Writing a path normalises it:
empty names and `.` are dropped, while `..` is kept, since what it means depends on the directories
that are there.

* `Path`: a root and a sequence of names.
* `Path.ofString`, `Path.toString`: reading and writing.
* `Path.child`: the path of a name in a directory.
-/

namespace SqlFrontEnd

/-- A path.  The root is empty for a path that starts at the working directory. -/
structure Path where
  root : String
  names : List String
deriving DecidableEq, Repr

namespace Path

/-- The root of a path.  Exactly two slashes at the start are a root of their own. -/
def rootOf (text : List Char) : String :=
  match (text.takeWhile (· == '/')).length with
  | 0 => ""
  | 2 => "//"
  | _ => "/"

/-- The path that a text writes. -/
def ofString (text : String) : Path :=
  let parts := (Text.splitAt '/' text.toList).filter fun part => !part.isEmpty && part != ['.']
  ⟨rootOf text.toList, parts.map String.ofList⟩

/-- The text of a path; the working directory itself is a point. -/
def toString (p : Path) : String :=
  let text := p.root ++ String.intercalate "/" p.names
  if text.isEmpty then "." else text

/-- The path of a name in a directory. -/
def child (p : Path) (name : String) : Path := ⟨p.root, p.names ++ [name]⟩

/-- Tests for a null character, which no file name can hold. -/
def hasNull (p : Path) : Bool := p.names.any fun name => name.toList.contains '\x00'

end Path

end SqlFrontEnd
