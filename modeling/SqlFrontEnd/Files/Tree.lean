import SqlFrontEnd.Files.System
import SqlFrontEnd.Text.Utf8

/-!
# File trees

A file tree is a file system of regular files and directories, with no links among them.  Some of
them may be locked: a locked file is known to be there and cannot be read, and nothing can be looked
up in a locked directory.

* `FileTree`: the tree, as the entries that it was given, and the working directory in it.
* `FileTree.resolve`: what a path leads to, or why it leads nowhere.
* `FileTree.system`: the answers of the tree.
-/

namespace SqlFrontEnd

/-- What a name in a directory stands for. -/
inductive FileEntry where
  | file (content : List UInt8)
  | lockedFile
  | directory
  | lockedDirectory
deriving DecidableEq, Repr

/-- Files and directories, by the names on the way from the root to them.  The directories on the
way to an entry, or to the working directory, need no entry of their own. -/
structure FileTree where
  /-- The names on the way from the root to the working directory. -/
  directory : List String
  entries : List (List String × FileEntry)
deriving Repr

namespace FileTree

/-- The largest number of octets in a name. -/
def maxName : Nat := 255

/-- The largest number of octets in a path. -/
def maxPath : Nat := 4095

/-- The tree of entries below a working directory. -/
def below (directory : List String) (entries : List (List String × FileEntry)) : FileTree :=
  ⟨directory, entries.map fun e => (directory ++ e.1, e.2)⟩

/-- The entry of the given names. -/
def entry? (tree : FileTree) (names : List String) : Option FileEntry :=
  match tree.entries.lookup names with
  | some entry => some entry
  | none =>
    if (tree.directory :: tree.entries.map (·.1)).any names.isPrefixOf then some .directory
    else none

/-- Follows one name.  There is no way up from the root. -/
def step (tree : FileTree) (location : List String) (name : String) :
    Except FileError (List String) :=
  match tree.entry? location with
  | none => .error .notFound
  | some (.file _) | some .lockedFile => .error .notADirectory
  | some .lockedDirectory => .error .permissionDenied
  | some .directory =>
    if name = "." then .ok location
    else if name = ".." then .ok location.dropLast
    else if maxName < (Text.Utf8.encode name.toList).length then .error .nameTooLong
    else if (tree.entry? (location ++ [name])).isSome then .ok (location ++ [name])
    else .error .notFound

/-- Where a path starts. -/
def origin (tree : FileTree) (path : Path) : List String :=
  if path.root.isEmpty then tree.directory else []

/-- The names that are followed.  The path of the working directory itself is written as a point. -/
def components (path : Path) : List String :=
  if path.root.isEmpty && path.names.isEmpty then ["."] else path.names

/-- What a path leads to. -/
def resolve (tree : FileTree) (path : Path) : Except FileError FileEntry :=
  if maxPath < (Text.Utf8.encode path.toString.toList).length then .error .nameTooLong
  else
    match (components path).foldlM tree.step (tree.origin path) with
    | .error error => .error error
    | .ok location => (tree.entry? location).elim (.error .notFound) .ok

/-- The answers of a tree. -/
def system (tree : FileTree) : FileSystem where
  regular path :=
    match tree.resolve path with
    | .error error => .error error
    | .ok (.file _) | .ok .lockedFile => .ok true
    | .ok .directory | .ok .lockedDirectory => .ok false
  content path :=
    match tree.resolve path with
    | .error error => .error error
    | .ok (.file content) => .ok content
    | .ok .lockedFile | .ok .lockedDirectory => .error .permissionDenied
    | .ok .directory => .error .isADirectory

end FileTree

end SqlFrontEnd
