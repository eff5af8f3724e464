import SqlFrontEnd.Number.Hexadecimal
import SqlFrontEnd.Text.Utf8

/-!
# Where a request goes

The target of a request is a path with a query, but it may be written as a whole address: with a
scheme and a host before the path and a fragment behind it.  It is taken apart once where it is
written and once more where it arrives, so of two schemes or hosts both are dropped.  Control
characters and spaces before an address do not count, and the ends of lines and tabs within it do
not either.

* `Address.read`: an address taken apart.
* `pathOf`: the octets of the path of a target.  An octet may be written as two hexadecimal digits
  behind a percent sign.
* `merged`: a path in which doubled slashes are single.
* `Destination.ofTarget`: what a target leads to.
-/

namespace SqlFrontEnd.Web

/-- An address without its scheme, its host and its fragment. -/
structure Address where
  path : List Char
  query : List Char
deriving DecidableEq, Repr

namespace Address

/-- Tests for a character that does not count before an address. -/
def isLeading (c : Char) : Bool := decide (c.toNat ≤ 0x20)

/-- Tests for a character that does not count within an address. -/
def isIgnored (c : Char) : Bool := c == '\t' || c == '\n' || c == '\r'

/-- Tests for a character of a scheme. -/
def isSchemePart (c : Char) : Bool := c.isAlphanum || c == '+' || c == '-' || c == '.'

/-- An address without its scheme: a letter and further characters up to a colon. -/
def withoutScheme (s : List Char) : List Char :=
  match s with
  | c :: _ =>
    match s.dropWhile isSchemePart with
    | ':' :: rest => if c.isAlpha then rest else s
    | _ => s
  | [] => []

/-- An address without the host behind two slashes. -/
def withoutHost : List Char → List Char
  | '/' :: '/' :: s => s.dropWhile fun c => !(c == '/' || c == '?' || c == '#')
  | s => s

/-- An address taken apart. -/
def read (s : List Char) : Address :=
  let counting := (s.dropWhile isLeading).filter (!isIgnored ·)
  let body := (withoutHost (withoutScheme counting)).takeWhile (· != '#')
  ⟨body.takeWhile (· != '?'), (body.dropWhile (· != '?')).drop 1⟩

/-- The text of an address. -/
def text (a : Address) : List Char :=
  if a.query.isEmpty then a.path else a.path ++ '?' :: a.query

end Address

/-- The octets of a path as it is written. -/
def pathOctets : List Char → List UInt8
  | [] => []
  | '%' :: a :: b :: rest =>
    match Hexadecimal.value? [a, b] with
    | some n => UInt8.ofNat n :: pathOctets rest
    | none => Text.Utf8.encodeChar '%' ++ pathOctets (a :: b :: rest)
  | c :: rest => Text.Utf8.encodeChar c ++ pathOctets rest

/-- The octets of the path of a target. -/
def pathOf (target : String) : List UInt8 :=
  let arrived := Address.read (Address.read target.toList).text
  pathOctets (arrived.path.dropWhile Address.isLeading)

/-- The octet of a slash. -/
def slash : UInt8 := 0x2F

/-- A path in which each two slashes in a row are one. -/
def merged : List UInt8 → List UInt8
  | a :: b :: rest =>
    if a = slash ∧ b = slash then slash :: merged rest else a :: merged (b :: rest)
  | rest => rest

/-- What a target leads to. -/
inductive Destination where
  | analysis
  | page
  /-- The page, although with single slashes the target would lead to the analysis. -/
  | nearAnalysis
  /-- A file in one of the folders of the site, which hold none. -/
  | file
  /-- The address of the site without the slash of the page. -/
  | bare
  | nowhere
deriving DecidableEq, Repr

/-- The path of the analysis. -/
def analysisPath : String := "/api/lexer/analyze"

/-- The folders for files that the site would have. -/
def folders : List String := ["/static/", "/assets/"]

/-- Tests for the path of a file in a folder of the site: a name comes next that does not start with
a slash. -/
def isFilePath (path : List UInt8) : Bool :=
  folders.any fun folder =>
    let octets := Text.Utf8.encode folder.toList
    octets.isPrefixOf path && (path.drop octets.length).head?.any (· != slash)

/-- What a target leads to.  Slashes before a path count as one.  A line feed behind the first
character of a path leads nowhere. -/
def Destination.ofTarget (target : String) : Destination :=
  let path := pathOf target
  let full := slash :: path.dropWhile (· == slash)
  let analysis := Text.Utf8.encode analysisPath.toList
  if path.isEmpty then bare
  else if full == analysis then Destination.analysis
  else if (full.drop 2).contains 0x0A then nowhere
  else if isFilePath full then file
  else if merged full == analysis then nearAnalysis
  else page

end SqlFrontEnd.Web
