import SqlFrontEnd.Lexing.Segment
import SqlFrontEnd.Text.Blank
import SqlFrontEnd.Token.Line
import SqlFrontEnd.Web.Component

/-!
# The page

The page has a field for a source and a button, below which the tokens of the source are shown: a
summary, and a table with one row for each token.  Where there is nothing to analyse, a prompt is
shown instead.

* `page`: the page as it is first shown.
* `tokenTable`: the table of tokens.
* `tokenView`: what the button shows of a source.
-/

namespace SqlFrontEnd.Web

/-- The title of the page. -/
def pageTitle : String := "SQL Compiler Lexer"

/-- The prompt where there is nothing to analyse. -/
def blankPrompt : String := "Please enter SQL-like code."

/-- The page as it is first shown. -/
def page : Component :=
  .group .division [.style [("fontFamily", "sans-serif"), ("padding", "2rem")]] [
    .text .heading [] pageTitle,
    .text .paragraph [] "Enter SQL-like code and press Analyze to see its tokens.",
    .leaf .textArea [
      .id "source-input",
      .placeholder "SELECT name FROM users WHERE age >= 18;",
      .style [("width", "100%"), ("height", "12rem"), ("fontFamily", "monospace")]],
    .text .button [.id "analyze-button", .clicks 0] "Analyze",
    .leaf .rule [],
    .leaf .division [.id "token-output"]]

/-! ## Tokens -/

/-- The style of a cell. -/
def cellStyle : Style := [("border", "1px solid #ccc"), ("padding", "0.25rem 0.5rem")]

/-- The style of most rows. -/
def plainRowStyle : Style := [("backgroundColor", "#fff")]

/-- The style of a row that stands out. -/
def faultRowStyle : Style := [("backgroundColor", "#fde2e2"), ("color", "#a00")]

/-- The style of the row of a token.  The report of a fault stands out. -/
def rowStyle (t : Token) : Style := if t.isError then faultRowStyle else plainRowStyle

/-- A cell with a text. -/
def textCell (text : Text) : Component := .text .cell [.style cellStyle] text

/-- The row of a token: its kind, its lexeme, and its place in decimal. -/
def tokenRow (t : Token) : Component :=
  .group .tableRow [.style (rowStyle t)] [
    textCell t.kind.name,
    .wrap .cell [.style cellStyle] (.text .code [] t.lexeme),
    textCell (Decimal.integerText t.line),
    textCell (Decimal.integerText t.column)]

/-- The row of names above the tokens. -/
def headerRow : Component :=
  .group .tableRow [] (["Type", "Lexeme", "Line", "Column"].map fun (name : String) =>
    .text .headerCell [.style cellStyle] name)

/-- The table of tokens. -/
def tokenTable (tokens : List Token) : Component :=
  .group .table [.style [("borderCollapse", "collapse")]] [
    .wrap .tableHead [] headerRow,
    .group .tableBody [] (tokens.map tokenRow)]

/-- What is shown where there is nothing to analyse. -/
def promptView : Component :=
  .wrap .division [] (.text .paragraph [.style [("color", "#666")]] blankPrompt)

/-- What is shown of tokens. -/
def resultView (tokens : List Token) : Component :=
  .group .division [] [.text .paragraph [] (summary tokens), tokenTable tokens]

/-- What the button shows of a source, which is missing as long as nobody has written one. -/
def tokenView (policy : KeywordCase) : Option Text → Component
  | none => promptView
  | some source =>
    if Text.isBlankText source then promptView else resultView (tokenize policy source)

end SqlFrontEnd.Web
