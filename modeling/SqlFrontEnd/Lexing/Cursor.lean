import SqlFrontEnd.Lexing.Segment

/-!
# Reading a source step by step

A cursor stands at a character of a source and remembers the tokens found so far.  It can be driven
by single commands: look at a character, move over it, scan the item that starts there, or apply one
rule whatever stands there.  A rule that does not fit its place may take nothing, or run to the end.

* `Cursor`: the state.
* `Cursor.scan`: takes the item that starts at the cursor.
* `Cursor.run`: scans until the source ends or an unclosed string literal has halted the cursor.
* `Command`, `Reply`, `Cursor.perform`: any sequence of commands.  A command that needs a character
  where there is none is answered by `Reply.pastEnd` and changes nothing.
-/

namespace SqlFrontEnd

open Lexing

/-- The state of a stepwise reading. -/
structure Cursor where
  source : Text
  offset : Nat
  place : Place
  tokens : List Token
  halted : Bool
deriving Repr

/-- What a cursor can be told to do. -/
inductive Command where
  | scan | run | advance | current | peek | atEnd
  | lineComment | blockComment | word | number | string
deriving DecidableEq, Repr

/-- What a command answers. -/
inductive Reply where
  /-- The command has no answer. -/
  | done
  /-- A character, or none where the source has none. -/
  | character (c : Option CodePoint)
  | flag (b : Bool)
  /-- The command needed a character and found the end of the source. -/
  | pastEnd
deriving DecidableEq, Repr

namespace Cursor

/-- A cursor at the start of a source. -/
def start (source : Text) : Cursor := ⟨source, 0, .start, [], false⟩

/-- The text that the cursor has not passed. -/
def rest (c : Cursor) : Text := c.source.drop c.offset

/-- Moves over a text. -/
def move (c : Cursor) (text : Text) : Cursor :=
  { c with offset := c.offset + text.length, place := c.place.after text }

/-- Moves over a segment and keeps its token.  An unclosed string literal halts the cursor. -/
def take (policy : KeywordCase) (c : Cursor) (segment : Segment) : Cursor :=
  { c.move segment.text with
    tokens := c.tokens ++ (segment.token? policy c.place).toList
    halted := c.halted || segment.item == .fault .unclosedString }

/-- Takes the segment that a rule finds at the cursor; there must be a character. -/
def takeFirst (policy : KeywordCase) (rule : CodePoint → Text → Segment × Text)
    (c : Cursor) : Option Cursor :=
  match c.rest with
  | [] => none
  | x :: s => some (c.take policy (rule x s).1)

/-- Takes the item that starts at the cursor. -/
def scan (policy : KeywordCase) (c : Cursor) : Option Cursor := c.takeFirst policy first

theorem rest_take (policy : KeywordCase) (c : Cursor) (segment : Segment) :
    (c.take policy segment).rest = c.rest.drop segment.text.length := by
  simp [take, move, rest, List.drop_drop]

theorem length_rest_take_lt {policy : KeywordCase} {c : Cursor} {x : CodePoint} {s : Text}
    (h : c.rest = x :: s) :
    (c.take policy (first x s).1).rest.length < c.rest.length := by
  have := List.length_pos_iff.2 (first_text_ne_nil x s)
  rw [rest_take, h, List.length_drop, List.length_cons]
  omega

/-- Scans to the end of the source, or until the cursor is halted. -/
def run (policy : KeywordCase) (c : Cursor) : Cursor :=
  if c.halted then c
  else
    match _h : c.rest with
    | [] => c
    | x :: s => run policy (c.take policy (first x s).1)
termination_by c.rest.length
decreasing_by exact length_rest_take_lt _h

/-- Takes the longest run of a class from the cursor on, which may be empty. -/
def takeRun (policy : KeywordCase) (item : Item) (p : CodePoint → Bool) (c : Cursor) : Cursor :=
  c.take policy (runOf item p c.rest).1

/-- The answer to a command that may meet the end of the source. -/
def orPastEnd (c : Cursor) : Option Cursor → Reply × Cursor
  | some c' => (.done, c')
  | none => (.pastEnd, c)

/-- Performs a command. -/
def perform (policy : KeywordCase) (command : Command) (c : Cursor) : Reply × Cursor :=
  match command with
  | .scan => c.orPastEnd (c.scan policy)
  | .run => (.done, c.run policy)
  | .advance =>
    match c.rest with
    | [] => (.pastEnd, c)
    | x :: _ => (.character (some x), c.move [x])
  | .current => (.character c.rest.head?, c)
  | .peek => (.character c.rest.tail.head?, c)
  | .atEnd => (.flag c.rest.isEmpty, c)
  | .lineComment => (.done, c.takeRun policy .lineComment inLine)
  | .word => (.done, c.takeRun policy .word isWordPart)
  | .number => (.done, c.takeRun policy .number isNumberPart)
  | .blockComment => c.orPastEnd (c.takeFirst policy Lexing.blockComment)
  | .string => c.orPastEnd (c.takeFirst policy stringLiteral)

end Cursor

end SqlFrontEnd
