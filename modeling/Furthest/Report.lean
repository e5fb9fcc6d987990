import Furthest.Reply
import Furthest.Value.Joined

/-!
# Failure reports

How a failed parse is told to a person: one line that says what was expected, where, and
what stands there instead, and notes that show the line with a caret under the failing
character.

## Main definitions

* `ParseFailure`: a failed parse.
* `ParseFailure.message`: the one-line message.
* `ParseError`: a failed parse that is raised as an error, with notes.
* `CaretWindow.around`, `caretExcerpt?`: the excerpt of a line with a caret under it.
* `positionNote`: a note about a position.
-/

namespace Furthest

/-- The number of characters that a message shows of the text at the failure. -/
def excerptLength : Nat := 12

/-- The number of characters that a note shows on each side of the caret. -/
def caretContext : Nat := 20

/-- What was expected: the label, if there is just one, and otherwise a list. The labels
have to be texts. -/
def formatExpected : List Label → Except Fault Text
  | [.text label] => .ok label
  | [label] => .error (.notAppendable label.typeName)
  | labels => do return "one of " ++ (← Value.joined ", " labels)

/-- What stands at a position: an excerpt of at most `length` characters, with dots where
the text goes on before or behind it. -/
def formatGot (src : Text) (p : Position) (length : Int) : Text :=
  if src.length ≤ p.offset then ", got the end of the stream"
  else
    let before : Text := if 0 < p.offset then "'..." else "'"
    let behind : Text := if length < src.length - p.offset then "...'" else "'"
    " at line " ++ Text.ofNat p.line ++ " column " ++ Text.ofInt p.column ++ ", got " ++ before
      ++ src.slice p.offset (p.offset + length) ++ behind

/-- The message about a failure at a position, with an excerpt of at most `length`
characters of the text. -/
def formatError (src : Text) (p : Position) (expected : List Label) (length : Int) :
    Except Fault Text := do
  return "expected " ++ (← formatExpected expected) ++ formatGot src p length

/-- A failed parse: the text, the position of the furthest failure, and what was expected
there. -/
structure ParseFailure where
  /-- The text. -/
  src : Text
  /-- The position of the furthest failure. -/
  position : Position
  /-- What was expected there. -/
  expected : List Label

namespace ParseFailure

/-- The message about a failed parse. -/
def message (f : ParseFailure) : Except Fault Text :=
  formatError f.src f.position f.expected excerptLength

/-- The printed form of a failed parse. -/
def render (f : ParseFailure) : Text :=
  "<ParseFailure " ++ Text.ofInt f.position.offset ++ " "
    ++ (Value.list f.expected).render ++ ">"

end ParseFailure

/-- What an excerpt shows of a line: what lies between two offsets of it, with a caret
behind a number of spaces under it. -/
structure CaretWindow where
  /-- The offset in the line at which the excerpt starts. -/
  start : Int
  /-- The offset in the line before which it ends. -/
  stop : Int
  /-- The number of spaces before the caret. -/
  indent : Int

/-- What is shown around a column. Up to `caretContext` characters are shown before the
caret and as many from there on; a line that starts within that distance is shown from its
start. -/
def CaretWindow.around (column : Int) : CaretWindow :=
  if column ≤ caretContext then ⟨0, caretContext * 2, column - 1⟩
  else ⟨column - 1 - caretContext, column - 1 + caretContext, caretContext⟩

/-- An excerpt of a line with a caret under a column, if the column is in the line or right
behind it. -/
def caretExcerpt? (line : Text) (column : Int) : Option (Text × Text) :=
  if (line.length : Int) + 1 < column then none
  else
    let w := CaretWindow.around column
    some (line.slice w.start w.stop, Text.spaces w.indent ++ "^")

/-- The line of a text with a number, counted from one, without the carriage returns that
end it. -/
def visibleLine? (src : Text) (line : Nat) : Option Text :=
  (src.lines[line - 1]?).map fun l => Text.dropTrailing l Text.carriageReturn

/-- Where a position is, as a note tells it. -/
def placeLine (p : Position) : Text :=
  "At position " ++ Text.ofInt p.offset ++ " (line " ++ Text.ofNat p.line ++ ", column "
    ++ Text.ofInt p.column ++ ")"

/-- The note about a position: a message, if there is one, where the position is, and an
excerpt of its line with a caret. -/
def positionNote (src : Text) (p : Position) (message : Option Text) : Text :=
  let excerpt := match (visibleLine? src p.line).bind (caretExcerpt? · p.column) with
    | some (line, caret) => [line, caret]
    | none => []
  Text.join [Text.lineFeed] (message.toList ++ [placeLine p] ++ excerpt)

/-- A failed parse that is raised as an error. -/
structure ParseError where
  /-- The text. -/
  src : Text
  /-- The position of the error. -/
  position : Position
  /-- What was expected there. -/
  expected : List Label
  /-- The message. -/
  message : Text
  /-- The notes about positions. -/
  notes : List Text

namespace ParseError

/-- The error with a further note about a position. -/
def appendNote (e : ParseError) (p : Position) (message : Option Text) : ParseError :=
  { e with notes := e.notes ++ [positionNote e.src p message] }

/-- The error of a failed parse, with a note about its position. -/
def ofFailure (f : ParseFailure) : Except Fault ParseError := do
  let e : ParseError :=
    { src := f.src, position := f.position, expected := f.expected, message := ← f.message
      notes := [] }
  return e.appendNote f.position none

end ParseError

end Furthest
