import Furthest.Parser.Eval
import Furthest.Report

/-!
# Parsing a whole text

A parse runs a parser from the start of a text and demands that it match up to the end. What
comes of it is a value, or a failure at the furthest offset that any attempt has reached.

## Main definitions

* `Parsed`: what comes of a parse.
* `Parser.parse`: parses a text.
* `Parser.tryParse`: parses a text, with an error for a failure.
-/

namespace Furthest

/-- What comes of a parse. -/
inductive Parsed where
  /-- The text matched. -/
  | value (v : Value)
  /-- The text did not match. -/
  | failure (f : ParseFailure)

/-- The printed form of what comes of a parse. -/
def Parsed.render : Parsed → Text
  | value v => "<Parsed \x7b" ++ v.render ++ "\x7d>"
  | failure f => f.render

/-- The text of a source, which has to be one. -/
def sourceText : Value → Except Fault Text
  | .text t => .ok t
  | v => .error (.notSource v)

namespace Parser

/-- Parses a whole text. A failure is written to the log. -/
def parse (p : Parser) (limits : Limits) (src : Text) : Run Parsed := do
  match ← (p.skip eof).run limits src 0 with
  | .success _ v _ => return .value v
  | .failure record =>
    Run.log (.parseFailed record.furthest record.expected)
    return .failure
      { src := src, position := Position.ofOffset src record.furthest
        expected := record.expected }

/-- Parses a whole text. A failure is an error. -/
def tryParse (p : Parser) (limits : Limits) (src : Text) : Run (Except ParseError Value) := do
  match ← p.parse limits src with
  | .value v => return .ok v
  | .failure f => return .error (← Run.ofExcept (ParseError.ofFailure f))

end Parser

end Furthest
