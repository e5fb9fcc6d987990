import Furthest.Parser
import Furthest.Text.LetterCase

/-!
# Custom actions

Ways to make the actions of custom parsers. An action looks at the text and the offset, and
returns a parser that says how to go on.

## Main definitions

* `Custom.Act`: the actions.
* `Custom.success`, `Custom.failure`: fixed replies, relative to the offset.
* `Custom.mergeRuns`: two parsers at one offset, with their records merged.
-/

namespace Furthest.Custom

/-- The action of a custom parser. -/
abbrev Act := Text → Int → Parser

/-- Replies with a success some characters further on. -/
def success (advance : Int) (value : Value) (record : Record) : Act := fun _ pos =>
  .answer (.success (pos + advance) value record)

/-- Replies with a failure, at a fixed offset or some characters further on. -/
def failure (furthest : Option Int) (advance : Int) (expected : List Label) : Act :=
  fun _ pos =>
  .answer (.failure ⟨furthest.getD (pos + advance), expected⟩)

/-- Matches an uppercase letter. -/
def uppercase : Act := fun src pos =>
  let mismatch := Parser.answer (.mismatch pos (.text "an uppercase letter"))
  if pos < src.length then
    .ofExcept ((src.lookUp pos).map fun c =>
      if CodePoint.isUpper c then .answer (.matched (pos + 1) (.char c)) else mismatch)
  else mismatch

/-- Runs `first` and then `second` at the same offset, and replies with what came of
`first`, with the record of `second` merged into it. -/
def mergeRuns (first second : Parser) : Act := fun _ _ =>
  .inspect first fun reply =>
    .inspect second fun last => .ofExcept ((reply.onto last).map .answer)

/-- Calls a value with the text and the offset. No value returns a reply. -/
def calling (f : Value) : Act := fun src pos =>
  .chain (.map (.succeed .none) fun _ => f.call [.text src, .int pos]) fun _ =>
    .raise .badArguments

/-- Raises an error with a message. -/
def raising (message : Text) : Act := fun _ _ => .raise (.raised message)

/-- The same action, which notes the offset under a tag. -/
def traced (tag : Text) (act : Act) : Act := fun src pos =>
  .note { tag := tag, items := [.int pos] } (act src pos)

end Furthest.Custom
