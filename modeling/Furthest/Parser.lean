import Furthest.Callback
import Furthest.Regex.Pattern
import Furthest.Reply

/-!
# Parsers

A parser is a tree. Its leaves match or refuse text at an offset, its inner nodes put
parsers together, and a node for a lazy parser refers to a parser that is built the first
time it is run. What the nodes do is said by `Parser.eval`; this module holds the tree and
the parsers that are put together from its nodes.

Callbacks occur in three places. The function of `map` turns one value into another. The
function of `chain` turns a value into the parser to go on with; if it raises a fault or
leaves a note, it returns a parser that does so. A custom action looks at the text and the
offset, and says how to go on in the same way, where it may also give an answer of its own
or inspect the reply of a parser.

## Main definitions

* `Parser`: the tree.
* `Parser.seqMap`, `Parser.andThen`, `Parser.skip`, `Parser.ap`, `Parser.mark`: sequences of
  which a part or a function is kept.
* `Parser.times`, `Parser.many`, `Parser.atLeast`, `Parser.atMost`: repetitions.
* `Parser.sepBy1`, `Parser.sepBy`: elements with separators between them.
* `Parser.alternatives`, `Parser.optional`: choices.
-/

namespace Furthest

/-- A parser. -/
inductive Parser where
  /-- Matches a text. -/
  | literal (text : Text)
  /-- Matches a pattern; the value is the text of a group, which has to have a part in the
  match. -/
  | regex (pattern : Regex.Pattern) (group : Nat)
  /-- Matches a character that passes a test. -/
  | charTest (label : Text) (test : CodePoint → Effect Bool)
  /-- Matches as many characters as pass a test. -/
  | takeWhile (test : CodePoint → Effect Bool)
  /-- Matches the empty text, with a value. -/
  | succeed (value : Value)
  /-- Matches nothing. -/
  | fail (label : Text)
  /-- Matches at the end of the text. -/
  | eof
  /-- Matches the empty text; the value is the position. -/
  | index
  /-- Matches any character. -/
  | anyChar
  /-- Matches the rest of the text. -/
  | rest
  /-- Applies a function to the value. -/
  | map (p : Parser) (f : Value → Effect Value)
  /-- Goes on with the parser that a function makes of the value. -/
  | chain (p : Parser) (next : Value → Parser)
  /-- Labels a failure at the start of the parser. -/
  | desc (p : Parser) (label : Text)
  /-- Matches `least` times, and then up to `extra` times more, without an upper limit if
  there is none. The value is the list of the values. -/
  | repeated (p : Parser) (least : Nat) (extra : Option Nat)
  /-- Matches all parsers, one after the other. The value is the list of the values. -/
  | seq (ps : List Parser)
  /-- Matches the first of the parsers that matches. -/
  | alt (p : Parser) (ps : List Parser)
  /-- Matches the empty text where the parser matches. -/
  | lookahead (p : Parser)
  /-- Matches the empty text where the parser does not match. -/
  | notFollowedBy (p : Parser) (label : Label)
  /-- Stands for a parser that is built the first time it is run. -/
  | lazy (id : Nat)
  /-- Goes on with what a function of the text and the offset says. -/
  | custom (act : Text → Int → Parser)
  /-- Gives a reply. -/
  | answer (reply : Reply)
  /-- Goes on with what a function of the parser's reply says, at the same offset. -/
  | inspect (p : Parser) (next : Reply → Parser)
  /-- Raises a fault. -/
  | raise (fault : Fault)
  /-- Leaves a note before it goes on. -/
  | note (n : Note) (p : Parser)

instance : Inhabited Parser := ⟨.fail []⟩

/-- The parser that raises the fault of a failed check when it is run. -/
def Parser.ofExcept : Except Fault Parser → Parser
  | .ok p => p
  | .error fault => .raise fault

/-- The character at an offset of a text, which is there unless the offset lies far before
the start or behind the end. -/
def Text.lookUp (src : Text) (pos : Int) : Except Fault CodePoint :=
  match src.charAt? pos with
  | some c => .ok c
  | none => .error (if pos < -Text.offsetLimit then .offsetTooLarge else .offsetOutOfRange)

/-- A test of characters with a name. -/
structure Predicate where
  /-- The name. -/
  name : Text
  /-- The test. -/
  test : CodePoint → Effect Bool

namespace Parser

/-! ### Choices -/

/-- Matches the first of the parsers that matches, and nothing if there are none. -/
def alternatives : List Parser → Parser
  | [] => fail "zero alternates"
  | p :: ps => alt p ps

/-- Matches either of two parsers, the first one preferred. -/
def orElse (p q : Parser) : Parser := alternatives [p, q]

/-- Matches what the parser matches, or else the empty text with a default value. -/
def optional (p : Parser) (default : Value) : Parser := alternatives [p, succeed default]

/-- Matches the first of the texts that matches. -/
def literals (ts : List Text) : Parser :=
  match ts with
  | [t] => literal t
  | ts => alternatives (ts.map literal)

/-- Matches nothing. -/
def empty : Parser := fail "fantasy-land/empty"

/-! ### Characters -/

/-- Matches a character that passes a named test. -/
def satisfy (p : Predicate) : Parser := charTest ("a character matching " ++ p.name) p.test

/-- Matches a character of a collection, which is shown in the label. -/
def oneOf (shown : Text) (holds : CodePoint → Bool) : Parser :=
  charTest ("a character matching one_of(" ++ shown ++ ")") fun c => pure (holds c)

/-- Matches a character that is not in a collection, which is shown in the label. -/
def noneOf (shown : Text) (holds : CodePoint → Bool) : Parser :=
  charTest ("a character matching none_of(" ++ shown ++ ")") fun c => pure (!holds c)

/-! ### Sequences -/

/-- Replaces the value. -/
def result (p : Parser) (value : Value) : Parser := p.map fun _ => pure value

/-- Matches all parsers, one after the other, and applies a function to their values. -/
def seqMap (ps : List Parser) (f : List Value → Effect Value) : Parser :=
  (seq ps).map fun v => f v.items

/-- Matches both and keeps the value of the second. -/
def andThen (p q : Parser) : Parser := (seq [p, q]).map fun v => pure (v.items.getD 1 .none)

/-- Matches both and keeps the value of the first. -/
def skip (p q : Parser) : Parser := (seq [p, q]).map fun v => pure (v.items.getD 0 .none)

/-- Matches both and calls the function that the first one produced with the value of the
second. -/
def ap (p q : Parser) : Parser :=
  seqMap [p, q] fun vs => (vs.getD 0 .none).call [vs.getD 1 .none]

/-- The mark of a value between two positions. -/
def markOf : List Value → Effect Value
  | [.position start, v, .position stop] => pure (.mark start v stop)
  | _ => Effect.raise .badArguments

/-- Adds the positions at which the match starts and ends to the value. -/
def mark (p : Parser) : Parser := seqMap [index, p, index] markOf

/-! ### Repetitions -/

/-- Matches at least `least` times and at most `most` times, without an upper limit if there
is none. -/
def times (p : Parser) (least : Nat) (most : Option Nat) : Parser :=
  repeated p least (most.map (· - least))

/-- Matches any number of times. -/
def many (p : Parser) : Parser := p.times 0 none

/-- Matches a number of times or more often. -/
def atLeast (p : Parser) (count : Nat) : Parser := p.times count none

/-- Matches a number of times or less often. -/
def atMost (p : Parser) (count : Nat) : Parser := p.times 0 (some count)

/-- Puts a value in front of a list of values. -/
def consValues : List Value → Effect Value
  | [first, others] => pure (.list (first :: others.items))
  | _ => Effect.raise .badArguments

/-- Matches elements with separators between them, at least one. The value is the list of
the elements' values. -/
def sepBy1 (element separator : Parser) : Parser :=
  seqMap [element, (separator.andThen element).many] consValues

/-- Matches elements with separators between them, if there are any. -/
def sepBy (element separator : Parser) : Parser :=
  alternatives [sepBy1 element separator, (succeed .none).map fun _ => pure (.list [])]

end Parser

end Furthest
