import Furthest.Builder
import Furthest.Checked.Argument
import Furthest.Prebuilt.Number
import Furthest.Prebuilt.Quoted

/-!
# Checked parsers

The parsers and the ways to put parsers together, with dynamic arguments that are checked
first. Of several faults the one of the leftmost argument is raised, unless a comment says
otherwise.

## Main definitions

* `Checked.literal`, `Checked.regex`, `Checked.oneOf`, …: leaves.
* `Checked.seq`, `Checked.alt`, `Checked.times`, …: parsers put together.
* `Checked.lazy`: lazy parsers.
* `Checked.quotedString`, `Checked.integer`: ready-made parsers with options.
-/

namespace Furthest

namespace Checked

/-! ### Leaves -/

/-- Matches the first of several texts that matches. -/
def literal (vs : List Value) : Except Fault Parser := do
  if vs.isEmpty then throw .noLiterals
  return Parser.literals (← vs.mapM text)

/-- Matches a pattern. -/
def regex (o : Operand) (groupValue : Value) (flags : Regex.Flags) : Except Fault Parser := do
  let p ← pattern o flags
  return .regex p (← group p groupValue)

/-- Matches a character that passes a test. -/
def satisfy (p : Supplied Predicate) : Except Fault Parser := do
  return Parser.satisfy (← p.require)

/-- Matches as many characters as pass a test. -/
def takeWhile (p : Supplied Predicate) : Except Fault Parser := do
  return .takeWhile (← p.require).test

/-- Matches a character of a collection. -/
def oneOf (v : Value) : Except Fault Parser := do
  let (shown, holds) ← characters v
  return Parser.oneOf shown holds

/-- Matches a character that is not in a collection. -/
def noneOf (v : Value) : Except Fault Parser := do
  let (shown, holds) ← characters v
  return Parser.noneOf shown holds

/-- Matches nothing. -/
def fail (label : Value) : Except Fault Parser := do return .fail (← text label)

/-- Does what an action says. -/
def custom (act : Supplied (Text → Int → Parser)) : Except Fault Parser := do
  return .custom (← act.require)

/-! ### One parser -/

/-- Applies a function to the value. -/
def map (p : Parser) (f : Operand) : Except Fault Parser := do
  let f ← (Supplied.ofOperand id f).require
  return p.map fun v => f.call [v]

/-- Goes on with the parser that a function makes of the value. -/
def chain (p : Parser) (next : Supplied (Value → Parser)) : Except Fault Parser := do
  return p.chain (← next.require)

/-- Labels a failure at the start. -/
def desc (p : Parser) (label : Value) : Except Fault Parser := do return p.desc (← text label)

/-- Matches a number of times. -/
def times (p : Parser) (least most : Value) : Except Fault Parser := do
  let (low, high) ← counts least most
  return p.times low high

/-- Matches a number of times or more often. -/
def atLeast (p : Parser) (n : Value) : Except Fault Parser :=
  times p n (.float Binary64.infinity)

/-- Matches a number of times or less often. -/
def atMost (p : Parser) (n : Value) : Except Fault Parser := times p (.int 0) n

/-- Matches the empty text where the parser matches. -/
def lookahead (o : Operand) : Except Fault Parser := do return .lookahead (← o.toParser)

/-- Matches the empty text where the parser does not match. -/
def notFollowedBy (o : Operand) (label : Value) : Except Fault Parser := do
  return .notFollowedBy (← o.toParser) label

/-- Matches what the parser matches, or else the empty text. -/
def optional (o : Operand) (default : Value) : Except Fault Parser := do
  return Parser.optional (← o.toParser) default

/-! ### Several parsers -/

/-- Matches all parsers, one after the other. -/
def seq (os : List Operand) : Except Fault Parser :=
  do return .seq (← os.mapM Operand.toParser)

/-- Matches the first of the parsers that matches. -/
def alt (os : List Operand) : Except Fault Parser := do
  return Parser.alternatives (← os.mapM Operand.toParser)

/-- Matches all parsers but the last operand, which is a function of their values. It is the
function that is checked first. -/
def seqMap (os : List Operand) : Except Fault Parser := do
  match os.getLast? with
  | none => throw .noFunction
  | some f =>
    let f ← (Supplied.ofOperand id f).require
    return Parser.seqMap (← os.dropLast.mapM Operand.toParser) f.call

/-- Matches both and keeps the value of the second. -/
def andThen (p : Parser) (o : Operand) : Except Fault Parser := do
  return p.andThen (← o.toParser)

/-- Matches both and keeps the value of the first. -/
def skip (p : Parser) (o : Operand) : Except Fault Parser := do return p.skip (← o.toParser)

/-- Matches both and calls the function that the first one produced. -/
def ap (p : Parser) (o : Operand) : Except Fault Parser := do return p.ap (← o.toParser)

/-- Matches elements with separators between them, at least one. -/
def sepBy1 (element separator : Operand) : Except Fault Parser := do
  return (← element.toParser).sepBy1 (← separator.toParser)

/-- Matches elements with separators between them, if there are any. -/
def sepBy (element separator : Operand) : Except Fault Parser := do
  return (← element.toParser).sepBy (← separator.toParser)

/-! ### Lazy parsers -/

/-- Makes a lazy parser, with a label if there is one. -/
def lazy (builder : Builder) (label : Option Value) : Build Parser := do
  let p ← Build.lazy builder
  match label with
  | none | some .none => return p
  | some label => desc p label

/-! ### Functions that return a parser -/

/-- Goes on with an operand, which has to be a parser. -/
def goOnWith (o : Operand) : Value → Parser := fun _ => .ofExcept o.asParser

/-- Goes on with the operand that belongs to the value, or else with the last one. -/
def goOnByTable (table : List (Text × Operand)) (default : Operand) : Value → Parser :=
  fun v =>
  match table.find? fun e => v.equal (.text e.1) with
  | some e => .ofExcept e.2.asParser
  | none => .ofExcept default.asParser

/-- Goes on with what a value returns, which has to be a function and never returns a
parser. -/
def goOnWithCall (f : Value) : Value → Parser := fun v =>
  .chain (.map (.succeed v) fun v => f.call [v]) fun w => .raise (Operand.value w).notParser

/-- Notes the value under a tag before it goes on. -/
def goOnTraced (tag : Text) (next : Value → Parser) : Value → Parser := fun v =>
  .note { tag := tag, items := [v] } (next v)

/-! ### Ready-made parsers -/

/-- One or more characters of a collection, joined. -/
def digitsOf (chars label : Value) : Except Fault Parser := do
  let element ← oneOf chars
  return Prebuilt.digitsOf element (← text label)

/-- An integer in a base, which has to be one that there are digits for. A floating point
number that equals such a base is found out when digits have been read. -/
def integerIn (base : Value) : Except Fault Parser :=
  match Prebuilt.bases.find? fun b => base.equal (.int b.base), base with
  | some b, .float _ =>
    .ok (Prebuilt.signed
      ((Prebuilt.digitsIn b).map fun _ => Effect.raise (.notInteger base.typeName)))
  | some b, _ => .ok (Prebuilt.integer (some Text.digitLimit) b)
  | none, _ => .error (.unsupportedBase base)

/-- An integer in a base; zero asks for the base that the first characters announce. -/
def integer (base : Value) : Except Fault Parser :=
  if base.equal (.int 0) then .ok (Prebuilt.anyInteger (some Text.digitLimit))
  else
    match base.unhashable? with
    | some typeName => .error (.unhashable typeName)
    | none => integerIn base

/-- The elements of a collection of a known size. -/
def sized (v : Value) : Except Fault (List Value) :=
  match v.elements? with
  | some vs => .ok vs
  | none => .error (.notSized v.typeName)

/-- Opening quotes with their closing quotes. There have to be as many of the one as of the
other. -/
def quotePairs (opening closing : Value) : Except Fault (List (Value × Value)) := do
  let os ← sized opening
  let cs ← sized closing
  if os.length ≠ cs.length then throw .unpairedQuotes
  return os.zip cs

/-- The options of a quoted string. -/
structure QuotedOptions where
  /-- The opening quotes. -/
  opening : Value
  /-- The closing quotes. -/
  closing : Value
  /-- What announces an escape. -/
  escape : Value
  /-- Sequences that stand for a fixed value. -/
  customEscapes : List (Text × Value)
  /-- Sequences that are followed by more text. -/
  advancedEscapes : List (Text × Operand)

/-- The opening quotes of some pairs of quotes, as a value. -/
def openingQuotes (quotes : List (Text × Text)) : Value := .tuple (quotes.map (.text ·.1))

/-- The closing quotes of some pairs of quotes, as a value. -/
def closingQuotes (quotes : List (Text × Text)) : Value := .tuple (quotes.map (.text ·.2))

/-- The options that are used unless others are given. -/
def QuotedOptions.general : QuotedOptions :=
  let q := Prebuilt.generalQuoting
  { opening := openingQuotes q.quotes, closing := closingQuotes q.quotes
    escape := .text q.escape, customEscapes := q.customEscapes
    advancedEscapes := q.advancedEscapes.map fun e => (e.1, .parser e.2) }

/-- A mapping from texts: a later entry replaces an earlier one with the same text in its
place. -/
def distinctKeys (es : List (Text × α)) : List (Text × α) :=
  es.foldl
    (fun seen e =>
      if seen.any (·.1 == e.1) then seen.map fun s => if s.1 == e.1 then e else s
      else seen ++ [e])
    []

/-- The text of a quote in a place where a parser is expected. -/
def quoteOperand : Value → Except Fault Text
  | .text t => .ok t
  | v => .error (Operand.value v).notParser

/-- A quoted string. The escapes are checked before the quotes, and of two quotes the
closing one is checked first. -/
def quotedString (options : QuotedOptions) : Except Fault Parser := do
  let pairs ← quotePairs options.opening options.closing
  let escape ← text options.escape
  let advanced ← (distinctKeys options.advancedEscapes).mapM fun e => do
    return (e.1, ← e.2.toParser)
  let quotes ← pairs.mapM fun p => do
    let closing ← quoteOperand p.2
    return (← text p.1, closing)
  return Prebuilt.quotedString
    { quotes := quotes, escape := escape, customEscapes := distinctKeys options.customEscapes
      advancedEscapes := advanced }

/-- A quoted string without escapes. -/
def rawQuotedString (opening closing : Value) : Except Fault Parser := do
  let pairs ← quotePairs opening closing
  let quotes ← pairs.mapM fun p => do return (← text p.1, ← quoteOperand p.2)
  return Prebuilt.rawQuotedString quotes

end Checked

end Furthest
