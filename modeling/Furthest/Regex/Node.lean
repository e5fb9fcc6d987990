import Furthest.Regex.Flags
import Furthest.Text.LetterCase

/-!
# Regular expressions

The tree of a regular expression. Flags are settled in the tree: every node says by itself
what it matches, so that flags that hold for a part of a pattern need no further care.

## Main definitions

* `Regex.CharSet`: a set of characters.
* `Regex.Anchor`: a condition on an offset.
* `Regex.Node`: a regular expression.
* `Regex.Node.ofAlternatives`: the choice between several expressions.
* `Regex.Width`: bounds on the length of what a node matches.
-/

namespace Furthest.Regex

/-- The classes of characters with a name of their own. -/
inductive Category where
  /-- Decimal digits. -/
  | digit
  /-- Letters, digits and the underscore. -/
  | word
  /-- Blanks. -/
  | blank
deriving DecidableEq, Repr

/-- Whether a category holds a character. -/
def Category.holds (category : Category) (ascii : Bool) (c : CodePoint) : Bool :=
  match category, ascii with
  | digit, true => CodePoint.isAsciiDigit c
  | digit, false => CodePoint.isDecimalDigit c
  | word, true => CodePoint.isAsciiWord c
  | word, false => CodePoint.isWord c
  | blank, true => CodePoint.isAsciiBlank c
  | blank, false => CodePoint.isBlank c

/-- A part of a set of characters. -/
inductive ClassItem where
  /-- The characters between two, which belong to the range. -/
  | range (low high : CodePoint)
  /-- The characters of a category, or all others. -/
  | category (category : Category) (negated : Bool)
deriving DecidableEq, Repr

/-- A set of characters: those of its items, or all others. -/
structure CharSet where
  /-- The items of the set. -/
  items : List ClassItem
  /-- Whether the set holds what its items do not. -/
  negated : Bool
  /-- Whether ranges hold letters in both cases. -/
  ignoreCase : Bool
  /-- Whether categories and letter case know the characters of ASCII alone. -/
  ascii : Bool
deriving DecidableEq, Repr

namespace CharSet

/-- The characters that match a character in a range. -/
def variants (s : CharSet) (c : CodePoint) : List CodePoint :=
  if !s.ignoreCase then [c]
  else if s.ascii then CodePoint.sameAsciiLetter c
  else CodePoint.sameLetter c

/-- Whether an item of the set holds a character. -/
def itemHolds (s : CharSet) (c : CodePoint) : ClassItem → Bool
  | .range low high => (s.variants c).any fun v => decide (low ≤ v) && decide (v ≤ high)
  | .category category negated => category.holds s.ascii c != negated

/-- Whether the set holds a character. -/
def holds (s : CharSet) (c : CodePoint) : Bool := s.items.any (s.itemHolds c) != s.negated

/-- The set of one character. -/
def single (flags : Flags) (c : CodePoint) : CharSet :=
  { items := [.range c c], negated := false
    ignoreCase := flags.has Flags.ignoreCase, ascii := flags.has Flags.ascii }

/-- The set of what a dot matches: everything, or everything but the line feed. -/
def dot (flags : Flags) : CharSet :=
  { items := if flags.has Flags.dotAll then [] else [.range Text.lineFeed Text.lineFeed]
    negated := true, ignoreCase := false, ascii := false }

end CharSet

/-- A condition on an offset of the text. -/
inductive Anchor where
  /-- The start of the text. -/
  | textStart
  /-- The start of a line. -/
  | lineStart
  /-- The end of the text. -/
  | textEnd
  /-- The end of the text, or the line feed that ends it. -/
  | lastLineEnd
  /-- The end of a line. -/
  | lineEnd
  /-- An offset with a word character on one side only, or any other offset of a text that
  is not empty. -/
  | wordBoundary (negated ascii : Bool)
deriving DecidableEq, Repr

/-- The ways in which a repetition chooses the number of its rounds. -/
inductive Style where
  /-- As many rounds as possible first. -/
  | greedy
  /-- As few rounds as possible first. -/
  | reluctant
  /-- As many rounds as possible, and what was matched once is never given back. -/
  | possessive
deriving DecidableEq, Repr

/-- A regular expression. -/
inductive Node where
  /-- Matches the empty text. -/
  | empty
  /-- Matches one character of a set. -/
  | chars (set : CharSet)
  /-- Matches the empty text where a condition holds. -/
  | anchor (a : Anchor)
  /-- Matches what its body does, and remembers it under a number. -/
  | group (index : Nat) (body : Node)
  /-- Matches what a group has matched last. -/
  | backref (index : Nat) (ignoreCase ascii : Bool)
  /-- Matches both, one after the other. -/
  | seq (first second : Node)
  /-- Matches either, the first one preferred. -/
  | alt (first second : Node)
  /-- Matches the first one if a group has a part in the match so far, and otherwise the
  second. -/
  | conditional (index : Nat) (present absent : Node)
  /-- Matches its body `least` times, and then up to `extra` times more, without an upper
  limit if there is none. -/
  | repeated (style : Style) (least : Nat) (extra : Option Nat) (body : Node)
  /-- Matches its body in the way it prefers, and in no other. -/
  | atomic (body : Node)
  /-- Matches the empty text where its body matches, or where it does not; the body starts
  here, or `behind` characters earlier. -/
  | look (behind : Nat) (negated : Bool) (body : Node)
deriving DecidableEq, Repr

namespace Node

/-- The node as one alternative among others: a choice of its own is kept apart from
theirs. -/
def asAlternative : Node → Node
  | alt a b => seq (alt a b) empty
  | node => node

/-- The choice between nodes that are not choices themselves. -/
def chain : List Node → Node
  | [] => empty
  | [node] => node
  | node :: nodes => alt node (chain nodes)

/-- Matches one of several nodes, the first one preferred. -/
def ofAlternatives : List Node → Node
  | [node] => node
  | nodes => chain (nodes.map asAlternative)

/-- Whether a node holds a repetition. -/
def hasRepetition : Node → Bool
  | repeated .. => true
  | group _ body | atomic body | look _ _ body => body.hasRepetition
  | seq a b | alt a b | conditional _ a b => a.hasRepetition || b.hasRepetition
  | empty | chars _ | anchor _ | backref .. => false

end Node

/-- Bounds on the length of what a node matches. There is no upper bound if `most` is
missing. -/
structure Width where
  /-- The least length. -/
  least : Nat
  /-- The greatest length. -/
  most : Option Nat
deriving DecidableEq, Repr

namespace Width

/-- The width of the empty text. -/
def zero : Width := ⟨0, some 0⟩

/-- The width of one character. -/
def one : Width := ⟨1, some 1⟩

/-- The width of two texts, one after the other. -/
def add (a b : Width) : Width :=
  ⟨a.least + b.least, a.most.bind fun m => b.most.map (m + ·)⟩

/-- The width of either of two texts. -/
def either (a b : Width) : Width :=
  ⟨min a.least b.least, a.most.bind fun m => b.most.map (max m ·)⟩

/-- The width of `least` texts and up to `extra` more. -/
def times (a : Width) (least : Nat) (extra : Option Nat) : Width :=
  { least := a.least * least
    most := if a.most = some 0 ∨ extra.map (least + ·) = some 0 then some 0
      else a.most.bind fun m => extra.map fun n => m * (least + n) }

/-- The length of the text, if there is only one that it can have. -/
def fixed? (w : Width) : Option Nat := if w.most = some w.least then some w.least else none

end Width

/-- The width of a node, given the widths of the groups. -/
def Node.width (groups : Nat → Width) : Node → Width
  | empty | anchor _ | look .. => Width.zero
  | chars _ => Width.one
  | group _ body | atomic body => body.width groups
  | backref i _ _ => groups i
  | seq a b => (a.width groups).add (b.width groups)
  | alt a b | conditional _ a b => (a.width groups).either (b.width groups)
  | repeated _ least extra body => (body.width groups).times least extra

end Furthest.Regex
