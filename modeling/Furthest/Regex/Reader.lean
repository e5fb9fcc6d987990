import Furthest.Regex.Node
import Furthest.Text.Identifier
import Furthest.Text.Integer

/-!
# Reading regular expressions

Reads the written form of a regular expression into its tree. Reading goes from left to
right and keeps the number of groups, their names and their widths; every way in which a
pattern can be malformed has a cause of its own.

## Limits

The names of characters are not known, so that an escape that gives a character by its name
is malformed.

## Main definitions

* `Regex.Malformed`: the causes.
* `Regex.Reading`: the state of reading.
* `Regex.Reader.alternatives`: reads alternatives up to the end of a group.
* `Regex.read`: reads a pattern.
-/

namespace Furthest.Regex

/-- The ways in which a pattern can be malformed. -/
inductive Malformed where
  /-- A set of characters has no end. -/
  | openSet
  /-- A range runs backwards, or has a category for an end. -/
  | badRange
  /-- A backslash is followed by something that it gives no meaning to. -/
  | badEscape
  /-- The pattern ends with a backslash. -/
  | openEscape
  /-- A group has no end, or an end belongs to no group. -/
  | unbalanced
  /-- A repetition follows nothing that could be repeated. -/
  | nothingToRepeat
  /-- A repetition follows a repetition. -/
  | multipleRepeat
  /-- The upper bound of a repetition lies below the lower one. -/
  | boundsCrossed
  /-- A group has a name that is no identifier. -/
  | badName
  /-- Two groups have one name. -/
  | duplicateName
  /-- A name or a number stands for no group. -/
  | unknownGroup
  /-- A group is referred to inside itself, or inside the lookbehind it is defined in. -/
  | openGroup
  /-- A question mark opens a group of no known kind. -/
  | unknownExtension
  /-- A list of flags is malformed. -/
  | badFlags
  /-- Flags for the whole pattern stand elsewhere than at its start. -/
  | misplacedFlags
  /-- A pattern without repetitions has one. -/
  | repetitionInTemplate
  /-- A condition has more than two branches. -/
  | tooManyBranches
  /-- A comment has no end. -/
  | openComment
  /-- The text before an offset can have several lengths. -/
  | variableLookbehind
  /-- The pattern is nested too deeply. -/
  | tooDeep
  /-- A bound of a repetition has too many digits. -/
  | boundTooLong (digits : Nat)
  /-- A bound of a repetition is too large. -/
  | boundTooLarge
deriving DecidableEq, Repr

/-- The state of reading. -/
structure Reading where
  /-- What is still to be read. -/
  rest : Text
  /-- The flags of the whole pattern. -/
  flags : Flags
  /-- The number of groups that have been opened. -/
  groups : Nat
  /-- The names of groups. -/
  names : List (Text × Nat)
  /-- The widths of the groups that have been closed. -/
  widths : List (Nat × Width)
  /-- The greatest number of a group that a condition has asked for. -/
  conditions : Nat
  /-- In a lookbehind, the number of groups opened before it. -/
  groupsOutside : Option Nat
  /-- Whether some lookbehind can look at texts of several lengths. -/
  variableLookbehind : Bool

/-- A reader of parts of a pattern. -/
abbrev Reader := StateT Reading (Except Malformed)

namespace Reader

/-! ### Characters -/

/-- The next character, which stays to be read. -/
def peek? : Reader (Option CodePoint) := do return (← get).rest.head?

/-- Reads the next character. -/
def next? : Reader (Option CodePoint) := do
  let s ← get
  match s.rest with
  | [] => return none
  | c :: rest =>
    set { s with rest := rest }
    return some c

/-- Reads the next character if it is the given one. -/
def accept (c : CodePoint) : Reader Bool := do
  let s ← get
  match s.rest with
  | [] => return false
  | d :: rest =>
    if c = d then
      set { s with rest := rest }
      return true
    else return false

/-- Reads characters that pass a test, at most a given number of them. -/
def takeUpTo (limit : Nat) (test : CodePoint → Bool) : Reader Text := do
  let s ← get
  let taken := (s.rest.take limit).takeWhile test
  set { s with rest := s.rest.drop taken.length }
  return taken

/-- Reads all characters up to the first that fails a test. -/
def takeWhile (test : CodePoint → Bool) : Reader Text := do
  takeUpTo (← get).rest.length test

/-- Reads the end of a group. -/
def closing : Reader Unit := do
  if !(← accept 41) then throw .unbalanced

/-- The digits up to seven. -/
def isOctal (c : CodePoint) : Bool := decide (48 ≤ c) && decide (c ≤ 55)

/-- The digits in base sixteen. -/
def isHex (c : CodePoint) : Bool :=
  CodePoint.isAsciiDigit c || (decide (97 ≤ c) && decide (c ≤ 102))
    || (decide (65 ≤ c) && decide (c ≤ 70))

/-- Reads a fixed number of digits in base sixteen. -/
def hexDigits (count : Nat) : Reader CodePoint := do
  let digits ← takeUpTo count isHex
  if digits.length ≠ count then throw .badEscape
  let c := Text.positionalValue 16 digits
  if 0x10FFFF < c then throw .badEscape
  return c

/-! ### Groups -/

/-- The width of a group that has been closed. -/
def widthOf? (s : Reading) (group : Nat) : Option Width := s.widths.lookup group

/-- Checks that a group can be referred to here. -/
def checkReference (group : Nat) : Reader Unit := do
  let s ← get
  if (widthOf? s group).isNone then throw .openGroup
  match s.groupsOutside with
  | some n => if n < group then throw .openGroup
  | none => return

/-- Reads everything up to a character, and this character. -/
def textUpTo (terminator : CodePoint) : Reader Text := do
  let text ← takeWhile (· != terminator)
  if !(← accept terminator) then throw .badName
  return text

/-- Reads a name up to the character that ends it. -/
def nameUpTo (terminator : CodePoint) : Reader Text := do
  let name ← textUpTo terminator
  if name.isIdentifier then return name else throw .badName

/-- Opens a group, with a name if it has one, and returns its number. -/
def openGroup (name : Option Text) : Reader Nat := do
  let s ← get
  let group := s.groups + 1
  match name with
  | none =>
    set { s with groups := group }
    return group
  | some name =>
    if (s.names.lookup name).isSome then throw .duplicateName
    set { s with groups := group, names := s.names ++ [(name, group)] }
    return group

/-- Closes a group. -/
def closeGroup (group : Nat) (body : Node) : Reader Unit :=
  modify fun s =>
    let width := body.width fun i => (widthOf? s i).getD Width.zero
    { s with widths := (group, width) :: s.widths }

/-- A reference to a group. -/
def reference (flags : Flags) (group : Nat) : Node :=
  .backref group (flags.has Flags.ignoreCase) (flags.has Flags.ascii)

/-- Reads the group that a condition asks for, up to the end of the condition. The group may
be opened later if it is given by its number. -/
def condition : Reader Nat := do
  let text ← textUpTo 41
  let group ←
    if text.isIdentifier then
      match (← get).names.lookup text with
      | none => throw .unknownGroup
      | some group => pure group
    else
      match Text.readInteger (some Text.digitLimit) text with
      | .error _ => throw .badName
      | .ok n =>
        if n ≤ 0 then throw .unknownGroup
        modify fun s => { s with conditions := max s.conditions n.toNat }
        pure n.toNat
  if (← get).groupsOutside.isSome then checkReference group
  return group

/-! ### Escapes -/

/-- The characters that a letter behind a backslash stands for, in sets and outside. -/
def controlEscapes : List (CodePoint × CodePoint) :=
  [(97, 7), (102, 12), (110, 10), (114, 13), (116, 9), (118, 11), (92, 92)]

/-- The categories that a letter behind a backslash stands for, and whether it negates
them. -/
def categoryEscapes : List (CodePoint × Category × Bool) :=
  [(100, .digit, false), (68, .digit, true), (115, .blank, false), (83, .blank, true),
    (119, .word, false), (87, .word, true)]

/-- Reads what follows a backslash and stands for a character both in sets and outside: the
letter has been read already. -/
def characterEscape (c : CodePoint) : Reader CodePoint := do
  match controlEscapes.lookup c with
  | some d => return d
  | none =>
    if c = 120 then hexDigits 2
    else if c = 117 then hexDigits 4
    else if c = 85 then hexDigits 8
    else if CodePoint.isAsciiLetter c then throw .badEscape
    else return c

/-- Reads what follows a backslash in a set. -/
def setEscape : Reader ClassItem := do
  match ← next? with
  | none => throw .openEscape
  | some c =>
    match categoryEscapes.lookup c with
    | some (category, negated) => return .category category negated
    | none =>
      if c = 98 then return .range 8 8
      else if isOctal c then
        let value := Text.positionalValue 8 (c :: (← takeUpTo 2 isOctal))
        if 0o377 < value then throw .badEscape
        return .range value value
      else if CodePoint.isAsciiDigit c then throw .badEscape
      else
        let d ← characterEscape c
        return .range d d

/-- Reads a number behind a backslash, whose first digit has been read already: a character
in base eight if it has three digits of that base, and otherwise a reference to a group. -/
def numericEscape (flags : Flags) (c : CodePoint) : Reader Node := do
  if c = 48 then
    let value := Text.positionalValue 8 (← takeUpTo 2 isOctal)
    return .chars (CharSet.single flags value)
  let digits := c :: (← takeUpTo 1 CodePoint.isAsciiDigit)
  let third ← peek?
  if digits.length = 2 && digits.all isOctal && (third.map isOctal).getD false then
    let value := Text.positionalValue 8 (digits ++ (← takeUpTo 1 isOctal))
    if 0o377 < value then throw .badEscape
    return .chars (CharSet.single flags value)
  let group := Text.positionalValue 10 digits
  if (← get).groups < group then throw .unknownGroup
  checkReference group
  return reference flags group

/-! ### Sets -/

/-- Reads the items of a set after its opening bracket. A closing bracket that comes first
is a character of the set. -/
def setItems : (fuel : Nat) → (items : List ClassItem) → Reader (List ClassItem)
  | 0, _ => throw .tooDeep
  | fuel + 1, items => do
    match ← next? with
    | none => throw .openSet
    | some c =>
      if c = 93 && !items.isEmpty then return items.reverse
      let low ← if c = 92 then setEscape else pure (.range c c)
      if ← accept 45 then
        match ← next? with
        | none => throw .openSet
        | some d =>
          if d = 93 then return (.range 45 45 :: low :: items).reverse
          let high ← if d = 92 then setEscape else pure (.range d d)
          match low, high with
          | .range l _, .range h _ =>
            if h < l then throw .badRange
            setItems fuel (.range l h :: items)
          | _, _ => throw .badRange
      else setItems fuel (low :: items)

/-- Reads a set after its opening bracket. -/
def charSet (flags : Flags) : Reader Node := do
  let negated ← accept 94
  let items ← setItems ((← get).rest.length + 1) []
  return .chars
    { items := items, negated := negated
      ignoreCase := flags.has Flags.ignoreCase, ascii := flags.has Flags.ascii }

/-! ### Repetitions -/

/-- The bounds of a repetition: the required rounds, and how many there may be in all. -/
abbrev Bounds := Nat × Option Nat

/-- The least number of rounds that is too large for a bound: two to the thirty-second, less
one. -/
def boundLimit : Nat := 0xFFFFFFFF

/-- The bound that digits stand for. -/
def bound (digits : Text) : Reader Nat := do
  if Text.exceeds digits.length (some Text.digitLimit) then throw (.boundTooLong digits.length)
  let n := Text.positionalValue 10 digits
  if boundLimit ≤ n then throw .boundTooLarge
  return n

/-- Reads bounds in braces after the opening brace. If there are none, nothing is read and
the brace stands for itself. -/
def bracedBounds? : Reader (Option Bounds) := do
  let start ← get
  if start.rest.head? = some 125 then return none
  let low ← takeWhile CodePoint.isAsciiDigit
  let comma ← accept 44
  let high ← if comma then takeWhile CodePoint.isAsciiDigit else pure low
  if !(← accept 125) then
    set start
    return none
  let least ← if low.isEmpty then pure 0 else bound low
  if high.isEmpty then return some (least, none)
  let most ← bound high
  if most < least then throw .boundsCrossed
  return some (least, some most)

/-- What has been read of a branch: nodes, and what a repetition may do with each. -/
inductive Item where
  /-- A node that may be repeated. -/
  | plain (node : Node)
  /-- A condition, which may not be repeated. -/
  | condition (node : Node)
  /-- A repetition, which may not be repeated again. -/
  | repetition (node : Node)

/-- The node of an item. -/
def Item.node : Item → Node
  | .plain n | .condition n | .repetition n => n

/-- Reads how a repetition chooses its rounds. -/
def style : Reader Style := do
  if ← accept 63 then return .reluctant
  if ← accept 43 then return .possessive
  return .greedy

/-- Repeats the last item. The items are in reverse order. -/
def repeatLast (bounds : Bounds) : List Item → Reader (List Item)
  | [] => throw .nothingToRepeat
  | .condition _ :: _ => throw .nothingToRepeat
  | .repetition _ :: _ => throw .multipleRepeat
  | .plain node :: items => do
    let style ← style
    let (least, most) := bounds
    return .repetition (.repeated style least (most.map (· - least)) node) :: items

/-! ### Flags inside a pattern -/

/-- The flags that letters stand for. -/
def flagLetters : List (CodePoint × Flags) :=
  [(105, Flags.ignoreCase), (109, Flags.multiline), (115, Flags.dotAll), (120, Flags.verbose),
    (97, Flags.ascii), (116, Flags.template), (117, Flags.unicode)]

/-- The flags of which a pattern has exactly one. -/
def typeFlags : Flags := Flags.ascii ||| Flags.unicode

/-- The flags that letters stand for, of which one at most may choose the type. -/
def flagsOfLetters (letters : Text) : Reader Flags :=
  letters.foldlM
    (fun flags c => do
      match flagLetters.lookup c with
      | none => throw .badFlags
      | some flag =>
        let all := flags ||| flag
        if flag.has typeFlags && (all &&& typeFlags) != flag then throw .badFlags
        return all)
    0

/-- What flags inside a pattern are for. -/
inductive FlagScope where
  /-- The whole pattern, which gets these flags. -/
  | whole (added : Flags)
  /-- A group, which gets some flags and loses others. -/
  | group (added removed : Flags)

/-- Reads the flags of a group after its question mark. -/
def flagScope : Reader FlagScope := do
  let added ← flagsOfLetters (← takeWhile CodePoint.isAsciiLetter)
  match ← next? with
  | some 41 => return .whole added
  | some 58 =>
    if added.has Flags.template then throw .badFlags
    return .group added 0
  | some 45 =>
    let letters ← takeWhile CodePoint.isAsciiLetter
    let removed ← flagsOfLetters letters
    if letters.isEmpty || removed.has typeFlags || added.has removed then throw .badFlags
    if (added ||| removed).has Flags.template then throw .badFlags
    if !(← accept 58) then throw .badFlags
    return .group added removed
  | _ => throw .badFlags

/-- The flags inside a group that gets some and loses others. -/
def combined (flags added removed : Flags) : Flags :=
  let kept := if added.has typeFlags then flags.without typeFlags else flags
  (kept ||| added).without removed

/-! ### Comments -/

/-- Skips a comment up to the character that ends it; a backslash hides the character behind
it. Returns whether the comment has an end. -/
def skipComment (terminator : CodePoint) : (fuel : Nat) → Reader Bool
  | 0 => return false
  | fuel + 1 => do
    match ← next? with
    | none => return false
    | some c =>
      if c = terminator then return true
      if c = 92 then
        match ← next? with
        | none => throw .openEscape
        | some _ => skipComment terminator fuel
      else skipComment terminator fuel

/-- Skips a comment. -/
def comment (terminator : CodePoint) : Reader Bool := do
  skipComment terminator ((← get).rest.length + 1)

/-! ### The pattern -/

/-- What the characters behind a bracket open. -/
inductive Opening where
  /-- A group that remembers what it matches. -/
  | capture (name : Option Text)
  /-- A group with flags of its own. -/
  | flagged (flags : Flags)
  /-- A group that matches in one way only. -/
  | atomic
  /-- A look ahead or behind. -/
  | look (behind negated : Bool)
  /-- A choice by whether a group has a part in the match. -/
  | conditional (group : Nat)
  /-- No group: the bracket has been read to its end, and stands for this node if for
  any. -/
  | closed (item : Option Node)
  /-- Flags for the whole pattern. -/
  | global (added : Flags)

/-- Reads what follows `(?P`. -/
def namedOpening (flags : Flags) : Reader Opening := do
  match ← next? with
  | some 60 => return .capture (some (← nameUpTo 62))
  | some 61 =>
    let name ← nameUpTo 41
    match (← get).names.lookup name with
    | none => throw .unknownGroup
    | some group =>
      checkReference group
      return .closed (some (reference flags group))
  | _ => throw .unknownExtension

/-- Reads what follows an opening bracket. -/
def opening (flags : Flags) : Reader Opening := do
  if !(← accept 63) then return .capture none
  match ← peek? with
  | none => throw .unbalanced
  | some c =>
    if CodePoint.isAsciiLetter c && c != 80 || c == 45 then
      match ← flagScope with
      | .whole added => return .global added
      | .group added removed => return .flagged (combined flags added removed)
    let _ ← next?
    match c with
    | 80 => namedOpening flags
    | 58 => return .flagged flags
    | 62 => return .atomic
    | 61 => return .look false false
    | 33 => return .look false true
    | 40 => return .conditional (← condition)
    | 60 =>
      match ← next? with
      | some 61 => return .look true false
      | some 33 => return .look true true
      | _ => throw .unknownExtension
    | 35 =>
      if ← comment 41 then return .closed none
      throw .openComment
    | _ => throw .unknownExtension

/-- Reads what follows a backslash outside of sets. -/
def escape (flags : Flags) : Reader Item := do
  let ascii := flags.has Flags.ascii
  match ← next? with
  | none => throw .openEscape
  | some c =>
    match categoryEscapes.lookup c with
    | some (category, negated) =>
      return .plain (.chars
        { items := [.category category negated], negated := false, ignoreCase := false
          ascii := ascii })
    | none =>
      match c with
      | 65 => return .condition (.anchor .textStart)
      | 90 => return .condition (.anchor .textEnd)
      | 98 => return .condition (.anchor (.wordBoundary false ascii))
      | 66 => return .condition (.anchor (.wordBoundary true ascii))
      | _ =>
        if CodePoint.isAsciiDigit c then return .plain (← numericEscape flags c)
        return .plain (.chars (CharSet.single flags (← characterEscape c)))

/-- What the start-of-text sign stands for. -/
def startAnchor (flags : Flags) : Anchor :=
  if flags.has Flags.multiline then .lineStart else .textStart

/-- What the end-of-text sign stands for. -/
def endAnchor (flags : Flags) : Anchor :=
  if flags.has Flags.multiline then .lineEnd else .lastLineEnd

/-- The node of a lookbehind or lookahead. A lookbehind needs a body of one length; that it
has none is settled when the whole pattern has been read. -/
def lookNode (behind negated : Bool) (body : Node) : Reader Node := do
  if !behind then return .look 0 negated body
  let s ← get
  match (body.width fun i => (widthOf? s i).getD Width.zero).fixed? with
  | some n => return .look n negated body
  | none =>
    modify fun s => { s with variableLookbehind := true }
    return .look 0 negated body

/-- Reads a part of a group in which references to the group's own parts are not allowed if
it is a lookbehind. -/
def inLookbehind (behind : Bool) (body : Reader Node) : Reader Node := do
  if !behind then body
  else
    let outside := (← get).groupsOutside
    if outside.isNone then modify fun s => { s with groupsOutside := some s.groups }
    let node ← body
    modify fun s => { s with groupsOutside := outside }
    return node

/-- The nodes of items in reverse order, one after the other. -/
def sequence (items : List Item) : Node :=
  match items with
  | [] => .empty
  | i :: is => is.foldl (fun node i => .seq i.node node) i.node

/-- The blanks that are skipped in a verbose pattern. -/
def isSkipped (c : CodePoint) : Bool := CodePoint.isAsciiBlank c

mutual

/-- Reads alternatives up to the end of the group, or of the pattern. In the pattern itself,
the flags at its start hold for all alternatives. -/
def alternatives (inGroup first : Bool) (flags : Flags) : (fuel : Nat) → Reader (List Node)
  | 0 => throw .tooDeep
  | fuel + 1 => do
    let node ← branch inGroup (first && !inGroup) flags [] fuel
    if ← accept 124 then
      let s ← get
      let flags := if inGroup then flags else s.flags
      return node :: (← alternatives inGroup false flags fuel)
    return [node]

/-- Reads one alternative, of which some items have been read already. -/
def branch (inGroup first : Bool) (flags : Flags) (items : List Item) :
    (fuel : Nat) → Reader Node
  | 0 => throw .tooDeep
  | fuel + 1 => do
    let c? ← peek?
    if c? = none || c? = some 124 || c? = some 41 then return sequence items
    match ← next? with
    | none => return sequence items
    | some c =>
      let continueWith (item : Item) : Reader Node :=
        branch inGroup first flags (item :: items) fuel
      let inside (flags : Flags) : Reader Node := do
        return .ofAlternatives (← alternatives true false flags fuel)
      if flags.has Flags.verbose && isSkipped c then branch inGroup first flags items fuel
      else if flags.has Flags.verbose && c = 35 then
        let _ ← comment Text.lineFeed
        branch inGroup first flags items fuel
      else
        match c with
        | 92 => continueWith (← escape flags)
        | 91 => continueWith (.plain (← charSet flags))
        | 46 => continueWith (.plain (.chars (CharSet.dot flags)))
        | 94 => continueWith (.condition (.anchor (startAnchor flags)))
        | 36 => continueWith (.condition (.anchor (endAnchor flags)))
        | 42 => branch inGroup first flags (← repeatLast (0, none) items) fuel
        | 43 => branch inGroup first flags (← repeatLast (1, none) items) fuel
        | 63 => branch inGroup first flags (← repeatLast (0, some 1) items) fuel
        | 123 =>
          match ← bracedBounds? with
          | some bounds => branch inGroup first flags (← repeatLast bounds items) fuel
          | none => continueWith (.plain (.chars (CharSet.single flags c)))
        | 40 =>
          match ← opening flags with
          | .closed none => branch inGroup first flags items fuel
          | .closed (some node) => continueWith (.plain node)
          | .global added =>
            if !first || !items.isEmpty then throw .misplacedFlags
            let s ← get
            let all := s.flags ||| added
            set { s with flags := all }
            branch inGroup first all items fuel
          | .capture name =>
            let group ← openGroup name
            let body ← inside flags
            closing
            closeGroup group body
            continueWith (.plain (.group group body))
          | .flagged flags =>
            let body ← inside flags
            closing
            continueWith (.plain body)
          | .atomic =>
            let body ← inside flags
            closing
            continueWith (.plain (.atomic body))
          | .look behind negated =>
            let body ← inLookbehind behind (inside flags)
            closing
            continueWith (.plain (← lookNode behind negated body))
          | .conditional group =>
            let present ← branch true false flags [] fuel
            let absent ← if ← accept 124 then branch true false flags [] fuel else pure .empty
            if (← peek?) = some 124 then throw .tooManyBranches
            closing
            continueWith (.plain (.conditional group present absent))
        | _ => continueWith (.plain (.chars (CharSet.single flags c)))

end

end Reader

/-- Reads the alternatives of a pattern, up to its end or up to a closing bracket that
belongs to no group. Every recursive call of the reader has read a character or opened a
group, which bounds their number. -/
def read (source : Text) (flags : Flags) : Except Malformed (Node × Reading) :=
  (Node.ofAlternatives <$> Reader.alternatives false true flags (2 * source.length + 2)).run
    { rest := source, flags := flags, groups := 0, names := [], widths := [], conditions := 0
      groupsOutside := none, variableLookbehind := false }

/-- What is wrong with a pattern whose alternatives have been read. -/
def Reading.malformed? (s : Reading) (node : Node) : Option Malformed :=
  if !s.rest.isEmpty then some .unbalanced
  else if s.groups < s.conditions then some .unknownGroup
  else if s.variableLookbehind then some .variableLookbehind
  else if s.flags.has Flags.template && node.hasRepetition then some .repetitionInTemplate
  else none

end Furthest.Regex
