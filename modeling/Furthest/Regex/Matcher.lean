import Furthest.Regex.Node

/-!
# Matching

A regular expression is matched at an offset by trying its alternatives in the order of
preference and backing up when what follows does not match. What follows is handed to every
step as a continuation, so that backing up is the choice of another way to call it.

A repetition without an upper limit ends after a round that has matched the empty text: the
state after it would lead to the same rounds again.

## Main definitions

* `Regex.State`: an offset and what the groups have matched.
* `Regex.Node.step`: matching a node, followed by a continuation.
* `Regex.Node.match?`: matching a node at an offset.
-/

namespace Furthest.Regex

/-- Where a match stands: the offset reached, and the start and the end of what each group
has matched last. -/
structure State where
  /-- The offset reached. -/
  pos : Nat
  /-- Start and end of each group's last match. -/
  groups : List (Option (Nat × Nat))
deriving DecidableEq, Repr

/-- One step of a match: from a state, by way of what follows, to the state at the end. -/
abbrev Step := State → (State → Option State) → Option State

/-- The character at an offset. -/
def charAt (src : Text) (pos : Nat) : Option CodePoint := src[pos]?

/-- The character before an offset. -/
def charBefore (src : Text) (pos : Nat) : Option CodePoint :=
  if pos = 0 then none else src[pos - 1]?

/-- Whether there is a character and it is a word character. -/
def isWordAt (ascii : Bool) : Option CodePoint → Bool
  | some c => Category.word.holds ascii c
  | none => false

/-- Whether the condition of an anchor holds at an offset. -/
def Anchor.holds (src : Text) (pos : Nat) : Anchor → Bool
  | textStart => pos == 0
  | lineStart => pos == 0 || charBefore src pos == some Text.lineFeed
  | textEnd => pos == src.length
  | lastLineEnd =>
    pos == src.length || (pos + 1 == src.length && charAt src pos == some Text.lineFeed)
  | lineEnd => pos == src.length || charAt src pos == some Text.lineFeed
  | wordBoundary negated ascii =>
    !src.isEmpty
      && (isWordAt ascii (charBefore src pos) != isWordAt ascii (charAt src pos)) != negated

/-- The text that a group has matched last. -/
def State.groupText? (src : Text) (st : State) (index : Nat) : Option Text :=
  match st.groups[index]? with
  | some (some (start, stop)) => some ((src.drop start).take (stop - start))
  | _ => none

/-- Whether a text stands at an offset, when case may be ignored. -/
def standsIgnoring (ignoreCase ascii : Bool) (src part : Text) (pos : Nat) : Bool :=
  let norm : CodePoint → CodePoint :=
    if !ignoreCase then id else if ascii then CodePoint.asciiLower else CodePoint.lower
  (part.map norm).isPrefixOf ((src.drop pos).map norm)

/-- A body matched a given number of times. -/
def required (body : Step) : Nat → Step
  | 0 => fun st k => k st
  | n + 1 => fun st k => body st fun st' => required body n st' k

/-- Further rounds of a body, as many as possible first. `extra` is the number of rounds
that are still allowed, `last` the offset at which the last round started, and `fuel` bounds
the rounds: all but one of them match at least one character. -/
def greedily (body : Step) : (fuel : Nat) → (extra last : Option Nat) → Step
  | 0, _, _ => fun st k => k st
  | fuel + 1, extra, last => fun st k =>
    if extra = some 0 ∨ last = some st.pos then k st
    else
      match body st fun st' => greedily body fuel (extra.map (· - 1)) (some st.pos) st' k with
      | some r => some r
      | none => k st

/-- Further rounds of a body, as few as possible first. -/
def reluctantly (body : Step) : (fuel : Nat) → (extra last : Option Nat) → Step
  | 0, _, _ => fun st k => k st
  | fuel + 1, extra, last => fun st k =>
    match k st with
    | some r => some r
    | none =>
      if extra = some 0 ∨ last = some st.pos then none
      else body st fun st' => reluctantly body fuel (extra.map (· - 1)) (some st.pos) st' k

/-- A body in the way it prefers, and in no other. -/
def committed (body : Step) : Step := fun st k => (body st some).bind k

/-- A repetition, where `fuel` bounds the rounds after the required ones. -/
def rounds (body : Step) (style : Style) (fuel least : Nat) (extra : Option Nat) : Step :=
  match style with
  | .greedy => fun st k =>
    required body least st fun st' => greedily body fuel extra none st' k
  | .reluctant => fun st k =>
    required body least st fun st' => reluctantly body fuel extra none st' k
  | .possessive =>
    committed fun st k =>
      required (committed body) least st fun st' =>
        greedily (committed body) fuel extra none st' k

/-- Matching a node, followed by a continuation. -/
def Node.step (src : Text) : Node → Step
  | empty => fun st k => k st
  | chars set => fun st k =>
    match charAt src st.pos with
    | some c => if set.holds c then k { st with pos := st.pos + 1 } else none
    | none => none
  | anchor a => fun st k => if a.holds src st.pos then k st else none
  | group index body => fun st k =>
    body.step src st fun st' =>
      k { st' with groups := st'.groups.set index (some (st.pos, st'.pos)) }
  | backref index ignoreCase ascii => fun st k =>
    match st.groupText? src index with
    | some part =>
      if standsIgnoring ignoreCase ascii src part st.pos then
        k { st with pos := st.pos + part.length }
      else none
    | none => none
  | seq first second => fun st k => first.step src st fun st' => second.step src st' k
  | alt first second => fun st k =>
    match first.step src st k with
    | some r => some r
    | none => second.step src st k
  | conditional index present absent => fun st k =>
    if (st.groupText? src index).isSome then present.step src st k else absent.step src st k
  | repeated style least extra body =>
    rounds (body.step src) style (src.length + 2) least extra
  | atomic body => committed (body.step src)
  | look behind negated body => fun st k =>
    let found :=
      if behind ≤ st.pos then body.step src { st with pos := st.pos - behind } some else none
    match found, negated with
    | some st', false => k { st' with pos := st.pos }
    | none, true => k st
    | _, _ => none

/-- Matching a node at an offset, where `count` is the number of groups. -/
def Node.match? (node : Node) (src : Text) (count pos : Nat) : Option State :=
  node.step src { pos := pos, groups := List.replicate (count + 1) none } some

end Furthest.Regex
