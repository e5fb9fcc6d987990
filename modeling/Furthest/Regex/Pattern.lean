import Furthest.Fault
import Furthest.Regex.Reader
import Furthest.Regex.Trail

/-!
# Compiled patterns

A compiled pattern is the tree of a regular expression together with its source, its flags
and the names of its groups, and with the edition of the matcher that it is meant for.

## Main definitions

* `Regex.Edition`: what editions of the matcher do not agree on.
* `Regex.Pattern.compile`: compiles a pattern.
* `Regex.Pattern.matchAt?`: matches a pattern at an offset.
* `Regex.Pattern.label`: how a parser names a pattern.
* `Regex.Pattern.render`: the printed form.
-/

namespace Furthest.Regex

/-- The editions of the matcher. They differ in how a possessive repetition of a group goes
on after a round that has failed. -/
inductive Edition where
  /-- It goes on from the end of the last round that has matched, so that `x*+` is
  `(?>x*)`. -/
  | settled
  /-- It goes on from the trail of the failed round, as the first edition with such
  repetitions did. -/
  | trailing
deriving DecidableEq, Repr

/-- A compiled pattern. -/
structure Pattern where
  /-- The pattern as it was written. -/
  source : Text
  /-- The flags that were asked for, those inside the pattern included. -/
  flags : Flags
  /-- The number of groups. -/
  groups : Nat
  /-- The names of groups. -/
  names : List (Text × Nat)
  /-- The tree. -/
  node : Node
  /-- The edition of the matcher. -/
  edition : Edition := .settled

namespace Pattern

/-- Compiles a pattern. Texts of all scripts are meant unless ASCII alone is asked for. -/
def compile (source : Text) (flags : Flags) : Except Fault Pattern :=
  match read source flags with
  | .error (.boundTooLong digits) => .error (.numeralTooLong digits)
  | .error .boundTooLarge => .error .tooManyRepetitions
  | .error _ => .error .malformedPattern
  | .ok (node, s) =>
    if s.flags.has Flags.locale then .error .localeFlag
    else if s.flags.has Flags.ascii && s.flags.has Flags.unicode then .error .incompatibleFlags
    else if (s.malformed? node).isSome then .error .malformedPattern
    else
      let flags := if s.flags.has Flags.ascii then s.flags else s.flags ||| Flags.unicode
      .ok
        { source := source, flags := flags, groups := s.groups, names := s.names
          node := node }

/-- The same pattern for an edition of the matcher. -/
def inEdition (p : Pattern) (edition : Edition) : Pattern := { p with edition := edition }

/-- Whether matches of a pattern depend on the trail. -/
def showsTrail (p : Pattern) : Bool :=
  p.edition == .trailing && p.node.normal.hasPossessiveGroup

/-- The part of a text between two offsets, the first of which is not the greater one. -/
def span (src : Text) (start stop : Nat) : Text := (src.drop start).take (stop - start)

/-- The end of a match from an offset on and the text of a group, if the pattern matches
there and the group has a part in it. The group with number zero is the whole match. -/
def matchFrom? (p : Pattern) (src : Text) (start group : Nat) : Option (Nat × Text) :=
  match p.node.match? src p.groups start with
  | none => none
  | some st =>
    if group = 0 then some (st.pos, span src start st.pos)
    else (st.groupText? src group).map fun t => (st.pos, t)

/-- The same for a pattern that shows the trail. A group may have been left with an end
before its start, which is a fault. -/
def matchTrailFrom? (p : Pattern) (src : Text) (start group : Nat) :
    Except Fault (Option (Nat × Text)) :=
  match Trail.match? p.node src p.groups start with
  | none => .ok none
  | some (stop, marks) =>
    let isReversed (i : Nat) : Bool := (marks.group? (i + 1)).any fun (s, e) => decide (e < s)
    if (List.range p.groups).any isReversed then .error .groupReversed
    else if group = 0 then .ok (some (stop, span src start stop))
    else .ok ((marks.group? group).map fun (s, e) => (stop, span src s e))

/-- The end of a match at an offset and the text of a group. The offset is clamped into the
text. -/
def matchAt? (p : Pattern) (src : Text) (pos : Int) (group : Nat) :
    Except Fault (Option (Nat × Text)) :=
  if pos < -Text.offsetLimit ∨ Text.offsetLimit ≤ pos then .error .startTooLarge
  else
    let start := if pos < 0 then 0 else min pos.toNat src.length
    if p.showsTrail then p.matchTrailFrom? src start group
    else .ok (p.matchFrom? src start group)

/-- How a parser names a pattern: between slashes, followed by the letters of its flags. -/
def label (p : Pattern) : Text := "/" ++ p.source ++ "/" ++ p.flags.letters

/-- The longest part of a pattern's quoted source that its printed form shows. -/
def shownSourceLength : Nat := 200

/-- The printed form of a pattern. That texts of all scripts are meant is not worth
showing. -/
def render (p : Pattern) : Text :=
  let shown := p.flags.without Flags.unicode
  "re.compile(" ++ p.source.quoted.take shownSourceLength
    ++ (if shown = 0 then [] else (", " : Text) ++ shown.render) ++ ")"

end Pattern

/-- The printed form of a pattern for byte strings. -/
def renderBytesPattern (bs : List Nat) : Text :=
  "re.compile(" ++ (Text.quotedBytes bs).take Pattern.shownSourceLength ++ ")"

end Furthest.Regex
