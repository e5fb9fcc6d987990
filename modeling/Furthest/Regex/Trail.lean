import Furthest.Regex.Matcher
import Furthest.Regex.Normal

/-!
# Matching with a trail

A possessive repetition of a group is committed to every round that has matched. Once a
further round fails, it goes on from where that round started. The first matchers with such
repetitions went on from the offset at which the failed round had set out last instead: its
trail. The trail is moved when an alternative or a repetition is tried, to the offset at
which it is tried; a single character that does not match leaves it where it is. A round
that has looked behind its own start may leave a trail there, but no repetition goes on
before the start of its last round.

The marks of groups are restored with the same economy. Inside a greedy or a reluctant
repetition of a group they are restored completely when an attempt fails. Elsewhere it is
only restored which of them are in use.

All this can be seen only of possessive repetitions of groups. Patterns without one are
matched in the plain way, which needs no trail, and so are all patterns that do not ask for
one.

## Main definitions

* `Regex.Node.hasPossessiveGroup`: whether the trail of an expression can be seen.
* `Regex.Marks`: where groups start and end.
* `Regex.Trail.step`: matching a node in normal form, followed by a continuation.
* `Regex.Trail.match?`: matching a node at an offset.
-/

namespace Furthest.Regex

/-- The set of characters of which an expression matches one, if it matches nothing else. -/
def Node.single? (node : Node) : Option CharSet :=
  match node.parts with
  | [.chars s] => some s
  | _ => none

/-- Whether an expression holds a possessive repetition of more than a single character. -/
def Node.hasPossessiveGroup : Node → Bool
  | repeated style _ _ body =>
    (style == .possessive && body.single?.isNone) || body.hasPossessiveGroup
  | group _ body | atomic body | look _ _ body => body.hasPossessiveGroup
  | seq first second | alt first second | conditional _ first second =>
    first.hasPossessiveGroup || second.hasPossessiveGroup
  | empty | chars _ | anchor _ | backref .. => false

/-! ### First characters -/

namespace CharSet

/-- Whether a character of the set matches characters besides itself. -/
def isCased (s : CharSet) : Bool :=
  s.ignoreCase && s.items.any fun
    | .range low high => (List.range (high + 1 - low)).any fun i =>
        (s.variants (low + i)).length != 1
    | .category .. => false

/-- The only character that the set matches, if it is given by this character. -/
def literal? (s : CharSet) : Option CodePoint :=
  match s.items with
  | [.range low high] => if low == high && !s.negated && !s.isCased then some low else none
  | _ => none

/-- Whether it is looked up in the set if an alternative is worth trying. -/
def isLookedUp (s : CharSet) : Bool :=
  let isPlain := match s.items with
    | [] => true
    | [.range low high] => low == high
    | _ => false
  !s.isCased && !(s.negated && isPlain)

end CharSet

/-- The character that an expression starts with if it starts with a single one, where
`next` is that of what follows the expression. -/
def Node.firstLiteral? (next : Option CodePoint) : Node → Option CodePoint
  | empty => next
  | chars s => s.literal?
  | seq first second => first.firstLiteral? (second.firstLiteral? next)
  | _ => none

/-- The set of which the first character of an alternative has to be, if it is looked up. -/
def Node.firstSet? (node : Node) : Option CharSet :=
  match node.parts with
  | .chars s :: _ => if s.isLookedUp then some s else none
  | _ => none

/-! ### Marks -/

/-- Where groups start and end. Group `i` starts at mark `2 * i - 2` and ends at mark
`2 * i - 1`. -/
structure Marks where
  /-- The marks. -/
  offsets : List (Option Nat)
  /-- The number of the marks in use. -/
  used : Nat

namespace Marks

/-- Sets a mark. Marks before it that were not in use so far are cleared. -/
def set (m : Marks) (i pos : Nat) : Marks :=
  let cleared := m.offsets.take m.used ++ List.replicate (m.offsets.length - m.used) none
  if i < m.used then { m with offsets := m.offsets.set i (some pos) }
  else { offsets := cleared.set i (some pos), used := i + 1 }

/-- A mark, if it is in use. -/
def at? (m : Marks) (i : Nat) : Option Nat :=
  if i < m.used then (m.offsets[i]?).join else none

/-- The start and the end of a group that has a part in the match. -/
def group? (m : Marks) (index : Nat) : Option (Nat × Nat) :=
  match m.at? (2 * index - 2), m.at? (2 * index - 1) with
  | some start, some stop => some (start, stop)
  | _, _ => none

/-- The marks after an attempt that has failed, given those before it: all of them are
restored, or only which ones are in use. -/
def restored (m : Marks) (completely : Bool) (before : Marks) : Marks :=
  if completely then before else { m with used := before.used }

end Marks

namespace Trail

/-- Where a match stands: the offset reached, the trail and the marks. -/
structure State where
  /-- The offset reached. -/
  pos : Nat
  /-- The offset at which something was tried last. -/
  trail : Nat
  /-- The marks of the groups. -/
  marks : Marks

/-- What comes of an attempt. -/
inductive Outcome where
  /-- It has succeeded in this state. -/
  | matched (st : State)
  /-- It has failed, and leaves a trail and marks. -/
  | failed (trail : Nat) (marks : Marks)

/-- One step of a match, followed by a continuation. -/
abbrev Step := State → (State → Outcome) → Outcome

namespace State

/-- The failure that leaves trail and marks as they are. -/
def fail (st : State) : Outcome := .failed st.trail st.marks

/-- The state in which something is tried here. -/
def trying (st : State) : State := { st with trail := st.pos }

/-- The end of an expression that is matched by itself. -/
def done (st : State) : Outcome := .matched st.trying

/-- The text that a group has matched last. -/
def groupText? (src : Text) (st : State) (index : Nat) : Option Text :=
  match st.marks.group? index with
  | some (start, stop) =>
    if stop < start then none else some ((src.drop start).take (stop - start))
  | none => none

end State

/-- What an attempt comes to if its failure is handled. -/
def Outcome.orElse (o : Outcome) (handler : Nat → Marks → Outcome) : Outcome :=
  match o with
  | matched st => matched st
  | failed trail marks => handler trail marks

/-! ### Choices -/

/-- One of several alternatives. It is not tried if its first character is looked up and
does not fit. -/
def alternative (src : Text) (guarded : Bool) (first : Option CharSet) (body : Step) : Step :=
  fun st k =>
    let isPossible := match first, charAt src st.pos with
      | none, _ => true
      | some _, none => false
      | some s, some c => s.holds c
    if isPossible then
      (body st.trying k).orElse fun trail marks =>
        .failed trail (marks.restored guarded st.marks)
    else st.fail

/-! ### Repetitions of a single character -/

/-- The number of characters of a set that stand at an offset, up to a limit. -/
def run (src : Text) (set : CharSet) (pos : Nat) (limit : Option Nat) : Nat :=
  let stand := ((src.drop pos).takeWhile set.holds).length
  match limit with
  | some n => min n stand
  | none => stand

/-- Goes on behind `extra` more characters than are required, or behind fewer; offsets at
which the next character cannot stand are passed over. -/
def fromLongest (src : Text) (guarded : Bool) (next : Option CodePoint) (shortest : Nat)
    (before : Marks) : (extra : Nat) → Step
  | extra, st, k =>
    let here := shortest + extra
    let isPossible := next.isNone || charAt src here == next
    let attempt := if isPossible then k { st with pos := here, trail := here } else st.fail
    attempt.orElse fun trail marks =>
      let st := { st with trail := trail, marks := marks.restored guarded before }
      match extra with
      | 0 => st.fail
      | extra + 1 => fromLongest src guarded next shortest before extra st k

/-- Goes on here, or behind up to `extra` more characters. -/
def fromShortest (guarded : Bool) (before : Marks) : (extra : Nat) → Step
  | extra, st, k =>
    (k st.trying).orElse fun _ marks =>
      let st := { st.trying with marks := marks.restored guarded before }
      match extra with
      | 0 => st.fail
      | extra + 1 => fromShortest guarded before extra { st with pos := st.pos + 1 } k

/-- A repetition of a single character. -/
def repeatedSingle (src : Text) (guarded : Bool) (next : Option CodePoint) (style : Style)
    (least : Nat) (extra : Option Nat) (set : CharSet) : Step := fun st k =>
  if src.length < st.pos + least then st.fail
  else
    let count := run src set st.pos (extra.map (least + ·))
    let start := st.pos + least
    let st := st.trying
    if count < least then st.fail
    else
      match style with
      | .greedy => fromLongest src guarded next start st.marks (count - least) st k
      | .reluctant => fromShortest guarded st.marks (count - least) { st with pos := start } k
      | .possessive => k { st with pos := st.pos + count }

/-! ### Repetitions of groups -/

/-- A body matched a given number of times, and then what comes after. A failed round moves
the trail back to its start. -/
def required (body rest : Step) : Nat → Step
  | 0 => rest
  | n + 1 => fun st k =>
    (body st.trying fun st' => required body rest n st' k).orElse fun _ marks =>
      .failed st.pos marks

/-- Further rounds of a body, as many as possible first. -/
def greedily (body : Step) : (fuel : Nat) → (extra last : Option Nat) → Step
  | 0, _, _ => fun st k => k st
  | fuel + 1, extra, last => fun st k =>
    let goOn : Outcome := (k st.trying).orElse fun _ marks => .failed st.pos marks
    if extra = some 0 ∨ last = some st.pos then goOn
    else
      (body st.trying fun st' =>
        greedily body fuel (extra.map (· - 1)) (some st.pos) st' k).orElse
        fun _ _ => goOn

/-- Further rounds of a body, as few as possible first. -/
def reluctantly (guarded : Bool) (body : Step) :
    (fuel : Nat) → (extra last : Option Nat) → Step
  | 0, _, _ => fun st k => k st
  | fuel + 1, extra, last => fun st k =>
    (k st.trying).orElse fun _ marks =>
      let marks := marks.restored guarded st.marks
      if extra = some 0 ∨ last = some st.pos then .failed st.pos marks
      else
        (body { st.trying with marks := marks } fun st' =>
          reluctantly guarded body fuel (extra.map (· - 1)) (some st.pos) st' k).orElse
          fun _ marks => .failed st.pos marks

/-- Further rounds of a body, to each of which the match is committed. After a round that
fails it goes on from the trail of that round, or from its start if the trail lies before
it, with the marks from before the round. -/
def possessively (body : Step) : (fuel : Nat) → (extra last : Option Nat) → Step
  | 0, _, _ => fun st k => k st
  | fuel + 1, extra, last => fun st k =>
    if extra = some 0 ∨ last = some st.pos then k st
    else
      match body st.trying State.done with
      | .matched st' => possessively body fuel (extra.map (· - 1)) (some st.pos) st' k
      | .failed trail _ =>
        let stop := max st.pos trail
        k { st with pos := stop, trail := stop }

/-- A body matched a given number of times, to each of which the match is committed, and
then what comes after. If a round fails, the trail is moved back to the offset `start`. -/
def committed (body rest : Step) (start : Nat) : Nat → Step
  | 0 => rest
  | n + 1 => fun st k =>
    match body st.trying State.done with
    | .matched st' => committed body rest start n st' k
    | .failed _ marks => .failed start marks

/-- A repetition of a group, where `fuel` bounds the rounds after the required ones. -/
def repeatedGroup (guarded : Bool) (style : Style) (fuel least : Nat) (extra : Option Nat)
    (body : Step) : Step :=
  match style with
  | .greedy => required body (greedily body fuel extra none) least
  | .reluctant => required body (reluctantly guarded body fuel extra none) least
  | .possessive => fun st k =>
    committed body (possessively body fuel extra none) st.pos least st.trying k

/-! ### Matching -/

/-- Matching a node in normal form, followed by a continuation, where `guarded` says whether
the node stands in a greedy or reluctant repetition of a group, and `next` is the character
that what follows starts with. -/
def step (src : Text) (guarded : Bool) (next : Option CodePoint) : Node → Step
  | .empty => fun st k => k st
  | .chars set => fun st k =>
    match charAt src st.pos with
    | some c => if set.holds c then k { st with pos := st.pos + 1 } else st.fail
    | none => st.fail
  | .anchor a => fun st k => if a.holds src st.pos then k st else st.fail
  | .group index body => fun st k =>
    step src guarded none body { st with marks := st.marks.set (2 * index - 2) st.pos }
      fun st' => k { st' with marks := st'.marks.set (2 * index - 1) st'.pos }
  | .backref index ignoreCase ascii => fun st k =>
    match st.groupText? src index with
    | some part =>
      if standsIgnoring ignoreCase ascii src part st.pos then
        k { st with pos := st.pos + part.length }
      else st.fail
    | none => st.fail
  | .seq first second => fun st k =>
    step src guarded (second.firstLiteral? next) first st fun st' =>
      step src guarded next second st' k
  | .alt first second => fun st k =>
    (alternative src guarded first.firstSet? (step src guarded none first) st k).orElse
      fun trail marks =>
        let others := step src guarded none second
        let st := { st with trail := trail, marks := marks }
        match second with
        | .alt .. => others st k
        | _ => alternative src guarded second.firstSet? others st k
  | .conditional index present absent => fun st k =>
    -- The first branch is followed by a jump over the second one, if there is anything to
    -- jump over.
    let behind := match absent with
      | .empty => next
      | _ => none
    if (st.groupText? src index).isSome then step src guarded behind present st k
    else step src guarded next absent st k
  | .repeated style least extra body =>
    match body.single? with
    | some set => repeatedSingle src guarded next style least extra set
    | none =>
      repeatedGroup guarded style (src.length + 2) least extra
        (step src (guarded || style != .possessive) none body)
  | .atomic body => fun st k =>
    match step src guarded none body st.trying State.done with
    | .matched st' => k st'
    | .failed _ marks => .failed st.pos marks
  | .look behind negated body => fun st k =>
    if st.pos < behind then if negated then k st else st.fail
    else
      let start := st.pos - behind
      match
        step src guarded none body { st with pos := start, trail := start } State.done,
        negated
      with
      | .matched st', false => k { st' with pos := st.pos }
      | .matched st', true => st'.fail
      | .failed trail marks, false => .failed trail marks
      | .failed trail marks, true =>
        k { st with trail := trail, marks := marks.restored guarded st.marks }

/-- Matching a node at an offset, where `count` is the number of groups. The result is the
end of the match and the marks of the groups. -/
def match? (node : Node) (src : Text) (count pos : Nat) : Option (Nat × Marks) :=
  let marks : Marks := { offsets := List.replicate (2 * count) none, used := 0 }
  match
    step src false none node.normal { pos := pos, trail := pos, marks := marks } State.done
  with
  | .matched st => some (st.pos, st.marks)
  | .failed .. => none

end Trail

end Furthest.Regex
