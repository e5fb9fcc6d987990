import Furthest.Store

/-!
# Running parsers

What the nodes of a parser do. Every node is an action: given a text and an offset, it
computes a reply on the store. Records of failures are merged after every step, those of
successful steps included, so that the reply of a parser carries the furthest failure of all
its attempts.

Two things bound a run. A lazy parser may be run inside itself, to a depth that is limited.
And a repetition without an upper limit may go on, for a number of rounds that is limited. A
run that does not fit within the limits is broken off as exhausted, which is neither a reply
nor a fault.

## Main definitions

* `Action`: what a parser does.
* `Action.seq`, `Action.alt`, `Action.repeated`, …: the actions of the nodes.
* `Parser.eval`: the action of a parser, given the actions of the lazy parsers.
* `Parser.run`: the action of a parser within limits.

## Main results

* `Parser.eval_seq`, `Parser.eval_alt`: the nodes for several parsers act by the actions of
  their parts.
-/

namespace Furthest

/-- What a parser does with a text at an offset. -/
abbrev Action := Text → Int → Run Reply

/-- A reply that takes the record of an earlier one into account, if there is an earlier
one. -/
def Run.merge (reply : Reply) (last : Option Reply) : Run Reply :=
  Run.ofExcept (reply.merge last)

/-- A reply whose record can be joined to that of the reply before it. -/
theorem Run.merge_of_join {reply last : Reply} {j : Record}
    (h : reply.record.join last.record = .ok j) :
    Run.merge reply (some last) = pure (reply.withRecord j) := by
  rw [Run.merge, Reply.merge_of_join h]
  rfl

namespace Action

/-! ### Leaves -/

/-- Replies without changing the store. -/
def ofReply (f : Text → Int → Reply) : Action := fun src pos => pure (f src pos)

/-- Matches a text. -/
def literal (text : Text) : Action := ofReply fun src pos =>
  if src.standsAt text pos then .matched (pos + text.length) (.text text)
  else .mismatch pos (.text ("'" ++ text ++ "'"))

/-- Matches a pattern. -/
def regex (p : Regex.Pattern) (group : Nat) : Action := fun src pos => do
  match ← Run.ofExcept (p.matchAt? src pos group) with
  | some (stop, text) => return .matched stop (.text text)
  | none => return .mismatch pos (.text p.label)

/-- The character at an offset that is not behind the end. Far before the start there is
none. -/
def charAt (src : Text) (pos : Int) : Run CodePoint := Run.ofExcept (Text.lookUp src pos)

/-- Matches a character that passes a test. -/
def charTest (label : Text) (test : CodePoint → Effect Bool) : Action := fun src pos => do
  if pos < src.length then
    let c ← charAt src pos
    if ← Run.perform (test c) then return .matched (pos + 1) (.char c)
    else return .mismatch pos (.text label)
  else return .mismatch pos (.text label)

/-- The offset of the first character from an offset on that does not pass a test, where
`left` is the distance to the end of the text. -/
def scan (test : CodePoint → Effect Bool) (src : Text) : (left : Nat) → Int → Run Int
  | 0, pos => pure pos
  | left + 1, pos => do
    let c ← charAt src pos
    if ← Run.perform (test c) then scan test src left (pos + 1) else return pos

/-- Matches as many characters as pass a test. -/
def takeWhile (test : CodePoint → Effect Bool) : Action := fun src pos => do
  let stop ← scan test src (src.length - pos).toNat pos
  return .matched stop (.text (src.slice pos stop))

/-- Matches the empty text, with a value. -/
def succeed (value : Value) : Action := ofReply fun _ pos => .matched pos value

/-- Matches nothing. -/
def fail (label : Text) : Action := ofReply fun _ pos => .mismatch pos (.text label)

/-- Matches at the end of the text. -/
def eof : Action := ofReply fun src pos =>
  if pos < src.length then .mismatch pos (.text "EOF") else .matched pos .none

/-- Matches the empty text; the value is the position. -/
def index : Action :=
  ofReply fun src pos => .matched pos (.position (Position.ofOffset src pos))

/-- Matches any character. -/
def anyChar : Action := fun src pos => do
  if pos < src.length then
    let c ← charAt src pos
    return .matched (pos + 1) (.char c)
  else return .mismatch pos (.text "any character")

/-- Matches the rest of the text. -/
def rest : Action := ofReply fun src pos => .matched src.length (.text (src.sliceFrom pos))

/-! ### One parser -/

/-- Applies a function to the value. -/
def map (a : Action) (f : Value → Effect Value) : Action := fun src pos => do
  match ← a src pos with
  | .success index value record =>
    let value ← Run.perform (f value)
    return .success index value record.carried
  | .failure record => return .failure record

/-- Goes on with the action that a function makes of the value. -/
def chain (a : Action) (next : Value → Action) : Action := fun src pos => do
  match ← a src pos with
  | .success index value record =>
    let reply ← next value src index
    Run.merge reply (some (.success index value record))
  | .failure record => return .failure record

/-- Labels a failure at the start. Failures further on keep their labels. -/
def desc (a : Action) (label : Text) : Action := fun src pos => do
  match ← a src pos with
  | .success index value record => return .success index value record
  | .failure record =>
    if record.furthest = pos then return .mismatch pos (.text label)
    else return .failure record

/-- Matches the empty text where the action matches, and keeps its value and its record. -/
def lookahead (a : Action) : Action := fun src pos => do
  match ← a src pos with
  | .success _ value record => return .success pos value record.carried
  | .failure record => return .failure record

/-- Matches the empty text where the action does not match. Its record is dropped. -/
def notFollowedBy (a : Action) (label : Label) : Action := fun src pos => do
  match ← a src pos with
  | .success .. => return .mismatch pos label
  | .failure _ => return .matched pos .none

/-! ### Several parsers -/

/-- The actions of a sequence that are still to come, where `values` holds the values of
those before them, the last one first, and `last` the reply of the last one. -/
def seqFrom (values : List Value) (last : Option Reply) : List Action → Action
  | [], _, pos => return .after last pos (.list values.reverse)
  | a :: as, src, pos => do
    match ← Run.merge (← a src pos) last with
    | .success index value record =>
      seqFrom (value :: values) (some (.success index value record)) as src index
    | .failure record => return .failure record

/-- Matches all, one after the other. -/
def seq (as : List Action) : Action := seqFrom [] none as

/-- Matches the first that matches, where `last` is the reply of the attempt before them. -/
def altFrom (last : Reply) : List Action → Action
  | [], _, _ => return last
  | a :: as, src, pos => do
    match ← Run.merge (← a src pos) (some last) with
    | .success index value record => return .success index value record
    | .failure record => altFrom (.failure record) as src pos

/-- Matches the first that matches. -/
def alt (a : Action) (as : List Action) : Action := fun src pos => do
  match ← a src pos with
  | .success index value record => return .success index value record
  | .failure record => altFrom (.failure record) as src pos

/-! ### Repetitions -/

/-- How far a repetition has come: the values so far, the last one first, the reply of the
last attempt, and the offset of the next one. -/
structure Progress where
  /-- The values so far, the last one first. -/
  values : List Value
  /-- The reply of the last attempt, with the records of all attempts. -/
  last : Option Reply
  /-- The offset of the next attempt. -/
  pos : Int

/-- The reply of a repetition that ends here. -/
def Progress.close (s : Progress) : Reply := .after s.last s.pos (.list s.values.reverse)

/-- A number of rounds that all have to match, and what comes after them. -/
def required (a : Action) (src : Text) (finish : Progress → Run Reply) :
    Nat → Progress → Run Reply
  | 0, s => finish s
  | n + 1, s => do
    match ← Run.merge (← a src s.pos) s.last with
    | .success index value record =>
      required a src finish n ⟨value :: s.values, some (.success index value record), index⟩
    | .failure record => return .failure record

/-- Up to a number of rounds, until one does not match. -/
def upTo (a : Action) (src : Text) : Nat → Progress → Run Reply
  | 0, s => return s.close
  | n + 1, s => do
    match ← Run.merge (← a src s.pos) s.last with
    | .success index value record =>
      upTo a src n ⟨value :: s.values, some (.success index value record), index⟩
    | .failure record => return { s with last := some (.failure record) }.close

/-- Rounds without an upper limit, until one does not match. A round that matches the empty
text keeps its value and ends the repetition, because all further rounds would do the
same. -/
def unbounded (a : Action) (src : Text) : (rounds : Nat) → Progress → Run Reply
  | 0, _ => throw .exhausted
  | n + 1, s => do
    match ← Run.merge (← a src s.pos) s.last with
    | .success index value record =>
      let s' : Progress := ⟨value :: s.values, some (.success index value record), index⟩
      if index = s.pos then return s'.close else unbounded a src n s'
    | .failure record => return { s with last := some (.failure record) }.close

/-- The rounds after the required ones. -/
def further (a : Action) (rounds : Nat) (extra : Option Nat) (src : Text) :
    Progress → Run Reply :=
  match extra with
  | some n => upTo a src n
  | none => unbounded a src rounds

/-- Matches `least` times, and then up to `extra` times more. -/
def repeated (a : Action) (rounds least : Nat) (extra : Option Nat) : Action := fun src pos =>
  required a src (further a rounds extra src) least ⟨[], none, pos⟩

end Action

mutual

/-- The action of a parser, where `rounds` limits the repetitions without an upper limit and
`lazies` holds the actions of the lazy parsers. -/
def Parser.eval (rounds : Nat) (lazies : Nat → Action) : Parser → Action
  | .literal text => Action.literal text
  | .regex p group => Action.regex p group
  | .charTest label test => Action.charTest label test
  | .takeWhile test => Action.takeWhile test
  | .succeed value => Action.succeed value
  | .fail label => Action.fail label
  | .eof => Action.eof
  | .index => Action.index
  | .anyChar => Action.anyChar
  | .rest => Action.rest
  | .map p f => Action.map (p.eval rounds lazies) f
  | .chain p next => Action.chain (p.eval rounds lazies) fun v => (next v).eval rounds lazies
  | .desc p label => Action.desc (p.eval rounds lazies) label
  | .repeated p least extra => Action.repeated (p.eval rounds lazies) rounds least extra
  | .seq ps => Action.seq (Parser.evalAll rounds lazies ps)
  | .alt p ps => Action.alt (p.eval rounds lazies) (Parser.evalAll rounds lazies ps)
  | .lookahead p => Action.lookahead (p.eval rounds lazies)
  | .notFollowedBy p label => Action.notFollowedBy (p.eval rounds lazies) label
  | .lazy id => lazies id
  | .custom act => fun src pos => (act src pos).eval rounds lazies src pos
  | .answer reply => fun _ _ => pure reply
  | .inspect p next => fun src pos => do
    let reply ← p.eval rounds lazies src pos
    (next reply).eval rounds lazies src pos
  | .raise fault => fun _ _ => Run.raise fault
  | .note n p => fun src pos => do
    Run.note n
    p.eval rounds lazies src pos

/-- The actions of the parsers of a list. -/
def Parser.evalAll (rounds : Nat) (lazies : Nat → Action) : List Parser → List Action
  | [] => []
  | p :: ps => p.eval rounds lazies :: Parser.evalAll rounds lazies ps

end

namespace Parser

/-- The actions of the parsers of a list are those of its elements. -/
theorem evalAll_eq_map (rounds : Nat) (lazies : Nat → Action) (ps : List Parser) :
    evalAll rounds lazies ps = ps.map fun p => p.eval rounds lazies := by
  induction ps with
  | nil => rfl
  | cons p ps ih => simp only [evalAll, List.map_cons, ih]

/-- A sequence does what the actions of its parts do in sequence. -/
theorem eval_seq (rounds : Nat) (lazies : Nat → Action) (ps : List Parser) :
    (seq ps).eval rounds lazies = Action.seq (ps.map fun p => p.eval rounds lazies) := by
  simp only [eval, evalAll_eq_map]

/-- A choice does what the actions of its parts do in the order of preference. -/
theorem eval_alt (rounds : Nat) (lazies : Nat → Action) (p : Parser) (ps : List Parser) :
    (alt p ps).eval rounds lazies =
      Action.alt (p.eval rounds lazies) (ps.map fun p => p.eval rounds lazies) := by
  simp only [eval, evalAll_eq_map]

end Parser

/-- The limits of a run. -/
structure Limits where
  /-- How deeply lazy parsers may be run inside each other. -/
  depth : Nat
  /-- How many rounds a repetition without an upper limit may have. -/
  rounds : Nat

/-- The action of a lazy parser: it is resolved, and the parser it is resolved to is run. -/
def runLazy (rounds : Nat) : (depth : Nat) → (id : Nat) → Action
  | 0, _ => fun _ _ => throw .exhausted
  | depth + 1, id => fun src pos => do
    let p ← Store.force id
    p.eval rounds (runLazy rounds depth) src pos

/-- The action of a parser within limits. -/
def Parser.run (p : Parser) (limits : Limits) : Action :=
  p.eval limits.rounds (runLazy limits.rounds limits.depth)

end Furthest
