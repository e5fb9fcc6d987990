import Furthest.Builder

/-!
# The store of lazy parsers

A run may change three things: it resolves lazy parsers, it leaves notes in the journal, and
it writes to the log. The store holds all of them, together with the named operands that
builders can look up.

A lazy parser is unresolved until a call of its builder returns another parser, and resolved
to that parser ever after. A call that raises a fault, returns something other than a
parser, or returns the lazy parser itself leaves it unresolved.

## Main definitions

* `Store`: the store.
* `Run`: a computation on the store that may be broken off.
* `Store.force`: resolves a lazy parser.
-/

namespace Furthest

/-- An entry of the log. -/
inductive LogRecord where
  /-- A lazy parser was resolved; the name is that of its builder. -/
  | resolved (name : Text)
  /-- A parse failed at an offset where something else was expected. -/
  | parseFailed (offset : Int) (expected : List Value)

/-- The wording of an entry of the log. -/
def LogRecord.message : LogRecord → Text
  | resolved name => "Resolved lazy parser " ++ name
  | parseFailed offset expected =>
    "Parse failed at offset " ++ Text.ofInt offset ++ ", expected "
      ++ (Value.list expected).render

/-- A lazy parser: its builder, how often that has been called, and the parser it is
resolved to. -/
structure Slot where
  /-- The builder. -/
  builder : Builder
  /-- The number of calls so far. -/
  calls : Nat
  /-- The parser that the lazy parser is resolved to. -/
  resolved : Option Parser

/-- What a run may change. -/
structure Store where
  /-- The lazy parsers, by their numbers. -/
  slots : Array Slot
  /-- The named operands. -/
  scope : Scope
  /-- The notes. -/
  journal : Journal
  /-- The log. -/
  log : Array LogRecord

/-- The store in which nothing has happened. -/
def Store.empty : Store := { slots := #[], scope := [], journal := #[], log := #[] }

instance : Inhabited Store := ⟨Store.empty⟩

/-- Why a run is broken off. -/
inductive Stop where
  /-- A fault was raised. -/
  | fault (fault : Fault)
  /-- The limits of the run do not suffice. -/
  | exhausted

/-- A computation on the store. What it has changed before it is broken off stays
changed. -/
abbrev Run := ExceptT Stop (StateM Store)

namespace Run

/-- Raises a fault. -/
def raise (fault : Fault) : Run α := throw (.fault fault)

/-- Returns the result of a computation that may raise a fault. -/
def ofExcept : Except Fault α → Run α
  | .ok a => pure a
  | .error fault => raise fault

/-- Leaves a note in the journal. -/
def note (n : Note) : Run Unit := modify fun s => { s with journal := s.journal.push n }

/-- Writes to the log. -/
def log (r : LogRecord) : Run Unit := modify fun s => { s with log := s.log.push r }

/-- Performs the effects of a callback. -/
def perform (e : Effect α) : Run α := do
  modify fun s => { s with journal := s.journal ++ e.notes.toArray }
  ofExcept e.outcome

end Run

namespace Store

/-- Adds lazy parsers with these builders. -/
def allocate (s : Store) (builders : List Builder) : Store :=
  { s with slots := s.slots ++ (builders.map fun b => ⟨b, 0, none⟩).toArray }

/-- Resolves a lazy parser. -/
def resolve (s : Store) (id : Nat) (p : Parser) : Store :=
  { s with slots := s.slots.modify id fun slot => { slot with resolved := some p } }

/-- Counts a call of a lazy parser's builder. -/
def countCall (s : Store) (id : Nat) : Store :=
  { s with slots := s.slots.modify id fun slot => { slot with calls := slot.calls + 1 } }

/-- The tag of the notes about calls of builders. -/
def buildTag : Text := "build"

/-- Whether a parser is the lazy parser with this number. -/
def isLazy (id : Nat) : Parser → Bool
  | .lazy i => i == id
  | _ => false

/-- The parser that a builder's operand resolves a lazy parser to: any parser but the lazy
one itself. -/
def resolution (id : Nat) (o : Operand) : Except Fault Parser :=
  match o with
  | .parser p => if isLazy id p then .error .lazyIsItself else .ok p
  | o => .error o.notParser

/-- The parser that a lazy parser is resolved to. If it is not resolved yet, its builder is
called, which is noted in the journal; that it was resolved then is written to the log. -/
def force (id : Nat) : Run Parser := do
  match (← get).slots[id]? with
  | none => Run.raise .unknownLazy
  | some slot =>
    match slot.resolved with
    | some p => return p
    | none =>
      modify (·.countCall id)
      Run.note { tag := buildTag, items := [.text slot.builder.name] }
      let s ← get
      let (o, made) ← Run.ofExcept (slot.builder.call (slot.calls + 1) s.scope s.slots.size)
      let p ← Run.ofExcept (resolution id o)
      modify (·.allocate made)
      Run.log (.resolved slot.builder.name)
      modify (·.resolve id p)
      return p

/-- Runs a computation that builds parsers, and adds the lazy parsers it has made. -/
def build (b : Build α) : Run α := do
  let s ← get
  let (a, made) ← Run.ofExcept (b.runFrom s.scope s.slots.size)
  modify (·.allocate made)
  return a

/-- Gives an operand a name. -/
def define (name : Text) (o : Operand) : Run Unit :=
  modify fun s => { s with scope := (name, o) :: s.scope }

end Store

end Furthest
