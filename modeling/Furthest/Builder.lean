import Furthest.Operand

/-!
# Builders of lazy parsers

A lazy parser comes with a builder, which is called when the parser is run for the first
time, and again as long as its calls come to nothing. A builder may look up parsers by their
names, so that it can refer to parsers that were named after the lazy one, and it may make
further lazy parsers.

Lazy parsers are numbered in the order in which they are made. A computation that builds
parsers knows the next number that is free, and returns the builders of the lazy parsers it
has made, in the order of their numbers.

## Main definitions

* `Scope`: named operands.
* `Builder`: the builder of a lazy parser.
* `Build`: a computation that builds parsers.
* `Build.lazy`: makes a lazy parser.
-/

namespace Furthest

/-- Operands with names, the latest first. -/
abbrev Scope := List (Text × Operand)

/-- The builder of a lazy parser: its name, and what its calls come to. A call is given its
number, counted from one, the scope, and the next free number of a lazy parser. -/
inductive Builder where
  | mk (name : Text)
    (call : (attempt : Nat) → Scope → (next : Nat) → Except Fault (Operand × List Builder))

namespace Builder

instance : Inhabited Builder := ⟨mk [] fun _ _ _ => throw default⟩

/-- The name of a builder. -/
def name : Builder → Text
  | mk name _ => name

/-- What a call of a builder comes to. -/
def call : Builder → Nat → Scope → Nat → Except Fault (Operand × List Builder)
  | mk _ call => call

end Builder

/-- The lazy parsers that a computation has made: the first number it could give, and their
builders. -/
structure Made where
  /-- The number of the first lazy parser made. -/
  first : Nat
  /-- The builders, in the order of their numbers. -/
  builders : List Builder

/-- A computation that builds parsers: it may look up names, make lazy parsers, and raise a
fault. -/
abbrev Build := ReaderT Scope (StateT Made (Except Fault))

namespace Build

instance : Inhabited (Build α) := ⟨throw default⟩

/-- Runs a computation with the lazy parsers numbered from `first` on. -/
def runFrom (b : Build α) (scope : Scope) (first : Nat) : Except Fault (α × List Builder) :=
  match (b.run scope).run ⟨first, []⟩ with
  | .ok (a, made) => .ok (a, made.builders)
  | .error fault => .error fault

/-- The operand of a name. -/
def lookup (name : Text) : Build Operand := do
  match (← read).lookup name with
  | some o => return o
  | none => throw (.unknownName name)

/-- Makes a lazy parser. -/
def lazy (builder : Builder) : Build Parser := do
  let made ← get
  set { made with builders := made.builders ++ [builder] }
  return .lazy (made.first + made.builders.length)

end Build

/-- The builder that runs a computation, which is given the number of the call. -/
def Builder.ofBuild (name : Text) (b : Nat → Build Operand) : Builder :=
  .mk name fun attempt scope next => (b attempt).runFrom scope next

end Furthest
