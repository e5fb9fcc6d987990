import Furthest.Operand
import Furthest.Predicate

/-!
# Checked arguments

Parsers can be built from dynamic arguments, which are checked when the parser is built and
not when it is run. This module holds the checks, each of which returns the argument in the
form in which it can be used, or raises the fault that says what is wrong with it.

## Main definitions

* `Supplied`: what a caller has put where a function is expected.
* `Checked.text`, `Checked.count`, `Checked.characters`: checks of values.
* `Checked.pattern`, `Checked.group`: checks of patterns and groups.
-/

namespace Furthest

/-- What a caller has put where a function is expected. -/
inductive Supplied (α : Type) where
  /-- A function. -/
  | function (f : α)
  /-- A parser. -/
  | parser
  /-- Something else, with its printed form. -/
  | other (shown : Text)

namespace Supplied

instance : Inhabited (Supplied α) := ⟨parser⟩

/-- The function that was supplied. -/
def require : Supplied α → Except Fault α
  | function f => .ok f
  | parser => .error (.notFunction none)
  | other shown => .error (.notFunction (some shown))

/-- An operand where a function is expected, where `use` says what a function value is used
for. -/
def ofOperand (use : Callback → α) : Operand → Supplied α
  | .value (.function f) => function (use f)
  | .parser _ => parser
  | o => other (o.shown?.getD [])

end Supplied

namespace Checked

/-! ### Values -/

/-- A text. -/
def text : Value → Except Fault Text
  | .text t => .ok t
  | v => .error (.notText v)

/-- A count: an integer that is not negative. Truth values are no counts. -/
def count (name : Text) : Value → Except Fault Nat
  | .int n => if n < 0 then .error (.negativeCount name n) else .ok n.toNat
  | v => .error (.notCount name v)

/-- Whether a value asks for no upper limit. -/
def isUnbounded (v : Value) : Bool := v.equal (.float Binary64.infinity)

/-- The least and the greatest count of a repetition. Without a greatest count there are
exactly as many rounds as the least one says. -/
def counts (least most : Value) : Except Fault (Nat × Option Nat) := do
  let most := match most with
    | .none => least
    | v => v
  let low ← count "min_count" least
  if isUnbounded most then return (low, none)
  let high ← count "max_count" most
  if high < low then throw (.countsCrossed high low)
  return (low, some high)

/-! ### Collections of characters -/

/-- The elements of a collection in increasing order, joined. -/
def sortedJoin (vs : List Value) : Except Fault Text := do Value.joined [] (← Value.sort vs)

/-- A collection of characters: how it is shown, and which characters are in it. The
characters of a text are its elements; in other collections only an element that is one
character counts. -/
def characters (v : Value) : Except Fault (Text × (CodePoint → Bool)) :=
  match v with
  | .text t => .ok (t.quoted, fun c => decide (c ∈ t))
  | .list vs | .tuple vs | .set vs => collection vs
  | .dict es => collection (es.map Prod.fst)
  | v => .error (.notCharacters v)
where
  /-- A collection with these elements. -/
  collection (vs : List Value) : Except Fault (Text × (CodePoint → Bool)) := do
    let joined ← sortedJoin vs
    return (joined.quoted, fun c => (Value.char c).member vs)

/-! ### Patterns -/

/-- The edition of the matcher for which callers' patterns are compiled. -/
def edition : Regex.Edition := .trailing

/-- A pattern, compiled with the given flags unless it has been compiled before. -/
def pattern (o : Operand) (flags : Regex.Flags) : Except Fault Regex.Pattern :=
  match o with
  | .value (.text source) =>
    let unsupported := flags.without Regex.Flags.allowed
    if unsupported = 0 then (Regex.Pattern.compile source flags).map (·.inEdition edition)
    else .error (.unsupportedFlags unsupported)
  | .pattern p => do
    if flags ≠ 0 then throw .flagsOfCompiled
    p.checkFlags
    return p
  | .bytesPattern source =>
    if flags = 0 then .error (.bytesPattern (Regex.renderBytesPattern source))
    else .error .flagsOfCompiled
  | o => .error (.notPattern (o.shown?.getD []))

/-- A group of a pattern, given by its number or its name. -/
def group (p : Regex.Pattern) : Value → Except Fault Nat
  | .text name =>
    match p.names.lookup name with
    | some n => .ok n
    | none => .error (.unknownGroup name p.source)
  | .int n =>
    if 0 ≤ n ∧ n ≤ p.groups then .ok n.toNat else .error (.groupOutOfRange n p.source)
  | v => .error (.notGroup v)

end Checked

end Furthest
