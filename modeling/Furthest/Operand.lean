import Furthest.Parser

/-!
# Operands

Where a parser is expected, a text may stand for the literal parser and a compiled pattern
for the pattern parser. An operand is what a caller has put there, whether it can stand for
a parser or not.

## Main definitions

* `Operand`: the operands.
* `Operand.toParser`: the parser that an operand stands for.
* `Operand.asParser`: the parser that an operand is, for places where nothing may stand for
  it.
-/

namespace Furthest

/-- What a caller has put where a parser is expected. -/
inductive Operand where
  /-- A parser. -/
  | parser (p : Parser)
  /-- A compiled pattern. -/
  | pattern (p : Regex.Pattern)
  /-- A compiled pattern for byte strings. -/
  | bytesPattern (source : List Nat)
  /-- Some other value. -/
  | value (v : Value)

instance : Inhabited Operand := ⟨.value .none⟩

/-- Checks that the flags of a compiled pattern only change what it matches. -/
def Regex.Pattern.checkFlags (p : Regex.Pattern) : Except Fault Unit :=
  let unsupported := p.flags.without Regex.Flags.allowed
  if unsupported = 0 then .ok () else .error (.unsupportedFlags unsupported)

namespace Operand

/-- The printed form of an operand. Parsers have none. -/
def shown? : Operand → Option Text
  | parser _ => none
  | pattern p => some p.render
  | bytesPattern source => some (Regex.renderBytesPattern source)
  | value v => some v.render

/-- Whether the operand is a parser. -/
def isParser : Operand → Bool
  | parser _ => true
  | _ => false

/-- The fault of an operand that is not a parser. -/
def notParser (o : Operand) : Fault := .notParser (o.shown?.getD [])

/-- The parser that the operand is. -/
def asParser : Operand → Except Fault Parser
  | parser p => .ok p
  | o => .error o.notParser

/-- The parser that the operand stands for: texts stand for literals, compiled patterns for
pattern parsers. -/
def toParser : Operand → Except Fault Parser
  | parser p => .ok p
  | value (.text t) => .ok (.literal t)
  | pattern p => do
    p.checkFlags
    return .regex p 0
  | bytesPattern source => .error (.bytesPattern (Regex.renderBytesPattern source))
  | o => .error o.notParser

end Operand

end Furthest
