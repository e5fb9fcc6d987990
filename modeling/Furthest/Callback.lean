import Furthest.Effect
import Furthest.Text.LetterCase
import Furthest.Value.Hash
import Furthest.Value.Joined

/-!
# Calling functions

What the functions that are values do with their arguments. A function that is given
arguments it is not made for raises a fault.

## Main definitions

* `Callback.call`: calls a function.
* `Value.call`: calls a value, which has to be a function.
-/

namespace Furthest

namespace Value

/-- A number as a floating point number. An integer may be too large for one. -/
def toFloat? (v : Value) : Option (Except Fault Binary64) :=
  match v with
  | .float x => some (.ok x)
  | v => v.asInt?.map fun n =>
    let x := Binary64.ofInt n
    if x.isInfinite then .error .integerTooLarge else .ok x

/-- Applies an operation on integers to two numbers, or the one on floating point numbers if
an operand is one. -/
def arithmetic (onInt : Int → Int → Int) (onFloat : Float → Float → Float) (a b : Value) :
    Except Fault Value :=
  match a.asInt?, b.asInt? with
  | some m, some n => .ok (.int (onInt m n))
  | _, _ =>
    match a.toFloat?, b.toFloat? with
    | some x, some y => do return .float (Binary64.combine onFloat (← x) (← y))
    | _, _ => .error .badArguments

/-- Adds two values: numbers as numbers, sequences of one type end to end. -/
def add (a b : Value) : Except Fault Value :=
  match a, b with
  | .text s, .text t => .ok (.text (s ++ t))
  | .list vs, .list ws => .ok (.list (vs ++ ws))
  | .tuple vs, .tuple ws => .ok (.tuple (vs ++ ws))
  | .bytes bs, .bytes cs | .bytes bs, .byteArray cs => .ok (.bytes (bs ++ cs))
  | .byteArray bs, .bytes cs | .byteArray bs, .byteArray cs => .ok (.byteArray (bs ++ cs))
  | a, b => arithmetic (· + ·) (· + ·) a b

/-- Subtracts two values: numbers as numbers, and from a set the elements of another one. -/
def sub (a b : Value) : Except Fault Value :=
  match a, b with
  | .set vs, .set ws => .ok (ofSet (vs.filter fun v => !v.member ws))
  | a, b => arithmetic (· - ·) (· - ·) a b

/-- A sequence a number of times over, if the value is one. -/
def repeated? (v : Value) (n : Int) : Option Value :=
  let copies {α : Type} (items : List α) : List α := (List.replicate n.toNat items).flatten
  match v with
  | .text t => some (.text (copies t))
  | .list vs => some (.list (copies vs))
  | .tuple vs => some (.tuple (copies vs))
  | .bytes bs => some (.bytes (copies bs))
  | .byteArray bs => some (.byteArray (copies bs))
  | _ => Option.none

/-- Multiplies two values: numbers as numbers, and a sequence by the number of its
copies. -/
def mul (a b : Value) : Except Fault Value :=
  match b.asInt?.bind a.repeated?, a.asInt?.bind b.repeated? with
  | some v, _ | Option.none, some v => .ok v
  | Option.none, Option.none => arithmetic (· * ·) (· * ·) a b

/-- Applies the operation that an operator names: the sum, the difference, and for all other
operators the product. -/
def operate (a op b : Value) : Except Fault Value :=
  if op.equal (.text "+") then a.add b
  else if op.equal (.text "-") then a.sub b
  else a.mul b

/-- The negated number. -/
def neg (a : Value) : Except Fault Value :=
  match a.asInt? with
  | some n => .ok (.int (-n))
  | Option.none =>
    match a with
    | .float x => .ok (.float x.negate)
    | _ => .error .badArguments

/-- The elements of a collection. -/
def elements (v : Value) : Except Fault (List Value) :=
  match v.elements? with
  | some vs => .ok vs
  | Option.none => .error .badArguments

/-- The sum of numbers. -/
def total (vs : List Value) : Except Fault Value := vs.foldlM add (.int 0)

/-- The integer that a text stands for, with a limit on the number of its digits if there is
one. If it stands for none, the text is shown in the given form. -/
def ofNumeral (limit : Option Nat) (shown t : Text) : Except Fault Value :=
  match t.readInteger limit with
  | .ok n => .ok (.int n)
  | .error .malformed => .error (.notNumeral shown)
  | .error (.tooLong digits) => .error (.numeralTooLong digits)

/-- The text of a byte string in which every byte outside ASCII is replaced by a question
mark. -/
def asciiText (bs : List Nat) : Text := bs.map fun b => if b < 128 then b else 63

/-- The integer that a value stands for: what the text says, a floating point number without
its fraction, or the integer that the value counts as. -/
def toInteger (limit : Option Nat) (v : Value) : Except Fault Value :=
  match v with
  | .text t => ofNumeral limit t.quoted t
  | .bytes bs | .byteArray bs => ofNumeral limit (Text.quotedBytes bs) (asciiText bs)
  | .float x =>
    match x.classify with
    | .finite negative m q =>
      let (num, den) := Binary64.scaled m 2 q
      let n : Int := num / den
      .ok (.int (if negative then -n else n))
    | _ => .error .badArguments
  | v =>
    match v.asInt? with
    | some n => .ok (.int n)
    | Option.none => .error .badArguments

/-- The length of a collection. -/
def length (v : Value) : Except Fault Value := do
  return .int (← v.elements).length

/-- A pair as an entry of a mapping. -/
def entry (v : Value) : Except Fault (Value × Value) := do
  match ← v.elements with
  | [k, w] =>
    match k.unhashable? with
    | some typeName => .error (.unhashable typeName)
    | Option.none => return (k, w)
  | _ => .error .badArguments

/-- A list of pairs as a mapping. -/
def toDict (v : Value) : Except Fault Value :=
  match v with
  | .dict es => .ok (.dict es)
  | v => do return ofEntries (← (← v.elements).mapM entry)

/-- The set of the values of a list, which have to be of a kind that can be in a set. -/
def toSet (vs : List Value) : Except Fault Value :=
  match unhashableIn? vs with
  | some typeName => .error (.unhashable typeName)
  | Option.none => .ok (ofSet vs)

/-- The number of different values in a list, which have to be of a kind that can be in a
set. -/
def countDistinct (vs : List Value) : Except Fault Nat :=
  match unhashableIn? vs with
  | some typeName => .error (.unhashable typeName)
  | Option.none => .ok (distinct vs).length

/-- The reversed sequence. -/
def reversed : Value → Except Fault Value
  | .text t => .ok (.text t.reverse)
  | .list vs => .ok (.list vs.reverse)
  | .tuple vs => .ok (.tuple vs.reverse)
  | .bytes bs => .ok (.bytes bs.reverse)
  | .byteArray bs => .ok (.byteArray bs.reverse)
  | _ => .error .badArguments

/-- A text with its lowercase letters of ASCII turned into uppercase ones. -/
def uppercase : Value → Except Fault Value
  | .text t => .ok (.text (t.map CodePoint.asciiUpper))
  | .bytes bs => .ok (.bytes (bs.map CodePoint.asciiUpper))
  | .byteArray bs => .ok (.byteArray (bs.map CodePoint.asciiUpper))
  | _ => .error .badArguments

/-- Applies an operator and its right operand, given as a list of two, to a left operand. -/
def operateStep (a step : Value) : Except Fault Value := do
  match ← step.elements with
  | [op, b] => a.operate op b
  | _ => .error .badArguments

/-- The value of a list with an index; a negative one counts from the end. -/
def pick? (vs : List Value) (i : Int) : Option Value :=
  if 0 ≤ i then vs[i.toNat]?
  else if 0 ≤ i + vs.length then vs[(i + vs.length).toNat]?
  else Option.none

end Value

/-- What the functions do that neither leave notes nor call other functions. -/
def Callback.pureCall : Callback → List Value → Except Fault Value
  | .int, [v] => v.toInteger (some Text.digitLimit)
  | .join, [v] => do return .text (← Value.joined [] (← v.elements))
  | .len, [v] => v.length
  | .sum, [v] => do Value.total (← v.elements)
  | .tuple, [v] => do return .tuple (← v.elements)
  | .dict, [v] => v.toDict
  | .upper, [v] => v.uppercase
  | .neg, [v] => v.neg
  | .reverse, [v] => v.reversed
  | .id, [v] => .ok v
  | .list, vs => .ok (.list vs)
  | .add, [a, b] => a.add b
  | .sub, [a, b] => a.sub b
  | .adder, [a] => .ok (.function (.addTo a))
  | .binop, [a, op, b] => a.operate op b
  | .foldl, [a, steps] => do (← steps.elements).foldlM Value.operateStep a
  | .addTo a, [b] => a.add b
  | .const v, _ => .ok v
  | .pick i, vs =>
    match Value.pick? vs i with
    | some v => .ok v
    | none => .error .badArguments
  | .raise message, _ => .error (.raised message)
  | _, _ => .error .badArguments

mutual

/-- Calls a function. -/
def Callback.call : Callback → List Value → Effect Value
  | .compose fs, vs => Value.callInTurn fs vs
  | .trace tag f, vs => do
    Effect.note { tag := tag, items := vs }
    f.call vs
  | f, vs => Effect.ofExcept (f.pureCall vs)

/-- Calls a value, which has to be a function. -/
def Value.call : Value → List Value → Effect Value
  | .function f, vs => f.call vs
  | v, _ => Effect.raise (.notCallable v.typeName)

/-- Calls values in turn, each with what the one before it returned. -/
def Value.callInTurn : List Value → List Value → Effect Value
  | [], [v] => pure v
  | [], _ => Effect.raise .badArguments
  | f :: fs, vs => do
    let v ← f.call vs
    Value.callInTurn fs [v]

end

end Furthest
