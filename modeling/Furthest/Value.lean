import Furthest.Binary64
import Furthest.Position

/-!
# Values

What a parser produces, and what a caller hands to a parser constructor, is a dynamic value.
Some values are functions: a parser may produce a function that a later parser's value is
given to. The functions that can be values form a small language of their own, `Callback`.

## Main definitions

* `Value`: the values.
* `Callback`: the functions among them.
* `Value.isTruthy`: how a value decides a test.
* `Value.elements?`: the elements of a collection.
-/

namespace Furthest

mutual

/-- A dynamic value. -/
inductive Value where
  /-- The value that stands for nothing. -/
  | none
  /-- A truth value. -/
  | bool (b : Bool)
  /-- An integer of any size. -/
  | int (n : Int)
  /-- A floating point number. -/
  | float (x : Binary64)
  /-- A text. -/
  | text (t : Text)
  /-- A list. -/
  | list (items : List Value)
  /-- A tuple: a list that is not a list for the purpose of equality. -/
  | tuple (items : List Value)
  /-- A byte string. -/
  | bytes (bs : List Nat)
  /-- A byte string that can be changed in place, though nothing here does. -/
  | byteArray (bs : List Nat)
  /-- A set, as the list of its elements. -/
  | set (items : List Value)
  /-- A mapping, as the list of its entries in the order of their keys' first appearance. -/
  | dict (entries : List (Value × Value))
  /-- A position. -/
  | position (p : Position)
  /-- A value with the positions at which its text starts and ends. -/
  | mark (start : Position) (value : Value) (stop : Position)
  /-- A function. -/
  | function (f : Callback)

/-- A function on values. -/
inductive Callback where
  /-- Reads an integer. -/
  | int
  /-- Joins a list of texts. -/
  | join
  /-- The length of a collection. -/
  | len
  /-- The sum of a list of numbers. -/
  | sum
  /-- Turns a collection into a tuple. -/
  | tuple
  /-- Turns a list of pairs into a mapping. -/
  | dict
  /-- Turns lowercase letters of ASCII into uppercase ones. -/
  | upper
  /-- The negated number. -/
  | neg
  /-- The reversed sequence. -/
  | reverse
  /-- The argument itself. -/
  | id
  /-- The list of all arguments. -/
  | list
  /-- The sum of two arguments. -/
  | add
  /-- The difference of two arguments. -/
  | sub
  /-- The function that adds its argument to this one's. -/
  | adder
  /-- A left operand, an operator and a right operand. -/
  | binop
  /-- A left operand and a list of operators with right operands, grouped to the left. -/
  | foldl
  /-- Adds its argument to a known left operand. -/
  | addTo (a : Value)
  /-- Always the same value. -/
  | const (v : Value)
  /-- The argument with this index; a negative one counts from the last argument. -/
  | pick (i : Int)
  /-- Raises an error with this message. -/
  | raise (message : Text)
  /-- Calls values one after the other, each with what the one before it returned. -/
  | compose (fs : List Value)
  /-- Notes its arguments under a tag, then calls the given value. -/
  | trace (tag : Text) (f : Value)

end

instance : Inhabited Value := ⟨.none⟩

instance : Inhabited Callback := ⟨.id⟩

namespace Value

instance : Coe Text Value := ⟨.text⟩

/-- The text of one character. -/
def char (c : CodePoint) : Value := .text [c]

/-- The elements of a list, and none of anything else. -/
def items : Value → List Value
  | .list vs => vs
  | _ => []

/-- How a value decides a test: nothing, false, zeros and empty collections do not pass
it. -/
def isTruthy : Value → Bool
  | .none => false
  | .bool b => b
  | .int n => n != 0
  | .float x => !x.isZero
  | .text t => !t.isEmpty
  | .list vs | .tuple vs | .set vs => !vs.isEmpty
  | .bytes bs | .byteArray bs => !bs.isEmpty
  | .dict es => !es.isEmpty
  | .position _ | .mark .. | .function _ => true

/-- The elements of a collection: the characters of a text, the elements of a list, tuple or
set, the keys of a mapping, the numbers of a byte string. -/
def elements? : Value → Option (List Value)
  | .text t => some (t.map char)
  | .list vs | .tuple vs | .set vs => some vs
  | .dict es => some (es.map Prod.fst)
  | .bytes bs | .byteArray bs => some (bs.map fun (b : Nat) => .int b)
  | _ => Option.none

/-- The name of a value's type. -/
def typeName : Value → Text
  | .none => "NoneType"
  | .bool _ => "bool"
  | .int _ => "int"
  | .float _ => "float"
  | .text _ => "str"
  | .list _ => "list"
  | .tuple _ => "tuple"
  | .bytes _ => "bytes"
  | .byteArray _ => "bytearray"
  | .set _ => "frozenset"
  | .dict _ => "dict"
  | .position _ => "SourcePosition"
  | .mark .. => "Mark"
  | .function _ => "function"

/-- The integer that a value counts as: integers are integers, and the truth values are one
and zero. -/
def asInt? : Value → Option Int
  | .int n => some n
  | .bool b => some (if b then 1 else 0)
  | _ => Option.none

end Value

end Furthest
