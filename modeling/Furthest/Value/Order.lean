import Furthest.Fault
import Furthest.Value.Hash

/-!
# The order of values

Some values can be compared by size: numbers as numbers, texts and byte strings by their
first difference, lists and tuples by their first unequal elements, sets by inclusion. For
other values there is no order, and a comparison of them is a fault.

Sorting inserts every value into those before it by binary search. A first run of values
that is in order already, or in reverse order, is taken as it stands. All that can be seen
of this is which comparison fails first, if one does.

## Main definitions

* `Value.less`: the comparison.
* `Value.sort`: the values of a list in increasing order.
* `Value.sortedUnion`: the different values of two lists in increasing order.
-/

namespace Furthest

/-- A number on the line of all numbers, or none. -/
inductive Magnitude where
  /-- A fraction. -/
  | finite (num : Int) (den : Nat)
  /-- An infinite number. -/
  | infinite (negative : Bool)
  /-- Not a number. -/
  | none

/-- The number that a floating point number is. -/
def Binary64.magnitude (x : Binary64) : Magnitude :=
  match x.classify with
  | .finite negative m q =>
    let (num, den) := Binary64.scaled m 2 q
    .finite (if negative then -(num : Int) else num) den
  | .infinite negative => .infinite negative
  | .nan => .none

/-- Whether a number is less than another. What is no number is less than nothing. -/
def Magnitude.less : Magnitude → Magnitude → Bool
  | .finite a b, .finite c d => a * d < c * b
  | .finite .., .infinite negative => !negative
  | .infinite negative, .finite .. => negative
  | .infinite a, .infinite b => a && !b
  | _, _ => false

namespace Value

/-- The number that a value is, if it is one. -/
def magnitude? (v : Value) : Option Magnitude :=
  match v with
  | .float x => some x.magnitude
  | v => v.asInt?.map fun n => .finite n 1

/-- The numbers of a byte string. -/
def byteValues? : Value → Option (List Nat)
  | .bytes bs | .byteArray bs => some bs
  | _ => Option.none

/-- The comparison of two values that hold no other values. -/
def lessAtoms (a b : Value) : Except Fault Bool :=
  match a.magnitude?, b.magnitude? with
  | some x, some y => .ok (x.less y)
  | _, _ =>
    match a, b with
    | .text s, .text t => .ok (decide (s < t))
    | .set vs, .set ws => .ok (decide (vs.length < ws.length) && vs.all (·.member ws))
    | a, b =>
      match a.byteValues?, b.byteValues? with
      | some bs, some cs => .ok (decide (bs < cs))
      | _, _ => .error (.notComparable a.typeName b.typeName)

mutual

/-- Whether a value is less than another. -/
def less : Value → Value → Except Fault Bool
  | .list vs => fun
    | .list ws => lessAll vs ws
    | b => lessAtoms (.list vs) b
  | .tuple vs => fun
    | .tuple ws => lessAll vs ws
    | b => lessAtoms (.tuple vs) b
  | a => lessAtoms a

/-- Whether a list of values comes before another: the first unequal elements decide, or
else the length. -/
def lessAll : List Value → List Value → Except Fault Bool
  | [] => fun ws => .ok (!ws.isEmpty)
  | v :: vs => fun
    | [] => .ok false
    | w :: ws => if equal v w then lessAll vs ws else less v w

end

/-! ### Sorting -/

/-- The run at the start of a list that is in increasing order, or in strictly decreasing
order, behind the value `last`, and the values behind it. -/
def splitRun (decreasing : Bool) (last : Value) :
    List Value → Except Fault (List Value × List Value)
  | [] => .ok ([], [])
  | v :: vs => do
    if (← less v last) == decreasing then
      let (run, rest) ← splitRun decreasing v vs
      return (v :: run, rest)
    else return ([], v :: vs)

/-- The place of a value in a sorted list, found by halving the `size` places from `low`
on. -/
def placeOf (v : Value) (sorted : List Value) : (fuel low size : Nat) → Except Fault Nat
  | 0, low, _ => .ok low
  | fuel + 1, low, size =>
    if size = 0 then .ok low
    else do
      let half := size / 2
      if ← less v (sorted.getD (low + half) .none) then placeOf v sorted fuel low half
      else placeOf v sorted fuel (low + half + 1) (size - half - 1)

/-- Puts a value into its place in a sorted list, behind those it is equal to. -/
def insertInOrder (sorted : List Value) (v : Value) : Except Fault (List Value) := do
  let i ← placeOf v sorted (sorted.length + 1) 0 sorted.length
  return sorted.take i ++ v :: sorted.drop i

/-- The values of a list in increasing order. -/
def sort : List Value → Except Fault (List Value)
  | u :: v :: vs => do
    let decreasing ← less v u
    let (run, rest) ← splitRun decreasing u (v :: vs)
    let start := u :: run
    rest.foldlM insertInOrder (if decreasing then start.reverse else start)
  | vs => .ok vs

/-- The different values of two lists in increasing order. They have to be of a kind that
can be in a set. -/
def sortedUnion (vs ws : List Value) : Except Fault (List Value) :=
  match unhashableIn? (vs ++ ws) with
  | some typeName => .error (.unhashable typeName)
  | Option.none => sort (unionOrder vs ws)

end Value

end Furthest
