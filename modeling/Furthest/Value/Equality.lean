import Furthest.Value

/-!
# Equality of values

Values of different kinds may be equal: numbers are compared as numbers, with the truth
values as one and zero, and a position equals the tuple of its offset, line and column. A
list equals no tuple, and no number is equal to what is not a number.

## Main definitions

* `Value.equal`: equality.
* `Value.member`: whether a list holds an equal value.
* `Value.ofEntries`: mappings from lists with repetitions.
-/

namespace Furthest

/-- Equality of an integer and a floating point number. -/
def Binary64.equalInt (x : Binary64) (n : Int) : Bool := x.toInt? == some n

/-- A position as the list of its three numbers. -/
def Position.numbers (p : Position) : List Value :=
  [.int p.offset, .int p.line, .int p.column]

namespace Value

/-- Equality of values that hold no other values. -/
def equalAtoms (a b : Value) : Bool :=
  match a.asInt?, b.asInt? with
  | some m, some n => m == n
  | some m, Option.none =>
    match b with
    | .float y => y.equalInt m
    | _ => false
  | Option.none, some n =>
    match a with
    | .float x => x.equalInt n
    | _ => false
  | Option.none, Option.none =>
    match a, b with
    | .none, .none => true
    | .float x, .float y => x.equal y
    | .text s, .text t => s == t
    | .bytes bs, .bytes cs => bs == cs
    | .bytes bs, .byteArray cs => bs == cs
    | .byteArray bs, .bytes cs => bs == cs
    | .byteArray bs, .byteArray cs => bs == cs
    | .position p, .position q => p == q
    | _, _ => false

/-- Whether the three numbers of a position equal the elements of a tuple. -/
def equalNumbers : List Value → List Value → Bool
  | [], [] => true
  | m :: ms, v :: vs => equalAtoms m v && equalNumbers ms vs
  | _, _ => false

mutual

/-- Whether two values are equal. Sets are equal if they have the same elements, mappings if
they have equal values under equal keys; a function is equal to no other one. -/
def equal : Value → Value → Bool
  | .list vs => fun
    | .list ws => equalAll vs ws
    | _ => false
  | .tuple vs => fun
    | .tuple ws => equalAll vs ws
    | .position p => equalNumbers p.numbers vs
    | _ => false
  | .set vs => fun
    | .set ws => vs.length == ws.length && allIn vs ws
    | _ => false
  | .dict es => fun
    | .dict fs => es.length == fs.length && allEntriesIn es fs
    | _ => false
  | .mark start v stop => fun
    | .mark start' w stop' => start == start' && equal v w && stop == stop'
    | _ => false
  | .position p => fun
    | .tuple ws => equalNumbers p.numbers ws
    | b => equalAtoms (.position p) b
  | a => equalAtoms a

/-- Whether two lists have equal elements in the same order. -/
def equalAll : List Value → List Value → Bool
  | [] => fun ws => ws.isEmpty
  | v :: vs => fun
    | [] => false
    | w :: ws => equal v w && equalAll vs ws

/-- Whether all values of the first list are in the second. -/
def allIn : List Value → List Value → Bool
  | [] => fun _ => true
  | v :: vs => fun ws => ws.any (equal v) && allIn vs ws

/-- Whether all entries of the first mapping are in the second. -/
def allEntriesIn : List (Value × Value) → List (Value × Value) → Bool
  | [] => fun _ => true
  | (k, v) :: es => fun fs =>
    fs.any (fun f => equal k f.1 && equal v f.2) && allEntriesIn es fs

end

/-- Whether a list holds a value equal to this one. -/
def member (v : Value) (vs : List Value) : Bool := vs.any (equal v)

/-- Puts a value under a key: the value of an equal key is replaced in its place, a new key
goes to the end. -/
def insertEntry (k v : Value) : List (Value × Value) → List (Value × Value)
  | [] => [(k, v)]
  | (k', v') :: es => if k.equal k' then (k', v) :: es else (k', v') :: insertEntry k v es

/-- The mapping with the given entries, of which later ones replace earlier ones. -/
def ofEntries (es : List (Value × Value)) : Value :=
  .dict (es.foldl (fun seen e => insertEntry e.1 e.2 seen) [])

end Value

end Furthest
