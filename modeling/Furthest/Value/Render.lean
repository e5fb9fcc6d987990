import Furthest.Text.Integer
import Furthest.Text.Quoted
import Furthest.Value

/-!
# The printed form of values

Error messages and printed replies show values. Texts are quoted, and collections show their
elements in their own order, separated by commas.

## Main definitions

* `Value.render`: the printed form of a value.
* `Value.display`: the same, but a text stands for itself.
* `Value.isPrintable`: whether a value is short enough to be printed.
-/

namespace Furthest

/-- The elements of a printed collection, separated by commas. -/
def commaSeparated (ts : List Text) : Text := Text.join ", " ts

/-- The printed form of a mark around a printed value. -/
def renderMark (start : Position) (value : Text) (stop : Position) : Text :=
  "<Mark " ++ Text.ofInt start.offset ++ ".." ++ Text.ofInt stop.offset ++ " \x7b" ++ value
    ++ "\x7d>"

/-- The printed form of a tuple of printed elements: one element alone is followed by a
comma. -/
def renderTuple : List Text → Text
  | [t] => "(" ++ t ++ ",)"
  | ts => "(" ++ commaSeparated ts ++ ")"

/-- The printed form of a set of printed elements. -/
def renderSet : List Text → Text
  | [] => "frozenset()"
  | ts => "frozenset(\x7b" ++ commaSeparated ts ++ "\x7d)"

mutual

/-- The printed form of a value. -/
def Value.render : Value → Text
  | .none => "None"
  | .bool b => if b then "True" else "False"
  | .int n => Text.ofInt n
  | .float x => x.render
  | .text t => t.quoted
  | .list vs => "[" ++ commaSeparated (renderAll vs) ++ "]"
  | .tuple vs => renderTuple (renderAll vs)
  | .bytes bs => Text.quotedBytes bs
  | .byteArray bs => Text.quotedByteArray bs
  | .set vs => renderSet (renderAll vs)
  | .dict es => "\x7b" ++ commaSeparated (renderEntries es) ++ "\x7d"
  | .position p => p.render
  | .mark start v stop => renderMark start v.render stop
  | .function _ => "<function>"

/-- The printed forms of the values of a list. -/
def renderAll : List Value → List Text
  | [] => []
  | v :: vs => v.render :: renderAll vs

/-- The printed forms of the entries of a mapping. -/
def renderEntries : List (Value × Value) → List Text
  | [] => []
  | (k, v) :: es => (k.render ++ ": " ++ v.render) :: renderEntries es

end

mutual

/-- Whether a value can be printed, because no integer in it has too many digits. -/
def Value.isPrintable : Value → Bool
  | .int n => decide (n.natAbs < Nat.pow 10 Text.digitLimit)
  | .list vs | .tuple vs | .set vs => allPrintable vs
  | .dict es => allEntriesPrintable es
  | .mark _ v _ => v.isPrintable
  | _ => true

/-- Whether all values of a list can be printed. -/
def allPrintable : List Value → Bool
  | [] => true
  | v :: vs => v.isPrintable && allPrintable vs

/-- Whether all entries of a mapping can be printed. -/
def allEntriesPrintable : List (Value × Value) → Bool
  | [] => true
  | (k, v) :: es => k.isPrintable && v.isPrintable && allEntriesPrintable es

end

/-- A value inside a sentence: a text stands for itself, everything else is printed. -/
def Value.display : Value → Text
  | .text t => t
  | v => v.render

end Furthest
