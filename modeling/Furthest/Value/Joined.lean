import Furthest.Fault

/-!
# Joined texts

The texts of a list of values, one after the other. Every value of the list has to be a
text.

## Main definitions

* `Value.texts`: the texts that the values of a list are.
* `Value.joined`: the same, joined.
-/

namespace Furthest

namespace Value

/-- The texts that the values of a list are, the first of which has the index `i`. -/
def textsFrom (i : Nat) : List Value → Except Fault (List Text)
  | [] => .ok []
  | .text t :: vs => do return t :: (← textsFrom (i + 1) vs)
  | v :: _ => .error (.notJoinable i v.typeName)

/-- The texts that the values of a list are. -/
def texts (vs : List Value) : Except Fault (List Text) := textsFrom 0 vs

/-- The texts of a list of values, with a separator between two neighbours. -/
def joined (separator : Text) (vs : List Value) : Except Fault Text := do
  return Text.join separator (← texts vs)

/-- A list of texts consists of these texts. -/
theorem textsFrom_map_text (i : Nat) (ts : List Text) :
    textsFrom i (ts.map .text) = .ok ts := by
  induction ts generalizing i with
  | nil => rfl
  | cons t ts ih => simp only [List.map_cons, textsFrom, ih]; rfl

/-- A list of texts is joined as these texts are. -/
theorem joined_map_text (separator : Text) (ts : List Text) :
    joined separator (ts.map .text) = .ok (Text.join separator ts) := by
  simp only [joined, texts, textsFrom_map_text]; rfl

end Value

end Furthest
