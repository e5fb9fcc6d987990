/-!
# Counting without end

The integers from a start on, at equal distances. There is no last one, so the sequence is
given by its elements, and lists hold the first of them.

## Main definitions

* `Counting.element`: an element of the sequence.
* `Counting.first`: the first elements.
-/

namespace Furthest.Counting

/-- The element with an index, counted from zero. -/
def element (start step : Int) (i : Nat) : Int := start + step * i

/-- The first `n` elements. -/
def first (start step : Int) (n : Nat) : List Int := (List.range n).map (element start step)

end Furthest.Counting
