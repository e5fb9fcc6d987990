/-!
# Text and offsets

A text is a list of code points. Code points are plain numbers, because a text may hold
surrogates, which no character type admits. Labels, sources and messages are all texts, and
their order is the lexicographic order of code points.

Offsets into a text are integers. An offset that is not negative counts from the start, a
negative one counts from the end, and the operations below say what becomes of an offset
that leaves the text on either side.

## Main definitions

* `Text.bound`: an offset clamped into the text, as the ends of a slice are.
* `Text.slice`, `Text.sliceFrom`: the part of a text between two offsets.
* `Text.charAt?`: the character at an offset, if there is one.
* `Text.standsAt`: whether a text stands at an offset of another.

## Main results

* `Text.bound_natCast`, `Text.slice_natCast`: offsets that count from the start.
-/

namespace Furthest

/-- A code point, surrogates included. -/
abbrev CodePoint := Nat

/-- A sequence of code points. -/
abbrev Text := List CodePoint

namespace Text

/-- The code points of a string. -/
def ofString (s : String) : Text := s.toList.map Char.toNat

instance : Coe String Text := ⟨ofString⟩

/-- A number in decimal digits. -/
def ofNat (n : Nat) : Text := ofString (toString n)

/-- An integer in decimal digits, with a minus sign if it is negative. -/
def ofInt (n : Int) : Text := ofString (toString n)

/-- The line feed, the only character that ends a line. -/
def lineFeed : CodePoint := 10

/-- The carriage return, which is no part of a line's visible text when it ends the line. -/
def carriageReturn : CodePoint := 13

/-- The space. -/
def space : CodePoint := 32

/-- The texts of a list, one after the other, with a separator between two neighbours. -/
def join (separator : Text) : List Text → Text
  | [] => []
  | [t] => t
  | t :: ts => t ++ separator ++ join separator ts

/-- The bound of the offsets at which something can be looked up: two to the sixty-third. -/
def offsetLimit : Int := 0x8000000000000000

/-- An offset clamped into the text: a negative offset counts from the end, and what still
lies outside goes to the nearer end. -/
def bound (t : Text) (pos : Int) : Nat :=
  if pos < 0 then (pos + t.length).toNat else min pos.toNat t.length

/-- An offset that counts from the start can only leave the text at its end. -/
@[simp] theorem bound_natCast (t : Text) (n : Nat) : t.bound n = min n t.length := by
  rw [bound, if_neg (by omega), Int.toNat_natCast]

/-- The text between two offsets, empty if the second does not lie behind the first. -/
def slice (t : Text) (start stop : Int) : Text :=
  (t.drop (t.bound start)).take (t.bound stop - t.bound start)

/-- Between offsets that count from the start, nothing has to be clamped. -/
theorem slice_natCast (t : Text) (start stop : Nat) :
    t.slice start stop = (t.drop start).take (stop - start) := by
  rw [slice, bound_natCast, bound_natCast]
  refine List.ext_getElem? fun i => ?_
  simp only [List.getElem?_take, List.getElem?_drop]
  grind

/-- The text from an offset on. -/
def sliceFrom (t : Text) (start : Int) : Text := t.drop (t.bound start)

/-- The character at an offset. There is none at or behind the end, and none before the
character that is as far from the end as the text is long. -/
def charAt? (t : Text) (pos : Int) : Option CodePoint :=
  if 0 ≤ pos then t[pos.toNat]?
  else if 0 ≤ pos + t.length then t[(pos + t.length).toNat]?
  else none

/-- Whether `part` stands in `t` at an offset. Behind the end nothing stands, not even the
empty text. -/
def standsAt (t part : Text) (pos : Int) : Bool :=
  decide (pos ≤ t.length) && part.isPrefixOf (t.sliceFrom pos)

/-- The index of the last line feed, if there is one. -/
def lastLineFeed? (t : Text) : Option Nat :=
  (t.reverse.idxOf? lineFeed).map (t.length - 1 - ·)

/-- The lines of a text: what its line feeds separate. There is always at least one. -/
def lines : Text → List Text
  | [] => [[]]
  | c :: t =>
    if c = lineFeed then [] :: lines t
    else match lines t with
      | [] => [[c]]
      | l :: ls => (c :: l) :: ls

/-- The text without the characters `c` at its end. -/
def dropTrailing (t : Text) (c : CodePoint) : Text :=
  (t.reverse.dropWhile (· == c)).reverse

/-- `n` spaces, none if `n` is negative. -/
def spaces (n : Int) : Text := List.replicate n.toNat space

/-! ### Sets of texts as sorted lists -/

/-- Adds a text to a strictly sorted list, which stays strictly sorted. -/
def insertSorted (x : Text) : List Text → List Text
  | [] => [x]
  | y :: ys =>
    if x = y then y :: ys
    else if x < y then x :: y :: ys
    else y :: insertSorted x ys

/-- The texts of a list in increasing order, each once. -/
def sortedDistinct (xs : List Text) : List Text := xs.foldr insertSorted []

end Text

end Furthest
