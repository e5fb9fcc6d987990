import Furthest.Text

/-!
# Positions

A position is an offset together with the line and the column that it has in a text. Lines
are separated by line feeds, and both lines and columns are counted from one.

## Main definitions

* `Position.ofOffset`: the position of an offset in a text.
* `Position.render`: its printed form.
-/

namespace Furthest

/-- An offset, with its line and column in the text it was taken from. -/
structure Position where
  /-- The offset, as it was given. -/
  offset : Int
  /-- The line, counted from one. -/
  line : Nat
  /-- The column, counted from one. -/
  column : Int
deriving DecidableEq, Repr, Inhabited

namespace Position

/-- The position of an offset: its line is one more than the number of line feeds before it,
its column is the distance to the last of these, or to one before the start if there is
none. Offsets behind the end have the line and the column of the end. -/
def ofOffset (src : Text) (offset : Int) : Position :=
  let stop := min offset src.length
  let before : Text := src.take (src.bound stop)
  { offset
    line := before.count Text.lineFeed + 1
    column := match before.lastLineFeed? with
      | some i => stop - i
      | none => stop + 1 }

/-- A position as it is printed. -/
def render (p : Position) : Text :=
  "<SourcePosition " ++ Text.ofInt p.offset ++ " (line " ++ Text.ofNat p.line ++ ", column "
    ++ Text.ofInt p.column ++ ")>"

end Position

end Furthest
