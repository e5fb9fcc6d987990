import Furthest.Position
import Mathlib.Algebra.GroupWithZero.Nat
import Mathlib.Data.List.Induction
import Mathlib.Data.Prod.Lex

/-!
# Lines and Columns

The position of an offset is found by two scans of the text before it: one counts the line
feeds, the other looks for the last of them. What they find has to agree with the lines of
the whole text, which know nothing of the offset. The two meet in the lines of the text
before the offset: there are as many as the line says, the last one is as long as the column
says, and they are those of the whole text up to a part of a line (`Text.lines_append`).

From there on it is a matter of counting. Every line takes up its length and one more, for
what separates it from the next one or for the end of the text, and an offset is a number of
whole lines and a rest that fits into the next one. Numbers that are written in this way are
written uniquely, and are in the order of their digits.

## Main results

* `Text.lines_append`: the lines of two texts, one after the other.
* `Position.ofOffset_append`: a position, told by the lines of the text before it.
* `Text.IsPlace.offset_lt_iff`: places are in the order of their offsets.
* `Position.ofOffset_exact`: **lines and columns are exact and invertible.**
-/

namespace Furthest

namespace Text

variable {ls : List Text} {l : Text} {c : CodePoint}

/-! ### Lines -/

/-- There is at least one line. -/
theorem exists_lines_eq_cons (t : Text) : ∃ l ls, lines t = l :: ls := by
  cases t with
  | nil => exact ⟨[], [], rfl⟩
  | cons c t =>
      rw [lines]
      split
      · exact ⟨[], lines t, rfl⟩
      · split
        · exact ⟨[c], [], rfl⟩
        · next l ls _ => exact ⟨c :: l, ls, rfl⟩

/-- The lines are what the line feeds separate. -/
theorem lines_eq_splitOn (t : Text) : lines t = t.splitOn lineFeed := by
  induction t with
  | nil => rfl
  | cons c t ih =>
      obtain ⟨l, ls, ht⟩ := exists_lines_eq_cons t
      rw [ht] at ih
      rw [lines, ht, List.splitOn, List.splitOnP_cons_eq_if_modifyHead]
      change _ = if (c == lineFeed) = true then [] :: t.splitOn lineFeed
        else (t.splitOn lineFeed).modifyHead (List.cons c)
      rw [← ih]
      simp

/-- **The lines of two texts, one after the other**: the last line of the first one goes on
with the first line of the second one. -/
theorem lines_append (a b : Text) :
    ∃ ls l l' ls', lines a = ls ++ [l] ∧ lines b = l' :: ls'
      ∧ lines (a ++ b) = ls ++ (l ++ l') :: ls' := by
  induction a with
  | nil =>
      obtain ⟨l', ls', hb⟩ := exists_lines_eq_cons b
      exact ⟨[], [], l', ls', rfl, hb, hb⟩
  | cons c a ih =>
      obtain ⟨ls, l, l', ls', ha, hb, hab⟩ := ih
      rw [List.cons_append, lines, lines, ha, hab]
      by_cases hc : c = lineFeed
      · simp only [if_pos hc]
        exact ⟨[] :: ls, l, l', ls', rfl, hb, rfl⟩
      · simp only [if_neg hc]
        cases ls with
        | nil => exact ⟨[], c :: l, l', ls', rfl, hb, rfl⟩
        | cons k ls => exact ⟨(c :: k) :: ls, l, l', ls', rfl, hb, rfl⟩

/-- A character at the end goes to the last line, and a line feed begins a new one. -/
theorem lines_concat {t : Text} (h : lines t = ls ++ [l]) (c : CodePoint) :
    lines (t ++ [c]) = if c = lineFeed then ls ++ [l] ++ [[]] else ls ++ [l ++ [c]] := by
  obtain ⟨ls₁, l₁, l₂, ls₂, ht, hc, htc⟩ := lines_append t [c]
  obtain ⟨rfl, hl⟩ := List.append_inj' (h.symm.trans ht) rfl
  obtain rfl := List.singleton_inj.mp hl
  rw [htc]
  by_cases hfeed : c = lineFeed
  · simp only [lines, if_pos hfeed, List.cons.injEq] at hc ⊢
    obtain ⟨rfl, rfl⟩ := hc
    simp
  · simp only [lines, if_neg hfeed, List.cons.injEq] at hc ⊢
    obtain ⟨rfl, rfl⟩ := hc
    rfl

/-- There is one more line than there are line feeds. -/
theorem length_lines (t : Text) : (lines t).length = t.count lineFeed + 1 := by
  induction t with
  | nil => rfl
  | cons c t ih =>
      obtain ⟨l, ls, ht⟩ := exists_lines_eq_cons t
      rw [ht] at ih
      rw [lines, ht, List.count_cons]
      by_cases hc : c = lineFeed
      · simp [hc, ← ih]
      · simp [hc, ← ih]

/-- The room that some lines take up: each one its length, and one more for what comes
behind it. -/
def room (ls : List Text) : Nat := (ls.map fun l => l.length + 1).sum

theorem room_cons (l : Text) (ls : List Text) : room (l :: ls) = l.length + 1 + room ls := by
  simp [room]

theorem room_append (ls ls' : List Text) : room (ls ++ ls') = room ls + room ls' := by
  simp [room]

/-- All lines of a text take up its length, and one more for its end. -/
theorem room_lines (t : Text) : room (lines t) = t.length + 1 := by
  induction t with
  | nil => rfl
  | cons c t ih =>
      obtain ⟨l, ls, ht⟩ := exists_lines_eq_cons t
      rw [ht, room_cons] at ih
      rw [lines, ht]
      by_cases hc : c = lineFeed
      · simp only [if_pos hc, room_cons, List.length_cons, List.length_nil]
        omega
      · simp only [if_neg hc, room_cons, List.length_cons]
        omega

/-- How far the end of a text is behind its last line feed, or behind where one would stand
before its start. -/
theorem behind_lastLineFeed {t : Text} (h : lines t = ls ++ [l]) :
    (match lastLineFeed? t with
      | some i => (t.length : Int) - i
      | none => (t.length : Int) + 1 : Int) = l.length + 1 := by
  induction t using List.reverseRecOn generalizing ls l with
  | nil =>
      obtain ⟨-, hl⟩ : [] = ls ∧ [([] : Text)] = [l] := List.append_inj' h rfl
      obtain rfl := List.singleton_inj.mp hl
      rfl
  | append_singleton t c ih =>
      obtain ⟨ls', l', -, -, ht, -⟩ := lines_append t [c]
      have hlast := ih ht
      rw [lines_concat ht] at h
      rw [lastLineFeed?] at hlast ⊢
      rw [List.reverse_append, List.reverse_singleton, List.singleton_append, List.idxOf?_cons]
      by_cases hfeed : c = lineFeed
      · rw [if_pos hfeed] at h
        obtain ⟨-, hl⟩ := List.append_inj' h rfl
        obtain rfl := List.singleton_inj.mp hl
        subst hfeed
        rw [if_pos BEq.rfl]
        simp only [Option.map_some, List.length_append, List.length_singleton, List.length_nil]
        omega
      · rw [if_neg hfeed] at h
        obtain ⟨-, hl⟩ := List.append_inj' h rfl
        obtain rfl := List.singleton_inj.mp hl
        cases hi : t.reverse.idxOf? lineFeed with
        | none =>
          simp [hi, hfeed] at hlast ⊢
          omega
        | some i =>
          simp [hi, hfeed] at hlast ⊢
          omega

/-! ### Places -/

/-- The room of the first lines grows with their number. -/
theorem room_take_le (ls : List Text) {m n : Nat} (h : m ≤ n) :
    room (ls.take m) ≤ room (ls.take n) := by
  obtain ⟨k, rfl⟩ := Nat.exists_eq_add_of_le h
  rw [List.take_add, room_append]
  omega

/-- A line takes up its length, and one more. -/
theorem room_take_succ {n : Nat} (h : n < ls.length) :
    room (ls.take (n + 1)) = room (ls.take n) + (ls.getD n []).length + 1 := by
  have hline : ls.getD n [] = ls[n] := by simp [h]
  have hnil : room [] = 0 := rfl
  rw [List.take_succ_eq_append_getElem h, room_append, room_cons, hline]
  omega

/-- A place in a text: a line that there is, and a column of it or the one right behind it,
both counted from one. -/
structure IsPlace (src : Text) (line : Nat) (column : Int) : Prop where
  /-- Lines are counted from one. -/
  one_le_line : 1 ≤ line
  /-- There are as many lines. -/
  line_le : line ≤ (lines src).length
  /-- Columns are counted from one. -/
  one_le_column : 1 ≤ column
  /-- The line is as long, or just one character shorter. -/
  column_le : column ≤ ((lines src).getD (line - 1) []).length + 1

/-- The offset of a place: the room of the lines before it and the columns before it. -/
def offsetOf (src : Text) (line : Nat) (column : Int) : Int :=
  room ((lines src).take (line - 1)) + column - 1

namespace IsPlace

variable {src : Text} {line line' : Nat} {column column' : Int}

/-- The lines before a place are before its offset. -/
theorem le_offset (h : src.IsPlace line column) :
    (room ((lines src).take (line - 1)) : Int) ≤ src.offsetOf line column := by
  have hcolumn := h.one_le_column
  rw [offsetOf]
  omega

/-- The line of a place ends behind its offset. -/
theorem offset_lt (h : src.IsPlace line column) :
    src.offsetOf line column < room ((lines src).take line) := by
  obtain ⟨hline, hlines, -, hcolumn⟩ := h
  obtain ⟨row, rfl⟩ := Nat.exists_eq_add_of_le' hline
  rw [room_take_succ hlines, offsetOf]
  rw [Nat.add_sub_cancel] at hcolumn ⊢
  push_cast
  omega

/-- The offset of a place is one of the text. -/
theorem exists_offset (h : src.IsPlace line column) :
    ∃ o : Nat, (o : Int) = src.offsetOf line column ∧ o ≤ src.length := by
  have hle := h.le_offset
  have hlt := h.offset_lt
  have hroom := room_take_le (lines src) h.line_le
  rw [List.take_length, room_lines] at hroom
  exact ⟨(src.offsetOf line column).toNat, by omega, by omega⟩

/-- **Places are in the order of their offsets.** -/
theorem offset_lt_iff (h : src.IsPlace line column) (h' : src.IsPlace line' column') :
    src.offsetOf line column < src.offsetOf line' column'
      ↔ toLex (line, column) < toLex (line', column') := by
  rw [Prod.Lex.toLex_lt_toLex]
  have hline := h.one_le_line
  have hline' := h'.one_le_line
  rcases lt_trichotomy line line' with hlt | rfl | hlt
  · have hroom := room_take_le (lines src) (Nat.le_sub_one_of_lt hlt)
    have hbefore := h.offset_lt
    have hbehind := h'.le_offset
    exact iff_of_true (by omega) (.inl hlt)
  · simp [offsetOf]
  · have hroom := room_take_le (lines src) (Nat.le_sub_one_of_lt hlt)
    have hbefore := h'.offset_lt
    have hbehind := h.le_offset
    refine iff_of_false (by omega) ?_
    rintro (hl | ⟨rfl, -⟩) <;> omega

/-- Different places have different offsets. -/
theorem eq_of_offset_eq (h : src.IsPlace line column) (h' : src.IsPlace line' column')
    (heq : src.offsetOf line column = src.offsetOf line' column') :
    line = line' ∧ column = column' := by
  have hlt := (h.offset_lt_iff h').not.mp (by omega)
  have hgt := (h'.offset_lt_iff h).not.mp (by omega)
  have hplace : toLex (line, column) = toLex (line', column') :=
    le_antisymm (not_lt.mp hgt) (not_lt.mp hlt)
  exact Prod.mk.inj (toLex_inj.mp hplace)

end IsPlace

end Text

/-! ### Positions -/

namespace Position

open Text

variable {src : Text} {o : Nat}

/-- **The position of an offset is told by the lines of the text before it**: how many there
are, and how long the last one is. -/
theorem ofOffset_append {a : Text} {ls : List Text} {l : Text}
    (h : lines a = ls ++ [l]) (b : Text) :
    ofOffset (a ++ b) a.length = ⟨a.length, ls.length + 1, l.length + 1⟩ := by
  have hstop : min (a.length : Int) (a ++ b).length = a.length := by
    rw [List.length_append]
    omega
  have hbound : (a ++ b).bound a.length = a.length := by
    rw [bound_natCast, List.length_append]
    omega
  have hline : a.count lineFeed = ls.length := by
    have hlength := length_lines a
    rw [h, List.length_append, List.length_singleton] at hlength
    omega
  rw [ofOffset]
  simp only [hstop, hbound, List.take_left, hline]
  exact congrArg (Position.mk a.length (ls.length + 1)) (behind_lastLineFeed h)

/-- Line and column of an offset are a place, and the offset is that of the place. -/
theorem isPlace_ofOffset (ho : o ≤ src.length) :
    src.IsPlace (ofOffset src o).line (ofOffset src o).column
      ∧ src.offsetOf (ofOffset src o).line (ofOffset src o).column = o := by
  obtain ⟨ls, l, l', ls', hbefore, -, hlines⟩ := lines_append (src.take o) (src.drop o)
  have hposition := ofOffset_append hbefore (src.drop o)
  have hroom := room_lines (src.take o)
  rw [hbefore, room_append, room_cons] at hroom
  rw [List.take_append_drop] at hlines hposition
  rw [List.length_take_of_le ho] at hposition hroom
  rw [hposition, offsetOf]
  simp only [Nat.add_sub_cancel]
  refine ⟨⟨by omega, ?_, by omega, ?_⟩, ?_⟩
  · rw [hlines, List.length_append, List.length_cons]
    omega
  · have hget : (lines src).getD ls.length [] = l ++ l' := by
      rw [hlines, List.getD_eq_getElem?_getD, List.getElem?_append_right le_rfl, Nat.sub_self]
      rfl
    rw [Nat.add_sub_cancel, hget, List.length_append]
    omega
  · rw [hlines, List.take_left]
    have hnil : room [] = 0 := rfl
    omega

/-- Offsets behind the end have the line and the column of the end. -/
theorem ofOffset_of_length_le {o : Int} (ho : src.length ≤ o) :
    (ofOffset src o).line = (ofOffset src src.length).line
      ∧ (ofOffset src o).column = (ofOffset src src.length).column := by
  simp only [ofOffset, min_eq_right ho, min_self, and_self]

/-- **Lines and columns are exact and invertible.** The lines of a text are what its line
feeds separate. Line and column of an offset are those of a place in the text, a line that
there is and a column of it or the one right behind it, and they give the offset back: it is
the length of the lines before, with one more for each, and the columns before. Every place
is that of exactly one offset, and places are in the order of their offsets. Behind the end
of the text there are only the line and the column of the end. -/
theorem ofOffset_exact (src : Text) :
    lines src = src.splitOn lineFeed
      ∧ (∀ o ≤ src.length, src.IsPlace (ofOffset src o).line (ofOffset src o).column
        ∧ (o : Int) = src.offsetOf (ofOffset src o).line (ofOffset src o).column)
      ∧ (∀ line column, src.IsPlace line column →
        ∃! o, o ≤ src.length ∧ (ofOffset src o).line = line ∧ (ofOffset src o).column = column)
      ∧ (∀ o ≤ src.length, ∀ o' ≤ src.length, o < o'
        ↔ toLex ((ofOffset src o).line, (ofOffset src o).column)
          < toLex ((ofOffset src o').line, (ofOffset src o').column))
      ∧ ∀ o : Int, src.length < o →
        (ofOffset src o).line = (ofOffset src src.length).line
          ∧ (ofOffset src o).column = (ofOffset src src.length).column := by
  refine ⟨lines_eq_splitOn src, fun o ho => ?_, fun line column hplace => ?_,
    fun o ho o' ho' => ?_, fun o ho => ofOffset_of_length_le ho.le⟩
  · obtain ⟨hplace, hoffset⟩ := isPlace_ofOffset ho
    exact ⟨hplace, hoffset.symm⟩
  · obtain ⟨o, ho, hle⟩ := hplace.exists_offset
    obtain ⟨hplace', hoffset⟩ := isPlace_ofOffset hle
    obtain ⟨hline, hcolumn⟩ := hplace'.eq_of_offset_eq hplace (hoffset.trans ho)
    refine ⟨o, ⟨hle, hline, hcolumn⟩, ?_⟩
    rintro o' ⟨hle', rfl, rfl⟩
    obtain ⟨-, hoffset'⟩ := isPlace_ofOffset hle'
    omega
  · obtain ⟨hplace, hoffset⟩ := isPlace_ofOffset ho
    obtain ⟨hplace', hoffset'⟩ := isPlace_ofOffset ho'
    rw [← hplace.offset_lt_iff hplace', hoffset, hoffset']
    omega

/-- A text with both kinds of line ends, an empty line, and a line feed at its end. -/
theorem ofOffset_exact_lineEnds :
    let src : Text := "ab\r\n\ncd\n"
    src.length = 8
      ∧ ofOffset src 6 = ⟨6, 3, 2⟩ ∧ src.IsPlace 3 2 ∧ (6 : Int) = src.offsetOf 3 2
      ∧ (∃! o, o ≤ src.length ∧ (ofOffset src o).line = 1 ∧ (ofOffset src o).column = 4)
      ∧ toLex ((3 : Nat), (2 : Int)) < toLex (4, 1)
      ∧ (ofOffset src 11).line = 4 ∧ (ofOffset src 11).column = 1 := by
  intro src
  have hlength : src.length = 8 := rfl
  obtain ⟨-, hexact, hunique, horder, hend⟩ := ofOffset_exact src
  obtain ⟨hplace, hoffset⟩ := hexact 6 (by omega)
  have hlineEnd : src.IsPlace 1 4 := ⟨by decide, by decide, by decide, by decide⟩
  have hlt := (horder 6 (by omega) 8 (by omega)).mp (by omega)
  exact ⟨hlength, rfl, hplace, hoffset, hunique 1 4 hlineEnd, hlt, hend 11 (by omega)⟩

end Position

end Furthest
