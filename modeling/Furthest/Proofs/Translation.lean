import Furthest.Proofs.Likeness

/-!
# Translation Invariance

What a parser does at an offset depends on the text from that offset on, and on nothing
before it. So a text may be put in front of another, and a run that starts as much later
does the same: the indices of matches and the offsets of failures move along, and statuses,
values and labels stay what they are. Exempt are patterns, which may look back, positions,
which count from the start of the text, and custom actions, which can do both.

One offset does not move along, the `-1` of a record without failures. All offsets are
compared with each other, by joins of records and by descriptions, and that the comparisons
still come out the same is because those that move stay on the same side of those that do
not.

## Main results

* `Record.shifted_join`, `Record.shifted_carried`: records can be moved before or after they
  are joined and carried on.
* `Likeness.shift`: replies on a text and on the same text behind another one.
* `Coupling.eval_translated`: a parser can be moved if its lazy parsers can.
* `Parser.run_translated`: **translation invariance.**
-/

namespace Furthest

/-! ### Texts behind another text -/

namespace Text

variable (u src : Text) {pos stop : Int}

/-- An offset is before the end of both texts or of neither. -/
theorem add_lt_length_append : u.length + pos < (u ++ src).length ↔ pos < src.length := by
  rw [List.length_append]
  omega

/-- The distance to the end of the text is the same. -/
theorem length_append_sub :
    ((u ++ src).length : Int) - (u.length + pos) = src.length - pos := by
  rw [List.length_append]
  omega

variable (h : 0 ≤ pos)
include h

theorem bound_append : (u ++ src).bound (u.length + pos) = u.length + src.bound pos := by
  rw [bound, bound, if_neg (by omega), if_neg (by omega), List.length_append]
  omega

theorem sliceFrom_append : (u ++ src).sliceFrom (u.length + pos) = src.sliceFrom pos := by
  rw [sliceFrom, sliceFrom, bound_append u src h, List.drop_length_add_append]

theorem slice_append (h' : 0 ≤ stop) :
    (u ++ src).slice (u.length + pos) (u.length + stop) = src.slice pos stop := by
  rw [slice, slice, bound_append u src h, bound_append u src h', List.drop_length_add_append,
    Nat.add_sub_add_left]

theorem charAt?_append : (u ++ src).charAt? (u.length + pos) = src.charAt? pos := by
  have htoNat : (u.length + pos).toNat = u.length + pos.toNat := by omega
  rw [charAt?, charAt?, if_pos (by omega), if_pos h, htoNat,
    List.getElem?_append_right (Nat.le_add_right _ _), Nat.add_sub_cancel_left]

theorem lookUp_append : (u ++ src).lookUp (u.length + pos) = src.lookUp pos := by
  have hlimit : 0 < offsetLimit := by decide
  rw [lookUp, lookUp, charAt?_append u src h, if_neg (by omega), if_neg (by omega)]

theorem standsAt_append (part : Text) :
    (u ++ src).standsAt part (u.length + pos) = src.standsAt part pos := by
  have hle : u.length + pos ≤ (u ++ src).length ↔ pos ≤ src.length := by
    rw [List.length_append]
    omega
  rw [standsAt, standsAt, sliceFrom_append u src h, decide_eq_decide.mpr hle]

end Text

/-! ### Records and replies behind a text -/

namespace Record

/-- The same failures behind a text of length `n`. If nothing has failed, nothing
changes. -/
def shifted (n : Nat) (r : Record) : Record :=
  { r with furthest := if 0 ≤ r.furthest then n + r.furthest else r.furthest }

variable (n : Nat) {r last : Record}

theorem shifted_single {pos : Int} (h : 0 ≤ pos) (label : Label) :
    (single pos label).shifted n = single (n + pos) label := by
  have hfurthest : (single pos label).furthest = pos := rfl
  rw [shifted, hfurthest, if_pos h]
  rfl

/-- **Moved records compare as before.** -/
theorem shifted_lt_iff : (last.shifted n).furthest < (r.shifted n).furthest
    ↔ last.furthest < r.furthest := by
  simp only [shifted]
  split <;> split <;> omega

theorem shifted_eq_iff : (r.shifted n).furthest = (last.shifted n).furthest
    ↔ r.furthest = last.furthest := by
  simp only [shifted]
  split <;> split <;> omega

/-- A moved record compares with a moved offset as before. -/
theorem shifted_furthest_eq_iff {pos : Int} (h : 0 ≤ pos) :
    (r.shifted n).furthest = n + pos ↔ r.furthest = pos := by
  simp only [shifted]
  split <;> omega

theorem shifted_carried : (r.shifted n).carried = r.carried.shifted n := by
  by_cases h : r.furthest < -1
  · have hneg : ¬ 0 ≤ r.furthest := by omega
    simp only [carried, shifted, if_neg hneg, if_pos h]
    rfl
  · have hs : ¬ (r.shifted n).furthest < -1 := by
      simp only [shifted]
      split <;> omega
    rw [carried, carried, if_neg h, if_neg hs]

/-- **Records can be moved before or after they are joined.** -/
theorem shifted_join :
    (r.shifted n).join (last.shifted n) = (r.join last).map (shifted n) := by
  simp only [join, shifted_lt_iff, shifted_eq_iff]
  split
  · rfl
  · split
    · simp only [shifted]
      cases unionExpected r.expected last.expected <;> rfl
    · rfl

end Record

/-- The same reply behind a text of length `n`: the index and the failures move along, the
status, the value and the labels stay. -/
def Reply.shifted (n : Nat) : Reply → Reply
  | .success index value r => .success (n + index) value (r.shifted n)
  | .failure r => .failure (r.shifted n)

namespace Likeness

/-- What is alike on a text and behind `u`. Offsets count from the start of the text. -/
def shift (u : Text) : Likeness where
  texts t t' := t = u ++ t'
  offsets i i' := i = u.length + i' ∧ 0 ≤ i'
  records r r' := r = r'.shifted u.length
  offsets_eq_iff := by
    rintro i i' j j' ⟨rfl, -⟩ ⟨rfl, -⟩
    exact Int.add_right_inj _
  clean := rfl
  carried := by
    rintro _ r rfl
    exact Record.shifted_carried _
  join := by
    rintro _ r _ last rfl rfl
    rw [Record.shifted_join]
    cases r.join last with
    | ok j => exact .ok rfl
    | error fault => exact .error fault

variable {u : Text} {r r' : Reply}

theorem Replies.eq_shifted (h : (shift u).Replies r r') : r = r'.shifted u.length := by
  cases h with
  | success hi value hr =>
      obtain ⟨rfl, -⟩ := hi
      obtain rfl := hr
      rfl
  | failure hr =>
      obtain rfl := hr
      rfl

theorem single_shift (label : Label) : ∀ pos pos', (shift u).offsets pos pos' →
    (shift u).records (.single pos label) (.single pos' label) := by
  rintro _ pos ⟨rfl, h⟩
  exact (Record.shifted_single _ h label).symm

theorem Replies.mismatchBehind {pos : Int} (h : 0 ≤ pos) (label : Label) :
    (shift u).Replies (.mismatch (u.length + pos) label) (.mismatch pos label) :=
  .failure (single_shift label _ _ ⟨rfl, h⟩)

theorem Replies.matchedBehind {stop : Int} (h : 0 ≤ stop) (value : Value) :
    (shift u).Replies (.matched (u.length + stop) value) (.matched stop value) := by
  have hi : (shift u).offsets (u.length + stop) stop := ⟨rfl, h⟩
  exact .matched hi value

end Likeness

/-! ### Parsers that can be moved -/

/-- A node that refers to what is before the offset: a pattern, which may look back, and the
position. -/
def Parser.IsAnchored : Parser → Prop
  | .regex .. | .index => True
  | _ => False

/-- The parsers of the library that do not refer to what is before the offset. -/
def Parser.IsFloating (p : Parser) : Prop :=
  p.Throughout fun q => ¬ q.IsCustom ∧ ¬ q.IsAnchored

namespace Coupling

open Likeness (shift)

variable {C : Coupling} {u : Text} {a b : Action}

/-- An action behind a text. -/
theorem Mirrors.behind (h : ∀ (src : Text) (pos : Int), 0 ≤ pos →
      C.Rel (shift u).Replies (a (u ++ src) (u.length + pos)) (b src pos)) :
    C.Mirrors (shift u) a b := by
  rintro _ src rfl _ pos ⟨rfl, hpos⟩
  exact h src pos hpos

/-! #### Leaves -/

theorem Mirrors.literal (text : Text) :
    C.Mirrors (shift u) (.literal text) (.literal text) := by
  refine .behind fun src pos h => ?_
  simp only [Action.literal, Action.ofReply, Text.standsAt_append u src h]
  split
  · rw [Int.add_assoc]
    exact .pure (.matchedBehind (by omega) _)
  · exact .pure (.mismatchBehind h _)

/-- The character that is looked up is the same. -/
theorem charAt_append {src : Text} {pos : Int} (h : 0 ≤ pos) :
    Action.charAt (u ++ src) (u.length + pos) = Action.charAt src pos := by
  rw [Action.charAt, Action.charAt, Text.lookUp_append u src h]

theorem Mirrors.charTest (label : Text) (test : CodePoint → Effect Bool) :
    C.Mirrors (shift u) (.charTest label test) (.charTest label test) := by
  refine .behind fun src pos h => ?_
  simp only [Action.charTest, Text.add_lt_length_append, charAt_append h]
  split
  · refine Rel.bind (.charAt src pos) ?_
    rintro c _ rfl
    refine Rel.bind (.perform (test c)) ?_
    rintro (_ | _) _ rfl
    · exact .pure (.mismatchBehind h _)
    · rw [if_pos rfl, if_pos rfl, Int.add_assoc]
      exact .pure (.matchedBehind (by omega) _)
  · exact .pure (.mismatchBehind h _)

theorem Rel.scanBehind (test : CodePoint → Effect Bool) (src : Text) (left : Nat) {pos : Int}
    (h : 0 ≤ pos) :
    C.Rel (shift u).offsets (Action.scan test (u ++ src) left (u.length + pos))
      (Action.scan test src left pos) := by
  induction left generalizing pos with
  | zero => exact .pure ⟨rfl, h⟩
  | succ left ih =>
      simp only [Action.scan, charAt_append h]
      refine Rel.bind (.charAt src pos) ?_
      rintro c _ rfl
      refine Rel.bind (.perform (test c)) ?_
      rintro (_ | _) _ rfl
      · exact .pure ⟨rfl, h⟩
      · rw [if_pos rfl, if_pos rfl, Int.add_assoc]
        exact ih (by omega)

theorem Mirrors.takeWhile (test : CodePoint → Effect Bool) :
    C.Mirrors (shift u) (.takeWhile test) (.takeWhile test) := by
  refine .behind fun src pos h => ?_
  simp only [Action.takeWhile, Text.length_append_sub]
  refine Rel.bind (.scanBehind test src _ h) ?_
  rintro _ stop ⟨rfl, h'⟩
  rw [Text.slice_append u src h h']
  exact .pure (.matchedBehind h' _)

theorem Mirrors.eof : C.Mirrors (shift u) .eof .eof := by
  refine .behind fun src pos h => ?_
  simp only [Action.eof, Action.ofReply, Text.add_lt_length_append]
  split
  · exact .pure (.mismatchBehind h _)
  · exact .pure (.matchedBehind h _)

theorem Mirrors.anyChar : C.Mirrors (shift u) .anyChar .anyChar := by
  refine .behind fun src pos h => ?_
  simp only [Action.anyChar, Text.add_lt_length_append, charAt_append h]
  split
  · refine Rel.bind (.charAt src pos) ?_
    rintro c _ rfl
    rw [Int.add_assoc]
    exact .pure (.matchedBehind (by omega) _)
  · exact .pure (.mismatchBehind h _)

theorem Mirrors.rest : C.Mirrors (shift u) .rest .rest := by
  refine .behind fun src pos h => ?_
  simp only [Action.rest, Action.ofReply, Text.sliceFrom_append u src h]
  rw [List.length_append, Int.natCast_add]
  exact .pure (.matchedBehind (Int.natCast_nonneg _) _)

/-! #### Descriptions -/

/-- A failure is at the start on the one side if it is on the other. -/
theorem Mirrors.desc (h : C.Mirrors (shift u) a b) (label : Text) :
    C.Mirrors (shift u) (.desc a label) (.desc b label) := by
  refine .behind fun src pos hpos => ?_
  refine Rel.bind (h rfl ⟨rfl, hpos⟩) ?_
  rintro _ _ (⟨hi, value, hr⟩ | ⟨hr⟩)
  · exact .pure (.success hi value hr)
  · obtain rfl := hr
    simp only [Record.shifted_furthest_eq_iff _ hpos]
    split
    · exact .pure (.mismatchBehind hpos _)
    · exact .pure (.failure rfl)

/-! #### Parsers -/

/-- **A parser can be moved, if its lazy parsers can.** -/
theorem eval_translated {rounds : Nat} {lazies : Nat → Action}
    (hl : ∀ id, C.Mirrors (shift u) (lazies id) (lazies id)) {p : Parser} (hp : p.IsFloating) :
    C.Mirrors (shift u) (p.eval rounds lazies) (p.eval rounds lazies) := by
  induction hp with
  | @intro p here _ ih =>
  obtain ⟨hcustom, hanchored⟩ := here
  cases p with
  | literal text => exact .literal text
  | regex p group => exact absurd trivial hanchored
  | charTest label test => exact .charTest label test
  | takeWhile test => exact .takeWhile test
  | succeed value => exact .behind fun _ _ h => .pure (.matchedBehind h value)
  | fail label => exact .behind fun _ _ h => .pure (.mismatchBehind h _)
  | eof => exact .eof
  | index => exact absurd trivial hanchored
  | anyChar => exact .anyChar
  | rest => exact .rest
  | map p f => exact (ih p .map).map f
  | chain p next => exact (ih p .chain).chain fun v => ih _ (.chainNext v)
  | desc p label => exact (ih p .desc).desc label
  | repeated p least extra => exact (ih p .repeated).repeated rounds least extra
  | seq ps =>
      rw [Parser.eval_seq]
      exact .seq (forall₂_map_parsers fun p hp => ih p (.seq hp))
  | alt p ps =>
      rw [Parser.eval_alt]
      exact (ih p .altFirst).alt (forall₂_map_parsers fun q hq => ih q (.altOther hq))
  | lookahead p => exact (ih p .lookahead).lookahead
  | notFollowedBy p label =>
      exact (ih p .notFollowedBy).notFollowedBy (Likeness.single_shift label)
  | lazy id => exact hl id
  | custom act => exact absurd trivial hcustom
  | answer reply => exact absurd trivial hcustom
  | inspect p next => exact absurd trivial hcustom
  | raise fault => exact fun _ _ _ _ _ _ => .raise fault
  | note n p =>
      intro src src' hsrc pos pos' hpos
      refine Rel.bind (.note n) ?_
      rintro _ _ -
      exact ih p .note hsrc hpos

end Coupling

namespace Parser

/-- A lazy parser can be moved, where everything that the store leads to can. -/
theorem runLazy_translated (u : Text) (rounds depth id : Nat) :
    (Store.admitting IsFloating).Mirrors (.shift u) (runLazy rounds depth id)
      (runLazy rounds depth id) := by
  induction depth generalizing id with
  | zero => exact fun _ _ _ _ _ _ => .stop .exhausted
  | succ depth ih =>
      intro src src' hsrc pos pos' hpos
      refine Coupling.Rel.bind (Store.force_admits IsFloating id) ?_
      rintro p _ ⟨rfl, hp⟩
      exact Coupling.eval_translated ih hp hsrc hpos

/-- **Translation invariance.** A parser of the library that has neither patterns nor
positions does the same on a text and behind any other text, in every store that leads to
such parsers only and at all limits: it is broken off for the same reason and changes the
store in the same way, or it has the same status, value and labels, where the index and the
furthest failure, if there is one, have moved by the length of the text in front. -/
theorem run_translated {p : Parser} (hp : p.IsFloating) {s : Store} (hs : s.Admits IsFloating)
    (limits : Limits) (u src : Text) (pos : Nat) :
    (p.run limits (u ++ src) (u.length + pos)).exec s
      = (((p.run limits src pos).outcome s).map (Reply.shifted u.length),
          (p.run limits src pos).after s) := by
  have hrun : (Store.admitting IsFloating).Mirrors (.shift u) (p.run limits) (p.run limits) :=
    Coupling.eval_translated (runLazy_translated u limits.rounds limits.depth) hp
  have hsrc : (Likeness.shift u).texts (u ++ src) src := rfl
  have hpos : (Likeness.shift u).offsets (u.length + pos) pos := ⟨rfl, Int.natCast_nonneg pos⟩
  have hrel := (hrun hsrc hpos).mono fun _ _ h => h.eq_shifted
  exact hrel.exec_of_same hs

end Parser

/-! ### Balanced parentheses -/

/-- Parentheses around whatever the lazy parser matches, or nothing. -/
def Parser.parentheses : Parser :=
  alternatives [seq [literal "(", lazy 0, literal ")"], succeed .none]

/-- A lazy parser that stands for balanced parentheses, inside of which it occurs itself. -/
def Store.balanced : Store :=
  Store.empty.allocate [.mk "balanced" fun _ _ _ => .ok (.parser .parentheses, [])]

/-- A lazy parser can be moved as far as its own node goes. -/
theorem Parser.lazy_floating (id : Nat) : (lazy id).IsFloating := by
  refine .intro ⟨(·), (·)⟩ ?_
  rintro _ ⟨⟩

theorem Parser.parentheses_floating : parentheses.IsFloating := by
  have hliteral (text : Text) : (literal text).IsFloating := by
    refine .intro ⟨id, id⟩ ?_
    rintro _ ⟨⟩
  have hsucceed : (succeed .none).IsFloating := by
    refine .intro ⟨id, id⟩ ?_
    rintro _ ⟨⟩
  have hparts : ∀ p ∈ [literal "(", lazy 0, literal ")"], p.IsFloating := by
    rw [List.forall_mem_cons, List.forall_mem_cons, List.forall_mem_singleton]
    exact ⟨hliteral _, lazy_floating 0, hliteral _⟩
  have hseq : (seq [literal "(", lazy 0, literal ")"]).IsFloating := by
    refine .intro ⟨id, id⟩ fun q hq => ?_
    cases hq with
    | seq hq => exact hparts q hq
  refine .intro ⟨id, id⟩ fun q hq => ?_
  cases hq with
  | altFirst => exact hseq
  | altOther hq =>
      obtain rfl := List.mem_singleton.mp hq
      exact hsucceed

theorem Store.balanced_floating : balanced.Admits Parser.IsFloating :=
  admits_allocate (List.forall_mem_singleton.mpr (.constant Parser.parentheses_floating _))

/-- Parentheses that are not closed, within a text and behind another one. The match of the
empty text and the missing parenthesis at the end move along. -/
theorem Parser.run_translated_balanced :
    let u : Text := "(x"
    let src : Text := "a(()"
    (lazy 0).IsFloating ∧ Store.balanced.Admits IsFloating
      ∧ ((lazy 0).run ⟨3, 0⟩ src (1 : Nat)).outcome .balanced
          = .ok (.success 1 .none ⟨4, [.text "')'"]⟩)
      ∧ ((lazy 0).run ⟨3, 0⟩ (u ++ src) (u.length + (1 : Nat))).outcome .balanced
          = .ok (.success 3 .none ⟨6, [.text "')'"]⟩) := by
  intro u src
  have hp := lazy_floating 0
  have hs := Store.balanced_floating
  refine ⟨hp, hs, rfl, ?_⟩
  rw [Run.outcome, run_translated hp hs ⟨3, 0⟩ u src 1]
  rfl

end Furthest
