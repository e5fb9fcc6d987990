import Furthest.Proofs.Quoting
import Furthest.Proofs.Replies

/-!
# Escapes in Quoted Strings

What becomes of an escape, for all quotes and escapes. The sequences that it may announce
are any texts: they may be prefixes of each other, of the quotes and of the escape. Behind
the escape the fixed ones come first, then those that more text follows, each in order, and
in the end any other character, but only if no sequence of the second kind stands there. So
a sequence whose text is refused is not taken apart into characters: the escape fails, the
character that it begins with is none of the plain ones either, and the contents end in
front of it.

The parsers of the text behind a sequence are arbitrary. They are run in the order of the
sequences, each in the store that the one before it has left, as far as their sequences
stand there, and that is what `Prebuilt.Refused` says of those that fail.

## Main results

* `Prebuilt.replies_refused`: a refused escape is no character.
* `Prebuilt.replies_quotedBetween`: **the contents end in front of a refused escape.**
* `Prebuilt.escapes_decided`: **what becomes of an escape.**
-/

namespace Furthest.Prebuilt

open Furthest.Parser

variable {q : Quoting} {opening closing key : Text} {limits : Limits} {src : Text} {pos : Nat}
  {s t u : Store} {j : Int} {v : Value} {vs : List Value}

/-! ### Sequences that more text follows -/

/-- Of several sequences with parsers of the text behind them, those that stand at an offset
are refused: their parsers fail behind them, one after the other. -/
inductive Refused (limits : Limits) (src : Text) (pos : Nat) :
    Store → List (Text × Parser) → Store → Prop
  | nil (s : Store) : Refused limits src pos s [] s
  | skip {e : Text × Parser} {es : List (Text × Parser)} {s t : Store}
      (hk : ¬ e.1 <+: src.drop pos) (hs : Refused limits src pos s es t) :
      Refused limits src pos s (e :: es) t
  | fail {e : Text × Parser} {es : List (Text × Parser)} {s t u : Store}
      (hk : e.1 <+: src.drop pos)
      (hp : (e.2.run limits src (pos + e.1.length : Nat)).Replies s none t)
      (hs : Refused limits src pos t es u) : Refused limits src pos s (e :: es) u

/-- A sequence and the text behind it, which is refused or which matches. -/
theorem replies_sequence {p : Parser} {o : Option (Int × Value)} (hpos : pos ≤ src.length)
    (hk : key <+: src.drop pos)
    (hp : (p.run limits src (pos + key.length : Nat)).Replies s o t) :
    (((literal key).andThen p).run limits src pos).Replies s o t := by
  have hkey : ((literal key).run limits src pos).Replies s _ s := replies_literal hpos hk s
  rcases o with _ | ⟨i, v⟩
  · exact replies_andThen_none hkey hp
  · exact replies_andThen hkey hp

theorem Refused.noneMatches {es : List (Text × Parser)} (h : Refused limits src pos s es t)
    (hpos : pos ≤ src.length) :
    NoneMatches limits src pos s (es.map fun e => (literal e.1).andThen e.2) t := by
  induction h with
  | nil s => exact .nil s
  | @skip e es s t hk _ ih =>
      have hkey : (Setting.still src limits s).Settles ((literal e.1).andThen e.2) pos none :=
        .andThen_none_left (.literal_none (.of_le hpos) hk) _
      exact .cons hkey.replies ih
  | fail hk hp _ ih => exact .cons (replies_sequence hpos hk hp) ih

/-! ### What stands behind an escape -/

section

variable (hpos : pos ≤ src.length) (hescape : q.escape <+: src.drop pos)
include hpos hescape

/-- What is left of the text, with the escape in front. -/
theorem restAt_escape : src.RestAt pos (q.escape ++ src.drop (pos + q.escape.length)) := by
  obtain ⟨rest, hdrop⟩ := hescape
  refine ⟨hpos, ?_⟩
  rw [← List.drop_drop, ← hdrop, List.drop_left]

/-- The first fixed sequence that stands behind an escape gives the value. -/
theorem replies_custom {before after : List (Text × Value)}
    (hq : q.customEscapes = before ++ (key, v) :: after)
    (hb : ∀ e ∈ before, ¬ e.1 <+: src.drop (pos + q.escape.length))
    (hk : key <+: src.drop (pos + q.escape.length)) (s : Store) :
    ((contentItem q closing).run limits src pos).Replies s
      (some ((pos + q.escape.length + key.length : Nat), v)) s := by
  have hescaped : (Setting.still src limits s).Settles (escaped q) pos _ :=
    escaped_custom (restAt_escape hpos hescape) hq hb hk
  exact (contentItem_of_escaped hescaped).replies

/-- If no sequence stands behind an escape, the next character stands for itself. -/
theorem replies_other {c : CodePoint}
    (hk : ∀ key ∈ q.keys, ¬ key <+: src.drop (pos + q.escape.length))
    (hc : src[pos + q.escape.length]? = some c) (s : Store) :
    ((contentItem q closing).run limits src pos).Replies s
      (some ((pos + q.escape.length + 1 : Nat), .char c)) s := by
  have hrest := restAt_escape hpos hescape
  rw [← List.head?_drop, List.head?_eq_some_iff] at hc
  obtain ⟨rest, hdrop⟩ := hc
  rw [hdrop] at hrest hk
  have hescaped : (Setting.still src limits s).Settles (escaped q) pos _ :=
    escaped_other hrest hk
  exact (contentItem_of_escaped hescaped).replies

variable (hc : ∀ e ∈ q.customEscapes, ¬ e.1 <+: src.drop (pos + q.escape.length))
include hc

/-- If no fixed sequence stands behind an escape, the first one that stands there and whose
text matches gives the value. -/
theorem replies_advanced {before after : List (Text × Parser)} {p : Parser}
    (hq : q.advancedEscapes = before ++ (key, p) :: after)
    (hb : Refused limits src (pos + q.escape.length) s before t)
    (hk : key <+: src.drop (pos + q.escape.length))
    (hp : (p.run limits src (pos + q.escape.length + key.length : Nat)).Replies t
      (some (j, v)) u) :
    ((contentItem q closing).run limits src pos).Replies s (some (j, v)) u := by
  have hbehind := (restAt_escape hpos hescape).advance
  have hcustoms : NoneMatches limits src _ s _ s := .of_still (customs_none hbehind hc)
  have hothers := hcustoms.append (hb.noneMatches hbehind.le)
  have hescaped : ((escaped q).run limits src pos).Replies s (some (j, v)) u := by
    refine replies_andThen (replies_literal hpos hescape s) ?_
    rw [hq, List.map_append, List.map_cons, ← List.append_assoc, List.append_assoc,
      List.cons_append]
    exact replies_alternatives hothers (replies_sequence hbehind.le hk hp) _
  exact replies_alternatives (.nil s) hescaped _

variable (hs : ∃ e ∈ q.advancedEscapes, e.1 <+: src.drop (pos + q.escape.length))
  (ha : Refused limits src (pos + q.escape.length) s q.advancedEscapes t)
include hs ha

/-- **A refused escape is no character**: neither what it announces, nor the one that it
begins with. -/
theorem replies_refused : ((contentItem q closing).run limits src pos).Replies s none t := by
  have hrest := restAt_escape hpos hescape
  have hbehind := hrest.advance
  obtain ⟨e, he, hstands⟩ := hs
  have hcustoms : NoneMatches limits src _ s _ s := .of_still (customs_none hbehind hc)
  have hother : (Setting.still src limits t).Settles
    (otherEscape (q.advancedEscapes.map Prod.fst))
      (pos + q.escape.length) none :=
    otherEscape_none hbehind ⟨e.1, List.mem_map_of_mem he, hstands⟩
  have hsequences :=
    (hcustoms.append (ha.noneMatches hbehind.le)).append (.cons hother.replies (.nil t))
  have hescaped : ((escaped q).run limits src pos).Replies s none t :=
    replies_andThen_none (replies_literal hpos hescape s)
      (replies_alternatives_none hsequences)
  have hplain :
      (Setting.still src limits t).Settles (plainCharacter closing q.escape) pos none :=
    plainCharacter_none hrest (.inr (List.prefix_append q.escape _))
  exact replies_alternatives_none (.cons hescaped (.cons hplain.replies (.nil t)))

/-- **The contents end in front of a refused escape**, and if the closing quote does not
stand there, there is no string between these quotes. -/
theorem replies_quotedBetween {start : Nat} (hopen : opening <+: src.drop start)
    (hstart : start ≤ src.length)
    (hturns : (contentItem q closing).Turns limits src u
      (start + opening.length : Nat) vs pos s)
    (hrounds : vs.length < limits.rounds) :
    ((contentItem q closing).many.run limits src (start + opening.length : Nat)).Replies u
        (some (pos, .list vs)) t
      ∧ (¬ closing <+: src.drop pos →
        ((quotedBetween q opening closing).run limits src start).Replies u none t) := by
  have hmany := replies_many hturns (replies_refused hpos hescape hc hs ha) hrounds
  refine ⟨hmany, fun hclosing => ?_⟩
  exact replies_map_none (replies_seq_none
    (.cons (replies_literal hstart hopen u) (.cons hmany (.nil t _)))
    (replies_literal_none hpos hclosing t) []) _

end

/-! ### Escapes -/

/-- **What becomes of an escape**, where it stands in the contents of a quoted string. If no
fixed sequence stands behind it, but some sequence that more text follows, and each of these
is refused, it yields no character and the contents end in front of it, so that there is no
string unless the closing quote stands there as well. The first fixed sequence that stands
behind it gives the value. If no sequence stands behind it, the next character stands for
itself. If no fixed sequence stands behind it, the first of the others that stands there and
whose text matches gives the value. -/
theorem escapes_decided (q : Quoting) (closing : Text) (limits : Limits)
    (hpos : pos ≤ src.length) (hescape : q.escape <+: src.drop pos) :
    let item := (contentItem q closing).run limits src pos
    let behind := pos + q.escape.length
    (∀ s t, (∀ e ∈ q.customEscapes, ¬ e.1 <+: src.drop behind) →
        (∃ e ∈ q.advancedEscapes, e.1 <+: src.drop behind) →
        Refused limits src behind s q.advancedEscapes t →
          item.Replies s none t
          ∧ ∀ opening (start : Nat) u vs, opening <+: src.drop start → start ≤ src.length →
            (contentItem q closing).Turns limits src u
              (start + opening.length : Nat) vs pos s →
            vs.length < limits.rounds →
              ((contentItem q closing).many.run limits src
                (start + opening.length : Nat)).Replies u
                  (some (pos, .list vs)) t
                ∧ (¬ closing <+: src.drop pos →
                  ((quotedBetween q opening closing).run limits src start).Replies u none t))
      ∧ (∀ s key v before after, q.customEscapes = before ++ (key, v) :: after →
        (∀ e ∈ before, ¬ e.1 <+: src.drop behind) → key <+: src.drop behind →
          item.Replies s (some ((behind + key.length : Nat), v)) s)
      ∧ (∀ s c, (∀ key ∈ q.keys, ¬ key <+: src.drop behind) → src[behind]? = some c →
        item.Replies s (some ((behind + 1 : Nat), .char c)) s)
      ∧ ∀ s t u key p before after j v, (∀ e ∈ q.customEscapes, ¬ e.1 <+: src.drop behind) →
        q.advancedEscapes = before ++ (key, p) :: after →
        Refused limits src behind s before t → key <+: src.drop behind →
        (p.run limits src (behind + key.length : Nat)).Replies t (some (j, v)) u →
          item.Replies s (some (j, v)) u := by
  refine ⟨fun s t hc hs ha => ⟨?_, ?_⟩, ?_, ?_, ?_⟩
  · exact replies_refused hpos hescape hc hs ha
  · exact fun _ _ _ _ hopen hstart => replies_quotedBetween hpos hescape hc hs ha hopen hstart
  · exact fun s _ _ _ _ hq hb hk => replies_custom hpos hescape hq hb hk s
  · exact fun s _ hk hc => replies_other hpos hescape hk hc s
  · exact fun _ _ _ _ _ _ _ _ _ hc hq hb hk => replies_advanced hpos hescape hc hq hb hk

/-- Two sequences that more text follows, of which one is a prefix of the other. The parser
behind the shorter one is resolved when it is first run, and fails. The first three escapes
yield a fixed value, a character and the text behind the longer sequence; at the last one
both parsers fail, and the contents end in front of it. -/
theorem escapes_decided_prefixes :
    let q : Quoting :=
      ⟨[("<", ">")], "\\", [("n", .text [10])], [("u", lazy 0), ("uz", literal "!")]⟩
    let src : Text := "<\\n\\k\\uz!\\uz?>"
    let limits : Limits := ⟨3, 9⟩
    let item (pos : Nat) := (contentItem q ">").run limits src pos
    let t := ((lazy 0).run limits src (7 : Nat)).after .lists
    (item 1).Replies .lists (some (3, .text [10])) .lists
      ∧ (item 3).Replies .lists (some (5, .char 107)) .lists
      ∧ (item 5).Replies .lists (some (9, .text "!")) t
      ∧ (item 9).Replies t none t
      ∧ ((quotedBetween q "<" ">").run limits src (0 : Nat)).Replies .lists none t := by
  intro q src limits item t
  have hlength : src.length = 14 := rfl
  have hp : (lazy 0).IsLibrary := .lazy (fun _ => IsPlain.isLibrary) 0
  have hs : Store.lists.Admits IsLibrary :=
    Store.lists_admits (fun _ => IsPlain.isLibrary) ⟨id, trivial⟩
  have hrun : ((lazy 0).run limits src (7 : Nat)).exec .lists
      = (.ok (.ofResult none ⟨7, [.text "'['"]⟩), t) := rfl
  have hlazy : ((lazy 0).run limits src (7 : Nat)).Replies .lists none t := .of_run hp hs hrun
  have hlazy' : ((lazy 0).run limits src (11 : Nat)).Replies t none t :=
    ⟨⟨11, [.text "'['"]⟩, ⟨["'['"], rfl⟩, rfl⟩
  have hquery : ((literal "!").run limits src (12 : Nat)).Replies t none t :=
    replies_literal_none (by omega) (by decide) t
  have hbang : ((literal "!").run limits src (8 : Nat)).Replies t (some (9, .text "!")) t :=
    replies_literal (by omega) (by decide) t
  obtain ⟨-, hcustom, -, -⟩ := @escapes_decided src 1 q ">" limits (by omega) (by decide)
  obtain ⟨-, -, hother, -⟩ := @escapes_decided src 3 q ">" limits (by omega) (by decide)
  obtain ⟨-, -, -, hadvanced⟩ := @escapes_decided src 5 q ">" limits (by omega) (by decide)
  obtain ⟨hrefused, -⟩ := @escapes_decided src 9 q ">" limits (by omega) (by decide)
  have hfirst : (item 1).Replies .lists (some (3, .text [10])) .lists :=
    hcustom .lists "n" _ [] [] rfl (List.forall_mem_nil _) (by decide)
  have hsecond : (item 3).Replies .lists (some (5, .char 107)) .lists :=
    hother .lists 107 (by decide) rfl
  have hthird : (item 5).Replies .lists (some (9, .text "!")) t :=
    hadvanced .lists t t "uz" (literal "!") [("u", lazy 0)] [] 9 _ (by decide) rfl
      (.fail (by decide) hlazy (.nil t)) (by decide) hbang
  obtain ⟨hfourth, hends⟩ :=
    hrefused t t (by decide) ⟨("u", lazy 0), List.mem_cons_self, by decide⟩
    (.fail (by decide) hlazy' (.fail (by decide) hquery (.nil t)))
  have hturns : (contentItem q ">").Turns limits src .lists (0 + 1 : Nat)
      [.text [10], .char 107, .text "!"] (9 : Nat) t :=
    .cons hfirst (by decide) (.cons hsecond (by decide) (.cons hthird (by decide) (.nil t 9)))
  obtain ⟨-, hopen⟩ := hends "<" 0 .lists _ (by decide) (Nat.zero_le _) hturns (by decide)
  exact ⟨hfirst, hsecond, hthird, hfourth, hopen (by decide)⟩

end Furthest.Prebuilt
