import Furthest.Prebuilt.Characters
import Furthest.Proofs.Outcomes

/-!
# Runs of Characters

What the parsers of characters of a set do, one at a time and joined into a text. A run of
characters ends where the set does: it takes all the characters of the set that stand at an
offset, so that what is left does not start with another one of them.

## Main results

* `Prebuilt.digitsOf_some`: the text of a run.
* `Prebuilt.digitsOf_none`: where there is no run.
* `Setting.Rounds.characters`: a parser that matches each character of a text.
* `joinValues_map_char`: characters are joined into the text that they were taken from.
-/

namespace Furthest

/-- The characters of a text, joined, are the text. -/
theorem joinValues_map_char (t : Text) :
    joinValues (.list (t.map .char)) = pure (.text t) := by
  have hjoin : ∀ t : Text, Text.join [] (t.map ([·])) = t := by
    intro t
    induction t with
    | nil => rfl
    | cons c t ih =>
        cases t with
        | nil => rfl
        | cons d t => exact congrArg (c :: ·) ih
  have htexts : t.map Value.char = (t.map ([·])).map .text := by
    rw [List.map_map]
    rfl
  rw [joinValues, Value.items, htexts, Value.joined_map_text, hjoin]
  rfl

/-- What is left of a text does not start with a character of a set. -/
def Text.NotLedBy (chars rest : Text) : Prop := ∀ c, rest.head? = some c → c ∉ chars

theorem Text.notLedBy_nil (chars : Text) : Text.NotLedBy chars [] := fun _ h => nomatch h

theorem Text.notLedBy_cons {chars rest : Text} {c : CodePoint} (hc : c ∉ chars) :
    Text.NotLedBy chars (c :: rest) := by
  rintro d ⟨⟩
  exact hc

/-- Behind the characters that pass a test, there is not another one. -/
theorem Text.not_holds_head_dropWhile {holds : CodePoint → Bool} {t : Text} {c : CodePoint}
    (hc : (t.dropWhile holds).head? = some c) : holds c = false := by
  have hhead := List.head?_dropWhile_not holds t
  rwa [hc] at hhead

/-- Behind the characters of a set that a text starts with, there is not another one. -/
theorem Text.notLedBy_dropWhile (chars t : Text) :
    Text.NotLedBy chars (t.dropWhile (· ∈ chars)) :=
  fun _ hc => of_decide_eq_false (not_holds_head_dropWhile hc)

theorem Text.mem_of_mem_takeWhile {chars t : Text} {c : CodePoint}
    (hc : c ∈ t.takeWhile (· ∈ chars)) : c ∈ chars :=
  of_decide_eq_true (List.all_eq_true.mp List.all_takeWhile c hc)

/-- A text is a run of characters of a set and a rest that does not start with another
one. -/
theorem Text.exists_notLedBy (chars t : Text) :
    ∃ w rest, t = w ++ rest ∧ (∀ c ∈ w, c ∈ chars) ∧ Text.NotLedBy chars rest :=
  ⟨_, _, List.takeWhile_append_dropWhile.symm, fun _ => Text.mem_of_mem_takeWhile,
    Text.notLedBy_dropWhile chars t⟩

/-- **A parser that matches each character of a text matches them one after the other.** -/
theorem Setting.Rounds.characters {S : Setting} {p : Parser} {w rest : Text} {pos : Nat}
    (h : S.src.RestAt pos (w ++ rest))
    (hp : ∀ i c t, pos ≤ i → i < pos + w.length → c ∈ w → S.src.RestAt i (c :: t) →
      S.Settles p i (some (i + 1, .char c))) :
    S.Rounds p pos (w.map .char) (pos + w.length) := by
  induction w generalizing pos with
  | nil => exact .nil pos
  | cons c w ih =>
      have hlength : pos + (c :: w).length = pos + 1 + w.length := by
        rw [List.length_cons]
        omega
      rw [hlength] at hp ⊢
      have hfirst := hp pos c (w ++ rest) le_rfl (by omega) List.mem_cons_self h
      refine .cons hfirst (by omega) (ih h.next fun i d t hle hlt hd => ?_)
      exact hp i d t (by omega) hlt (List.mem_cons_of_mem c hd)

namespace Prebuilt

open Furthest.Parser

variable {S : Setting} {chars w rest : Text} {c : CodePoint} {pos : Nat}

theorem memberOf_some (h : S.src.RestAt pos (c :: rest)) (hc : c ∈ chars) :
    S.Settles (memberOf chars) pos (some (pos + 1, .char c)) :=
  .charTest h _ (decide_eq_true hc)

theorem memberOf_none (h : S.src.RestAt pos rest) (hrest : Text.NotLedBy chars rest) :
    S.Settles (memberOf chars) pos none :=
  .charTest_none h _ fun c hc => decide_eq_false (hrest c hc)

/-- The characters of a text are matched one after the other. -/
theorem rounds_memberOf (h : S.src.RestAt pos (w ++ rest)) (hw : ∀ c ∈ w, c ∈ chars)
    (label : Text) :
    S.Rounds ((memberOf chars).desc label) pos (w.map .char) (pos + w.length) :=
  .characters h fun _ c _ _ _ hc hat => (memberOf_some hat (hw c hc)).desc label

variable (label : Text)

/-- **A run takes all the characters of the set**, at least one. -/
theorem digitsOf_some (h : S.src.RestAt pos (w ++ rest)) (hne : w ≠ [])
    (hw : ∀ c ∈ w, c ∈ chars) (hrest : Text.NotLedBy chars rest)
    (hrounds : S.src.length < S.limits.rounds) :
    S.Settles (digitsOf (memberOf chars) label) pos (some (pos + w.length, .text w)) := by
  obtain ⟨c, w, rfl⟩ := List.exists_cons_of_ne_nil hne
  rw [List.forall_mem_cons] at hw
  have hlength := h.length_eq
  rw [List.cons_append, List.length_cons, List.length_append] at hlength
  have hend := h.advance
  have hstop : pos + (c :: w).length = pos + 1 + w.length := by
    rw [List.length_cons]
    omega
  rw [hstop] at hend ⊢
  have hfirst : S.Rounds ((memberOf chars).desc label) pos [.char c] (pos + 1) :=
    .cons ((memberOf_some h hw.1).desc label) (by omega) (.nil _)
  have hcount : (w.map Value.char).length < S.limits.rounds := by
    rw [List.length_map]
    omega
  have hrun := Setting.Settles.atLeast hfirst (rounds_memberOf h.next hw.2 label)
    ((memberOf_none hend hrest).desc_none label) hcount
  exact hrun.map (joinValues_map_char (c :: w))

/-- Without a character of the set there is no run. -/
theorem digitsOf_none (h : S.src.RestAt pos rest) (hrest : Text.NotLedBy chars rest) :
    S.Settles (digitsOf (memberOf chars) label) pos none := by
  have hend := (memberOf_none h hrest).desc_none label
  exact (Setting.Settles.atLeast_none (.nil pos) hend Nat.one_pos).map_none _

end Prebuilt

end Furthest
