import Furthest.Checked.Parser
import Furthest.Proofs.CharacterRuns

/-!
# Quoted Strings without Escapes

A quoted string without escapes ends where its closing quote stands first. The parser goes
there one character at a time, and before each character it makes sure that the closing
quote does not stand there. That this is the same as looking for the first occurrence holds
for all quotes, because the decision is made at every offset by itself: a closing quote may
overlap with itself, with the opening quote or with the contents, it may be a single
character or none at all. If it stands nowhere, the parser reads up to the end of the text
and fails there, so that the next pair of quotes gets its turn.

## Main results

* `Checked.rawQuotedString_pairs`: as many closing quotes as opening ones make a parser.
* `Prebuilt.rounds_until`: the contents go up to the first occurrence.
* `Prebuilt.rawQuotedBetween_some`, `Prebuilt.rawQuotedBetween_unclosed`: one pair of
  quotes.
* `Prebuilt.run_rawQuotedString`: **a quoted string without escapes is found by its first
  closing quote.**
-/

namespace Furthest

/-! ### Occurrences -/

namespace Text

variable {src part rest w : Text} {pos start stop : Nat}

/-- A text stands at an offset and, from another offset on, nowhere before it. -/
structure FirstAt (src part : Text) (start stop : Nat) : Prop where
  /-- It is not before the other offset. -/
  le : start ≤ stop
  /-- It stands there. -/
  stands : src.standsAt part stop = true
  /-- It does not stand before. -/
  first : ∀ i, start ≤ i → i < stop → ¬ src.standsAt part i = true

/-- A text that stands at an offset is what is left from there on, up to a rest. -/
theorem exists_restAt_of_standsAt (h : src.standsAt part pos = true) :
    ∃ rest, src.RestAt pos (part ++ rest) := by
  have hle : pos ≤ src.length := by
    rw [standsAt, Bool.and_eq_true, decide_eq_true_iff] at h
    omega
  have hat := RestAt.of_le hle
  rw [hat.standsAt_eq, List.isPrefixOf_iff_prefix] at h
  obtain ⟨rest, hrest⟩ := h
  exact ⟨rest, hle, hrest.symm⟩

/-- What stands somewhere stands somewhere first. -/
theorem exists_firstAt (h : ∃ i, start ≤ i ∧ src.standsAt part i = true) :
    ∃ stop, src.FirstAt part start stop := by
  classical
  obtain ⟨hle, hstands⟩ := Nat.find_spec h
  exact ⟨Nat.find h, hle, hstands, fun i hi hlt hp => Nat.find_min h hlt ⟨hi, hp⟩⟩

/-- What is left at an offset goes on, behind a part of the text, with what is left at a
later one. -/
theorem RestAt.exists_between {rest' : Text} (h : src.RestAt start rest)
    (h' : src.RestAt stop rest') (hle : start ≤ stop) :
    ∃ w : Text, stop = start + w.length ∧ src.RestAt start (w ++ rest') := by
  have hdrop : rest.drop (stop - start) = rest' := by
    rw [← h.drop, List.drop_drop, Nat.add_sub_cancel' hle, h'.drop]
  have hlength := h.length_eq
  have hstop := h'.le
  refine ⟨rest.take (stop - start), ?_, h.le, ?_⟩
  · rw [List.length_take]
    omega
  · rw [h.drop, ← hdrop, List.take_append_drop]

end Text

/-! ### The parser -/

namespace Checked

variable (quotes : List (Text × Text))

theorem quotePairs_texts :
    quotePairs (openingQuotes quotes) (closingQuotes quotes)
      = .ok (quotes.map fun q => (.text q.1, .text q.2)) := by
  have hopening : sized (openingQuotes quotes) = .ok (quotes.map fun q => .text q.1) := rfl
  have hclosing : sized (closingQuotes quotes) = .ok (quotes.map fun q => .text q.2) := rfl
  rw [quotePairs, hopening, hclosing]
  simp [bind, Except.bind, pure, Except.pure, List.zip_map']

theorem mapM_quoteOperand :
    ((quotes.map fun q => (Value.text q.1, Value.text q.2)).mapM fun p => do
      return (← text p.1, ← quoteOperand p.2)) = .ok quotes := by
  induction quotes with
  | nil => rfl
  | cons q quotes ih =>
      rw [List.map_cons, List.mapM_cons, ih]
      rfl

/-- As many closing quotes as opening ones, which are texts, make a parser. -/
theorem rawQuotedString_pairs :
    rawQuotedString (openingQuotes quotes) (closingQuotes quotes)
      = .ok (Prebuilt.rawQuotedString quotes) := by
  have hquotes := mapM_quoteOperand quotes
  rw [rawQuotedString, quotePairs_texts]
  simp only [bind, Except.bind] at hquotes ⊢
  rw [hquotes]
  rfl

end Checked

namespace Prebuilt

open Furthest.Parser

variable {S : Setting} {opening closing w rest : Text} {c : CodePoint} {pos start stop : Nat}

/-- What the contents of a quoted string without escapes consist of: any character at which
the closing quote does not stand. -/
def rawCharacter (closing : Text) : Parser :=
  (notFollowedBy (literal closing) somethingElse).andThen anyChar

theorem rawCharacter_some (h : S.src.RestAt pos (c :: rest))
    (hclosing : ¬ S.src.standsAt closing pos = true) :
    S.Settles (rawCharacter closing) pos (some (pos + 1, .char c)) := by
  rw [h.standsAt_eq, List.isPrefixOf_iff_prefix] at hclosing
  exact .andThen (.notFollowedBy (.literal_none h hclosing) _) (.anyChar h)

/-- The closing quote is no character of the contents. -/
theorem rawCharacter_closing (h : S.src.RestAt pos (closing ++ rest)) :
    S.Settles (rawCharacter closing) pos none :=
  .andThen_none_left (.notFollowedBy_none (.literal h) _) _

/-- At the end there is no character of the contents. -/
theorem rawCharacter_end (h : S.src.RestAt pos []) :
    S.Settles (rawCharacter closing) pos none := by
  by_cases hclosing : closing = []
  · subst hclosing
    have hempty : S.src.RestAt pos ([] ++ []) := h
    exact rawCharacter_closing hempty
  · exact .andThen_none_right (.notFollowedBy (.literal_end h hclosing) _) (.anyChar_none h)

/-- **The contents go up to where the closing quote stands**, character by character. -/
theorem rounds_until (h : S.src.RestAt pos (w ++ rest))
    (hclosing : ∀ i, pos ≤ i → i < pos + w.length → ¬ S.src.standsAt closing i = true) :
    S.Rounds (rawCharacter closing) pos (w.map .char) (pos + w.length) :=
  .characters h fun i _ _ hle hlt _ hat => rawCharacter_some hat (hclosing i hle hlt)

/-- The contents, if they end where there is no further character of them. -/
theorem contents_until (h : S.src.RestAt pos (w ++ rest))
    (hclosing : ∀ i, pos ≤ i → i < pos + w.length → ¬ S.src.standsAt closing i = true)
    (hend : S.Settles (rawCharacter closing) (pos + w.length) none)
    (hrounds : w.length < S.limits.rounds) :
    S.Settles (rawCharacter closing).many pos
      (some (pos + w.length, .list (w.map .char))) := by
  refine .many (rounds_until h hclosing) hend ?_
  rwa [List.length_map]

/-- **Quotes around a text**: its contents end where the closing quote stands first. -/
theorem rawQuotedBetween_some (h : S.src.RestAt pos (opening ++ rest))
    (hclosing : S.src.FirstAt closing (pos + opening.length) stop)
    (hrounds : S.src.length < pos + S.limits.rounds) :
    S.Settles (rawQuotedBetween opening closing) pos
      (some (stop + closing.length,
        .text (S.src.slice (pos + opening.length : Nat) stop))) := by
  obtain ⟨hle, hstands, hfirst⟩ := hclosing
  obtain ⟨rest', hclose⟩ := Text.exists_restAt_of_standsAt hstands
  obtain ⟨w, rfl, hcontents⟩ := h.advance.exists_between hclose hle
  have hlength := hcontents.length_eq
  rw [List.length_append] at hlength
  have hmany := contents_until hcontents hfirst (rawCharacter_closing hclose) (by omega)
  have hrow : S.Row [literal opening, (rawCharacter closing).many, literal closing] pos
      [.text opening, .list (w.map .char), .text closing] _ :=
    .cons (.literal h) (.cons hmany (.cons (.literal hclose) (.nil _)))
  rw [hcontents.slice_eq]
  exact (Setting.Settles.seq hrow).map (joinValues_map_char w)

/-- If the closing quote stands nowhere behind the opening one, the contents go up to the
end, and there is no quoted string. -/
theorem rawQuotedBetween_unclosed (h : S.src.RestAt pos (opening ++ rest))
    (hclosing : ¬ ∃ i, pos + opening.length ≤ i ∧ S.src.standsAt closing i = true)
    (hrounds : S.src.length < pos + S.limits.rounds) :
    S.Settles (rawQuotedBetween opening closing) pos none := by
  have hcontents := h.advance
  have hend := hcontents.finish
  have hlength := hcontents.length_eq
  have hnone : ¬ S.src.standsAt closing (pos + opening.length + rest.length : Nat) = true :=
    fun hp => hclosing ⟨_, Nat.le_add_right _ _, hp⟩
  rw [← List.append_nil rest] at hcontents
  have hmany := contents_until hcontents (fun i hi _ hp => hclosing ⟨i, hi, hp⟩)
    (rawCharacter_end hend) (by omega)
  have hrow : S.Row [literal opening, (rawCharacter closing).many] pos
      [.text opening, .list (rest.map .char)] _ := .cons (.literal h) (.cons hmany (.nil _))
  rw [hend.standsAt_eq, List.isPrefixOf_iff_prefix] at hnone
  exact (Setting.Settles.seq_none hrow (.literal_none hend hnone) []).map_none _

/-- Where the opening quote does not stand, there is no quoted string. -/
theorem rawQuotedBetween_unopened (hpos : pos ≤ S.src.length)
    (h : ¬ S.src.standsAt opening pos = true) :
    S.Settles (rawQuotedBetween opening closing) pos none := by
  have hrest := Text.RestAt.of_le hpos
  rw [hrest.standsAt_eq, List.isPrefixOf_iff_prefix] at h
  exact (Setting.Settles.seq_none (.nil pos) (.literal_none hrest h) _).map_none _

/-! ### Pairs of quotes -/

/-- A pair of quotes stands around a text: the opening one at an offset, and the closing one
somewhere behind it. -/
def Encloses (src : Text) (pos : Nat) (q : Text × Text) : Prop :=
  src.standsAt q.1 pos = true
    ∧ ∃ i, pos + q.1.length ≤ i ∧ src.standsAt q.2 i = true

/-- Quotes that stand around no text do not match. -/
theorem rawQuotedBetween_none {q : Text × Text} (hpos : pos ≤ S.src.length)
    (h : ¬ Encloses S.src pos q) (hrounds : S.src.length < pos + S.limits.rounds) :
    S.Settles (rawQuotedBetween q.1 q.2) pos none := by
  by_cases hopen : S.src.standsAt q.1 pos = true
  · obtain ⟨rest, hrest⟩ := Text.exists_restAt_of_standsAt hopen
    exact rawQuotedBetween_unclosed hrest (fun hclosing => h ⟨hopen, hclosing⟩) hrounds
  · exact rawQuotedBetween_unopened hpos hopen

/-- No pair of quotes that stands around a text, no match. -/
theorem rawQuotedBetween_all_none {quotes : List (Text × Text)} (hpos : pos ≤ S.src.length)
    (h : ∀ q ∈ quotes, ¬ Encloses S.src pos q)
    (hrounds : S.src.length < pos + S.limits.rounds) :
    ∀ p ∈ quotes.map fun q => rawQuotedBetween q.1 q.2, S.Settles p pos none := by
  rw [List.forall_mem_map]
  exact fun q hq => rawQuotedBetween_none hpos (h q hq) hrounds

/-- **The first pair of quotes that stands around a text** gives the value. -/
theorem rawQuotedString_some {before after : List (Text × Text)} {q : Text × Text}
    (hpos : pos ≤ S.src.length) (hbefore : ∀ q ∈ before, ¬ Encloses S.src pos q)
    (hopen : S.src.standsAt q.1 pos = true)
    (hclosing : S.src.FirstAt q.2 (pos + q.1.length) stop)
    (hrounds : S.src.length < pos + S.limits.rounds) :
    S.Settles (rawQuotedString (before ++ q :: after)) pos
      (some (stop + q.2.length, .text (S.src.slice (pos + q.1.length : Nat) stop))) := by
  obtain ⟨rest, hrest⟩ := Text.exists_restAt_of_standsAt hopen
  rw [rawQuotedString, List.map_append, List.map_cons]
  exact .alternatives (rawQuotedBetween_all_none hpos hbefore hrounds)
    (rawQuotedBetween_some hrest hclosing hrounds) _

/-- If there is a pair of quotes that stands around a text, there is a first one. -/
theorem exists_first_encloses {quotes : List (Text × Text)} {src : Text}
    (h : ∃ q ∈ quotes, Encloses src pos q) :
    ∃ before q after, quotes = before ++ q :: after ∧ (∀ p ∈ before, ¬ Encloses src pos p)
      ∧ Encloses src pos q := by
  induction quotes with
  | nil => simp at h
  | cons p ps ih =>
      by_cases hp : Encloses src pos p
      · exact ⟨[], p, ps, rfl, List.forall_mem_nil _, hp⟩
      · obtain ⟨before, q, after, rfl, hbefore, hq⟩ := ih (by simpa [hp] using h)
        exact ⟨p :: before, q, after, rfl, List.forall_mem_cons.mpr ⟨hp, hbefore⟩, hq⟩

/-- **A quoted string without escapes is found by its first closing quote.** For all pairs
of quotes, a run at any offset of a text replies and leaves the store as it is. It is a
match exactly if some pair stands around a text there: its opening quote stands at the
offset and its closing quote somewhere behind it. The first such pair decides. Its contents
end where the closing quote stands first, the match ends behind it, and the value is the
text between the quotes. The limits allow for one round of the contents for each character
that is left, and one more. -/
theorem run_rawQuotedString (quotes : List (Text × Text)) {src : Text}
    (hpos : pos ≤ src.length) {limits : Limits} (hrounds : src.length < pos + limits.rounds)
    (store : Store) :
    Checked.rawQuotedString (Checked.openingQuotes quotes) (Checked.closingQuotes quotes)
        = .ok (rawQuotedString quotes)
      ∧ ∃ r, ((rawQuotedString quotes).run limits src pos).exec store = (.ok r, store)
        ∧ (r.isSuccess = true ↔ ∃ q ∈ quotes, Encloses src pos q)
        ∧ ∀ before q after stop, quotes = before ++ q :: after →
          (∀ q ∈ before, ¬ Encloses src pos q) → src.standsAt q.1 pos = true →
          src.FirstAt q.2 (pos + q.1.length) stop →
            ∃ record, r = .success (stop + q.2.length : Nat)
              (.text (src.slice (pos + q.1.length : Nat) stop)) record := by
  refine ⟨Checked.rawQuotedString_pairs quotes, ?_⟩
  obtain ⟨r, hexec, hiff⟩ : ∃ r, ((rawQuotedString quotes).run limits src pos).exec store
    = (.ok r, store)
      ∧ (r.isSuccess = true ↔ ∃ q ∈ quotes, Encloses src pos q) := by
    by_cases h : ∃ q ∈ quotes, Encloses src pos q
    · obtain ⟨before, q, after, rfl, hbefore, hopen, hclose⟩ := exists_first_encloses h
      obtain ⟨stop, hstop⟩ := Text.exists_firstAt hclose
      have hsettles : (Setting.still src limits store).Settles
          (rawQuotedString (before ++ q :: after)) pos _ :=
        rawQuotedString_some hpos hbefore hopen hstop hrounds
      obtain ⟨l, hexec⟩ := hsettles.exec_still
      exact ⟨_, hexec, iff_of_true rfl h⟩
    · have hnone : ∀ q ∈ quotes, ¬ Encloses src pos q := fun q hq he => h ⟨q, hq, he⟩
      have hsettles : (Setting.still src limits store).Settles
        (rawQuotedString quotes) pos none :=
        .alternatives_none (rawQuotedBetween_all_none hpos hnone hrounds)
      obtain ⟨l, hexec⟩ := hsettles.exec_still
      exact ⟨_, hexec, iff_of_false Bool.false_ne_true h⟩
  refine ⟨r, hexec, hiff, ?_⟩
  rintro before q after stop rfl hbefore hopen hstop
  have hsettles : (Setting.still src limits store).Settles
      (rawQuotedString (before ++ q :: after)) pos _ :=
    rawQuotedString_some hpos hbefore hopen hstop hrounds
  obtain ⟨l, hexec'⟩ := hsettles.exec_still
  rw [hexec] at hexec'
  exact ⟨l.record, Except.ok.inj (Prod.mk.inj hexec').1⟩

/-- A pair that is not closed, and one behind it that begins with the same character and
whose closing quote overlaps with itself. -/
theorem run_rawQuotedString_overlapping :
    let quotes : List (Text × Text) := [("<", ">"), ("<a", "aab")]
    let src : Text := "x<aaaab."
    1 ≤ src.length ∧ src.length < 1 + 8
      ∧ ¬ Encloses src 1 ("<", ">") ∧ Encloses src 1 ("<a", "aab") ∧ src.FirstAt "aab" 3 4
      ∧ ∃ record, ((rawQuotedString quotes).run ⟨0, 8⟩ src (1 : Nat)).exec .empty
          = (.ok (.success 7 (.text "a") record), .empty) := by
  intro quotes src
  have hpos : 1 ≤ src.length := by decide
  have hrounds : src.length < 1 + (⟨0, 8⟩ : Limits).rounds := by decide
  have hfirst : ¬ Encloses src 1 ("<", ">") := by
    rintro ⟨-, i, hi, hstands⟩
    obtain ⟨rest, hrest⟩ := Text.exists_restAt_of_standsAt hstands
    have hmem : 62 ∈ src.drop i := hrest.drop ▸ List.mem_cons_self
    exact absurd (List.mem_of_mem_drop hmem) (by decide)
  have hstop : src.FirstAt "aab" 3 4 := by
    refine ⟨by decide, rfl, fun i hi hlt => ?_⟩
    obtain rfl : i = 3 := by omega
    decide
  have hsecond : Encloses src 1 ("<a", "aab") := ⟨rfl, 4, by decide, rfl⟩
  obtain ⟨-, r, hexec, -, hr⟩ := run_rawQuotedString quotes hpos hrounds .empty
  obtain ⟨record, rfl⟩ := hr [("<", ">")] ("<a", "aab") [] 4 rfl
    (List.forall_mem_singleton.mpr hfirst)
    rfl hstop
  exact ⟨hpos, hrounds, hfirst, hsecond, hstop, record, hexec⟩

end Prebuilt

end Furthest
