import Furthest.Proofs.PatternRuns
import Furthest.Proofs.Quoting

/-!
# The Grammar of Quoted Strings

What the parser of quoted strings with the general quoting accepts, stated against a
grammar. A sentence is a quote, items of contents, and the same quote; an item is a plain
character, a control character by its letter, a character by its hexadecimal number, or an
escaped character.

The grammar is unambiguous: no item is a prefix of another, and none starts with the quote.
So it is enough to know what the parser does at one offset, which is to match the item there
or to fail if there is none, to know that it ends the contents where every derivation ends
them.

## Main results

* `StringItem.unique`, `StringSentence.unique`: the grammar is unambiguous.
* `Prebuilt.contentItem_general`: the parser of contents matches an item if there is one.
* `Prebuilt.run_quotedString_iff`: **quoted strings are the sentences of the grammar**, and
  their values are what the sentences mean.
-/

namespace Furthest

/-! ### The grammar -/

/-- The letters that stand for control characters behind a backslash: `b` for the backspace,
`f` for the form feed, `n` for the line feed, `r` for the carriage return and `t` for the
tab. -/
def controlLetters : List (CodePoint × CodePoint) :=
  [(98, 8), (102, 12), (110, 10), (114, 13), (116, 9)]

/-- An item of the contents between two quotes, and the character that it means. The
backslash has the number 92, and the letter `u` the number 117. -/
inductive StringItem (quote : CodePoint) : Text → CodePoint → Prop
  /-- A character that is neither the quote nor a backslash stands for itself. -/
  | plain {c : CodePoint} (hquote : c ≠ quote) (hescape : c ≠ 92) : StringItem quote [c] c
  /-- A control character, by its letter. -/
  | control {letter c : CodePoint} (h : (letter, c) ∈ controlLetters) :
      StringItem quote [92, letter] c
  /-- A character, by its number in four hexadecimal digits. -/
  | unicode {digits : Text} (hlen : digits.length = 4)
      (hdigits : ∀ d ∈ digits, d ∈ Charset.hexadecimal) :
      StringItem quote (92 :: 117 :: digits) (Text.positionalValue 16 digits)
  /-- Any other character behind a backslash stands for itself. -/
  | escaped {c : CodePoint} (h : c ∉ ("bfnrtu" : Text)) : StringItem quote [92, c] c

/-- The contents between two quotes, and the text that they mean. -/
inductive StringContents (quote : CodePoint) : Text → Text → Prop
  | nil : StringContents quote [] []
  | cons {w t s : Text} {c : CodePoint} (h : StringItem quote w c)
      (ht : StringContents quote t s) :
      StringContents quote (w ++ t) (c :: s)

/-- A sentence, and the text that it means: contents between two double quotes or between
two single quotes. -/
inductive StringSentence : Text → Text → Prop
  | intro {quote : CodePoint} (hq : quote ∈ ("\"'" : Text)) {w s : Text}
      (h : StringContents quote w s) : StringSentence (quote :: (w ++ [quote])) s

/-! ### It is unambiguous -/

/-- No item of the contents is part of the rest. -/
def NoItem (quote : CodePoint) (rest : Text) : Prop :=
  ∀ w c, StringItem quote w c → ¬ w <+: rest

namespace StringItem

variable {quote : CodePoint} {w w' r r' : Text} {c c' : CodePoint}

/-- An item has a first character, which is not the quote. -/
theorem exists_cons (h : StringItem quote w c) (hq : quote ≠ 92) :
    ∃ d t, w = d :: t ∧ d ≠ quote := by
  cases h with
  | plain hquote _ => exact ⟨_, _, rfl, hquote⟩
  | control _ => exact ⟨_, _, rfl, hq.symm⟩
  | unicode _ _ => exact ⟨_, _, rfl, hq.symm⟩
  | escaped _ => exact ⟨_, _, rfl, hq.symm⟩

/-- The letters of control characters are among those that do not stand for themselves. -/
theorem letter_mem {letter : CodePoint} (h : (letter, c) ∈ controlLetters) :
    letter ∈ ("bfnrtu" : Text) ∧ letter ≠ 117 := by
  have hall : ∀ e ∈ controlLetters, e.1 ∈ ("bfnrtu" : Text) ∧ e.1 ≠ 117 := by decide
  exact hall _ h

/-- A letter stands for one control character. -/
theorem control_unique {letter : CodePoint} (h : (letter, c) ∈ controlLetters)
    (h' : (letter, c') ∈ controlLetters) : c = c' := by
  have hall : ∀ e ∈ controlLetters, ∀ e' ∈ controlLetters, e.1 = e'.1 → e.2 = e'.2 := by decide
  exact hall _ h _ h' rfl

/-- **No item is a prefix of another.** -/
theorem unique (h : StringItem quote w c) (h' : StringItem quote w' c')
    (he : w ++ r = w' ++ r') : w = w' ∧ c = c' := by
  cases h with
  | plain hquote hescape =>
      cases h' with
      | plain _ _ =>
          obtain ⟨rfl, -⟩ := List.cons.inj he
          exact ⟨rfl, rfl⟩
      | control _ | unicode _ _ | escaped _ => exact absurd (List.cons.inj he).1 hescape
  | control hletter =>
      cases h' with
      | plain _ hescape => exact absurd (List.cons.inj he).1.symm hescape
      | control hletter' =>
          obtain ⟨rfl, -⟩ := List.cons.inj (List.cons.inj he).2
          exact ⟨rfl, control_unique hletter hletter'⟩
      | unicode _ _ =>
          exact absurd (List.cons.inj (List.cons.inj he).2).1 (letter_mem hletter).2
      | escaped hc =>
          obtain ⟨rfl, -⟩ := List.cons.inj (List.cons.inj he).2
          exact absurd (letter_mem hletter).1 hc
  | unicode hlen _ =>
      cases h' with
      | plain _ hescape => exact absurd (List.cons.inj he).1.symm hescape
      | control hletter =>
          exact absurd (List.cons.inj (List.cons.inj he).2).1.symm (letter_mem hletter).2
      | unicode hlen' _ =>
          have hrest := (List.cons.inj (List.cons.inj he).2).2
          obtain ⟨rfl, -⟩ := List.append_inj hrest (hlen.trans hlen'.symm)
          exact ⟨rfl, rfl⟩
      | escaped hc =>
          obtain ⟨rfl, -⟩ := List.cons.inj (List.cons.inj he).2
          exact absurd (by decide) hc
  | escaped hc =>
      cases h' with
      | plain _ hescape => exact absurd (List.cons.inj he).1.symm hescape
      | control hletter =>
          obtain ⟨rfl, -⟩ := List.cons.inj (List.cons.inj he).2
          exact absurd (letter_mem hletter).1 hc
      | unicode _ _ =>
          obtain ⟨rfl, -⟩ := List.cons.inj (List.cons.inj he).2
          exact absurd (by decide) hc
      | escaped _ =>
          obtain ⟨rfl, -⟩ := List.cons.inj (List.cons.inj he).2
          exact ⟨rfl, rfl⟩

end StringItem

/-- Where the quote stands, there is no item. -/
theorem NoItem.quote {quote : CodePoint} (hq : quote ≠ 92) (rest : Text) :
    NoItem quote (quote :: rest) := by
  intro w c h hp
  obtain ⟨d, t, rfl, hd⟩ := h.exists_cons hq
  exact hd (List.cons_prefix_cons.mp hp).1

namespace StringContents

variable {quote : CodePoint} {w w' s s' r r' : Text}

/-- **Contents that go on as long as there are items are unambiguous.** -/
theorem unique (h : StringContents quote w s) (h' : StringContents quote w' s')
    (hr : NoItem quote r) (hr' : NoItem quote r') (he : w ++ r = w' ++ r') :
    w = w' ∧ s = s' := by
  induction h generalizing w' s' with
  | nil =>
      cases h' with
      | nil => exact ⟨rfl, rfl⟩
      | @cons v t _ c hi _ =>
          refine absurd ?_ (hr v c hi)
          rw [← List.nil_append r, he, List.append_assoc]
          exact List.prefix_append v _
  | @cons v t s c hi _ ih =>
      cases h' with
      | nil =>
          refine absurd ?_ (hr' v c hi)
          rw [← List.nil_append r', ← he, List.append_assoc]
          exact List.prefix_append v _
      | cons hi' ht' =>
          rw [List.append_assoc, List.append_assoc] at he
          obtain ⟨rfl, rfl⟩ := hi.unique hi' he
          obtain ⟨rfl, rfl⟩ := ih ht' (List.append_cancel_left he)
          exact ⟨rfl, rfl⟩

/-- Every item has a character at least. -/
theorem length_le (hq : quote ≠ 92) (h : StringContents quote w s) : s.length ≤ w.length := by
  induction h with
  | nil => exact le_rfl
  | cons hi _ ih =>
      obtain ⟨d, t, rfl, -⟩ := hi.exists_cons hq
      rw [List.length_cons, List.length_append, List.length_cons]
      omega

end StringContents

/-- The quotes are no backslashes. -/
theorem ne_escape_of_mem {quote : CodePoint} (h : quote ∈ ("\"'" : Text)) : quote ≠ 92 := by
  have hall : ∀ quote ∈ ("\"'" : Text), quote ≠ 92 := by decide
  exact hall quote h

/-- **A text starts with one sentence at most**, which has one meaning. -/
theorem StringSentence.unique {w w' s s' rest : Text} (h : StringSentence w s)
    (h' : StringSentence w' s') (hp : w <+: rest) (hp' : w' <+: rest) : w = w' ∧ s = s' := by
  obtain ⟨r, rfl⟩ := hp
  obtain ⟨r', he⟩ := hp'
  cases h with
  | @intro quote hq t s h =>
  cases h' with
  | @intro quote' hq' t' s' h' =>
      rw [List.cons_append, List.cons_append] at he
      obtain ⟨rfl, he⟩ := List.cons.inj he
      have hne := ne_escape_of_mem hq
      rw [List.append_assoc, List.append_assoc] at he
      obtain ⟨rfl, rfl⟩ := h.unique h' (.quote hne r) (.quote hne r') he.symm
      exact ⟨rfl, rfl⟩

/-- Contents can be read off any text, as long as there are items. -/
theorem exists_stringContents {quote : CodePoint} (hq : quote ≠ 92) (rest : Text) :
    ∃ w s r, StringContents quote w s ∧ rest = w ++ r ∧ NoItem quote r := by
  induction hn : rest.length using Nat.strongRecOn generalizing rest with
  | ind n ih =>
      by_cases h : ∃ w c, StringItem quote w c ∧ w <+: rest
      · obtain ⟨w, c, hi, t, rfl⟩ := h
        have hlt : t.length < n := by
          obtain ⟨d, v, rfl, -⟩ := hi.exists_cons hq
          rw [← hn, List.length_append, List.length_cons]
          omega
        obtain ⟨v, s, r, hs, rfl, hr⟩ := ih t.length hlt t rfl
        exact ⟨w ++ v, c :: s, r, .cons hi hs, (List.append_assoc w v r).symm, hr⟩
      · exact ⟨[], [], rest, .nil, rfl, fun w c hi hp => h ⟨w, c, hi, hp⟩⟩

namespace Prebuilt

open Furthest.Parser

variable {S : Setting} {quote c : CodePoint} {pos : Nat} {w s rest : Text}

/-! ### Escapes -/

/-- A sequence of one letter stands before a text that starts with it. -/
theorem prefix_cons_iff {letter : CodePoint} : [letter] <+: c :: rest ↔ letter = c := by
  rw [List.cons_prefix_cons]
  exact and_iff_left List.nil_prefix

/-- The fixed sequences are the letters of control characters. -/
theorem generalEscapes_eq : generalEscapes = controlLetters.map fun e => ([e.1], .char e.2) :=
  rfl

/-- A character that is no such letter starts none of the fixed sequences. -/
theorem not_prefix_generalEscapes (hc : ∀ d, (c, d) ∉ controlLetters) :
    ∀ e ∈ generalQuoting.customEscapes, ¬ e.1 <+: c :: rest := by
  change ∀ e ∈ generalEscapes, _
  rw [generalEscapes_eq, List.forall_mem_map]
  rintro ⟨letter, d⟩ hmem hp
  obtain rfl := prefix_cons_iff.mp hp
  exact hc d hmem

/-- A letter behind a backslash that stands for a control character. -/
theorem escaped_control (h : S.src.RestAt pos (92 :: c :: rest)) {d : CodePoint}
    (hc : (c, d) ∈ controlLetters) :
    S.Settles (escaped generalQuoting) pos (some (pos + 2, .char d)) := by
  obtain ⟨before, after, hsplit⟩ := List.append_of_mem hc
  have hnodup : (controlLetters.map Prod.fst).Nodup := by decide
  rw [hsplit, List.map_append, List.map_cons] at hnodup
  have hq : generalQuoting.customEscapes = before.map (fun e => ([e.1], .char e.2))
      ++ ([c], .char d) :: after.map fun e => ([e.1], .char e.2) := by
    change generalEscapes = _
    rw [generalEscapes_eq, hsplit, List.map_append, List.map_cons]
  have h : S.src.RestAt pos (generalQuoting.escape ++ c :: rest) := h
  refine escaped_custom h hq ?_ (prefix_cons_iff.mpr rfl)
  rw [List.forall_mem_map]
  rintro ⟨letter, d'⟩ hmem hp
  obtain rfl := prefix_cons_iff.mp hp
  exact List.disjoint_of_nodup_append hnodup (List.mem_map_of_mem hmem) List.mem_cons_self

/-- The letter `u` is not among the fixed sequences. -/
theorem letter_u (d : CodePoint) : (117, d) ∉ controlLetters :=
  fun h => (StringItem.letter_mem h).2 rfl

section

variable (hsrc : S.src.length < Text.offsetLimit)
include hsrc

/-- A character by its number. -/
theorem escaped_unicode {digits : Text} (h : S.src.RestAt pos (92 :: 117 :: (digits ++ rest)))
    (hlen : digits.length = 4) (hd : ∀ d ∈ digits, d ∈ Charset.hexadecimal) :
    S.Settles (escaped generalQuoting) pos
      (some (pos + 6, .char (Text.positionalValue 16 digits))) := by
  have hmatch := Regex.Pattern.hexQuad_some hsrc h.next.next hlen hd
  have hnumber : S.Settles unicodeEscape (pos + 2)
      (some (pos + 6, .char (Text.positionalValue 16 digits))) := by
    rw [unicodeEscape, Regex.Pattern.ofPattern_hexQuad]
    exact ((Setting.Settles.regex hmatch).desc _).map rfl
  have h : S.src.RestAt pos (generalQuoting.escape ++ 117 :: (digits ++ rest)) := h
  have hq : generalQuoting.advancedEscapes = [] ++ ([117], unicodeEscape) :: [] := rfl
  exact escaped_advanced h (not_prefix_generalEscapes letter_u) hq (List.forall_mem_nil _)
    (prefix_cons_iff.mpr rfl) hnumber

/-- **A bad number is no other escape either.** -/
theorem escaped_unicode_none (h : S.src.RestAt pos (92 :: 117 :: rest))
    (hn : ∀ digits : Text, digits.length = 4 → (∀ d ∈ digits, d ∈ Charset.hexadecimal) →
      ¬ digits <+: rest) : S.Settles (escaped generalQuoting) pos none := by
  have hmatch := Regex.Pattern.hexQuad_none hsrc h.next.next hn
  have hnumber : S.Settles unicodeEscape (pos + 2) none := by
    rw [unicodeEscape, Regex.Pattern.ofPattern_hexQuad]
    exact ((Setting.Settles.regex_none hmatch).desc_none _).map_none _
  have h : S.src.RestAt pos (generalQuoting.escape ++ 117 :: rest) := h
  refine escaped_refused h (not_prefix_generalEscapes letter_u)
    ⟨_, List.mem_cons_self, prefix_cons_iff.mpr rfl⟩ ?_
  exact List.forall_mem_singleton.mpr fun _ => hnumber

end

/-- A character without a meaning of its own behind a backslash. -/
theorem escaped_general (h : S.src.RestAt pos (92 :: c :: rest)) (hc : c ∉ ("bfnrtu" : Text)) :
    S.Settles (escaped generalQuoting) pos (some (pos + 2, .char c)) := by
  refine escaped_other (q := generalQuoting) h ?_
  have hkeys : ∀ key ∈ generalQuoting.keys, ∃ letter ∈ ("bfnrtu" : Text), key = [letter] := by
    decide
  intro key hkey hp
  obtain ⟨letter, hletter, rfl⟩ := hkeys key hkey
  obtain rfl := prefix_cons_iff.mp hp
  exact hc hletter

/-! ### Contents -/

/-- **Where an item stands, the parser of contents matches it.** -/
theorem contentItem_some (hsrc : S.src.length < Text.offsetLimit) (hi : StringItem quote w c)
    (h : S.src.RestAt pos (w ++ rest)) :
    S.Settles (contentItem generalQuoting [quote]) pos (some (pos + w.length, .char c)) := by
  cases hi with
  | plain hquote hescape =>
      have hescaped : S.Settles (escaped generalQuoting) pos none :=
        escaped_none h fun hp => hescape (prefix_cons_iff.mp hp).symm
      refine contentItem_of_plain hescaped (plainCharacter_some h ?_ ?_)
      · exact fun hp => hquote (prefix_cons_iff.mp hp).symm
      · exact fun hp => hescape (prefix_cons_iff.mp hp).symm
  | control hc => exact contentItem_of_escaped (escaped_control h hc)
  | unicode hlen hd =>
      have hescaped := escaped_unicode hsrc h hlen hd
      rw [List.length_cons, List.length_cons, hlen]
      exact contentItem_of_escaped hescaped
  | escaped hc => exact contentItem_of_escaped (escaped_general h hc)

/-- A letter that has a meaning of its own behind a backslash. -/
theorem mem_letters (hc : c ∈ ("bfnrtu" : Text)) : c = 117 ∨ ∃ d, (c, d) ∈ controlLetters := by
  have hall : ∀ c ∈ ("bfnrtu" : Text), c = 117 ∨ ∃ e ∈ controlLetters, c = e.1 := by decide
  refine (hall c hc).imp_right ?_
  rintro ⟨e, he, rfl⟩
  exact ⟨e.2, he⟩

/-- **Where no item stands, the parser of contents fails.** -/
theorem contentItem_refused (hsrc : S.src.length < Text.offsetLimit) (hn : NoItem quote rest)
    (h : S.src.RestAt pos rest) :
    S.Settles (contentItem generalQuoting [quote]) pos none := by
  cases rest with
  | nil =>
      have hescaped : S.Settles (escaped generalQuoting) pos none :=
        escaped_none h fun hp => List.cons_ne_nil _ _ (List.prefix_nil.mp hp)
      exact contentItem_none hescaped
        (plainCharacter_end h (List.cons_ne_nil _ _) (List.cons_ne_nil _ _))
  | cons d rest =>
      by_cases hd : d = 92
      · subst hd
        have hstands : generalQuoting.escape <+: 92 :: rest := prefix_cons_iff.mpr rfl
        refine contentItem_none ?_ (plainCharacter_none h (.inr hstands))
        cases rest with
        | nil => exact escaped_end (q := generalQuoting) h (by decide)
        | cons c rest =>
            have hletter : c ∈ ("bfnrtu" : Text) := by
              by_contra hc
              exact hn _ c (.escaped hc) (List.prefix_append [92, c] rest)
            rcases mem_letters hletter with rfl | ⟨d, hc⟩
            · refine escaped_unicode_none hsrc h fun digits hlen hdigits hp => ?_
              refine hn _ _ (.unicode hlen hdigits) ?_
              exact List.cons_prefix_cons.mpr ⟨rfl, List.cons_prefix_cons.mpr ⟨rfl, hp⟩⟩
            · exact absurd (List.prefix_append [92, c] rest) (hn _ d (.control hc))
      · have hescaped : S.Settles (escaped generalQuoting) pos none :=
          escaped_none h fun hp => hd (prefix_cons_iff.mp hp).symm
        have hquote : d = quote := by
          by_contra hquote
          exact hn _ d (.plain hquote hd) (List.prefix_append [d] rest)
        exact contentItem_none hescaped
          (plainCharacter_none h (.inl (prefix_cons_iff.mpr hquote.symm)))

/-- Contents are matched item by item. -/
theorem rounds_contents (hq : quote ≠ 92) (hsrc : S.src.length < Text.offsetLimit)
    (hw : StringContents quote w s) (h : S.src.RestAt pos (w ++ rest)) :
    S.Rounds (contentItem generalQuoting [quote]) pos (s.map .char) (pos + w.length) := by
  induction hw generalizing pos with
  | nil => exact .nil pos
  | @cons v t s c hi _ ih =>
      rw [List.append_assoc] at h
      have hne : pos + v.length ≠ pos := by
        obtain ⟨d, u, rfl, -⟩ := hi.exists_cons hq
        rw [List.length_cons]
        omega
      rw [List.length_append, ← Nat.add_assoc]
      exact .cons (contentItem_some hsrc hi h) hne (ih h.advance)

/-! ### Quoted strings -/

section

variable (hq : quote ≠ 92) (hsrc : S.src.length < Text.offsetLimit)
include hq hsrc

/-- A sentence between two quotes. -/
theorem quotedBetween_general (hw : StringContents quote w s)
    (h : S.src.RestAt pos (quote :: (w ++ [quote]) ++ rest))
    (hrounds : S.src.length ≤ pos + S.limits.rounds) :
    S.Settles (quotedBetween generalQuoting [quote] [quote]) pos
      (some (pos + (quote :: (w ++ [quote])).length, .text s)) := by
  have hlen := h.length_eq
  rw [List.cons_append, List.append_assoc] at h
  have hclose : S.src.RestAt (pos + 1 + w.length) ([quote] ++ rest) := h.next.advance
  have hend := contentItem_refused hsrc (.quote hq rest) hclose
  have hlimit : s.length < S.limits.rounds := by
    have := hw.length_le hq
    simp only [List.length_append, List.length_cons, List.length_nil] at hlen
    omega
  have hbetween : S.Settles (quotedBetween generalQuoting [quote] [quote]) pos
      (some (pos + 1 + w.length + 1, .text s)) :=
    quotedBetween_some h (rounds_contents hq hsrc hw h.next) hend hlimit hclose
  have hindex : pos + (quote :: (w ++ [quote])).length = pos + 1 + w.length + 1 := by
    rw [List.length_cons, List.length_append, List.length_singleton]
    omega
  rw [hindex]
  exact hbetween

/-- No sentence between two quotes. -/
theorem quotedBetween_refused (h : S.src.RestAt pos rest)
    (hn : ∀ w s, StringContents quote w s → ¬ quote :: (w ++ [quote]) <+: rest)
    (hrounds : S.src.length ≤ pos + S.limits.rounds) :
    S.Settles (quotedBetween generalQuoting [quote] [quote]) pos none := by
  by_cases hopen : [quote] <+: rest
  · obtain ⟨t, rfl⟩ := hopen
    obtain ⟨w, s, r, hw, rfl, hr⟩ := exists_stringContents hq t
    rw [List.singleton_append] at h
    have hlen := h.length_eq
    have hlimit : s.length < S.limits.rounds := by
      have := hw.length_le hq
      simp only [List.length_append, List.length_cons] at hlen
      omega
    have hrest : S.src.RestAt (pos + 1 + w.length) r := h.next.advance
    have hclose : ¬ [quote] <+: r := by
      rintro ⟨r', rfl⟩
      refine hn w s hw ⟨r', ?_⟩
      simp only [List.cons_append, List.append_assoc, List.nil_append]
    exact quotedBetween_open h (rounds_contents hq hsrc hw h.next)
      (contentItem_refused hsrc hr hrest) hlimit hrest hclose
  · exact quotedBetween_none h hopen

end

section

variable (hsrc : S.src.length < Text.offsetLimit)
  (hrounds : S.src.length ≤ pos + S.limits.rounds)
include hsrc hrounds

/-- **A sentence is matched, and its value is what it means.** -/
theorem quotedString_sentence (hw : StringSentence w s) (h : S.src.RestAt pos (w ++ rest)) :
    S.Settles (quotedString generalQuoting) pos (some (pos + w.length, .text s)) := by
  cases hw with
  | @intro quote hquote w s hw =>
      have hq := ne_escape_of_mem hquote
      have hbetween := quotedBetween_general hq hsrc hw h hrounds
      rcases List.mem_cons.mp hquote with rfl | hquote
      · exact .alternatives_head hbetween _
      · obtain rfl := List.mem_singleton.mp hquote
        have hdouble : S.Settles (quotedBetween generalQuoting [34] [34]) pos none :=
          quotedBetween_none h fun hp => absurd (prefix_cons_iff.mp hp) (by decide)
        exact .alternatives (List.forall_mem_singleton.mpr hdouble) hbetween []

/-- Where no sentence stands, there is no match. -/
theorem quotedString_refused (hn : ∀ w s, StringSentence w s → ¬ w <+: rest)
    (h : S.src.RestAt pos rest) : S.Settles (quotedString generalQuoting) pos none := by
  have hbetween : ∀ quote ∈ ("\"'" : Text),
      S.Settles (quotedBetween generalQuoting [quote] [quote]) pos none := by
    intro quote hquote
    refine quotedBetween_refused (ne_escape_of_mem hquote) hsrc h (fun w s hw => ?_) hrounds
    exact hn _ s (.intro hquote hw)
  refine .alternatives_none (List.forall_mem_cons.mpr ⟨hbetween 34 (by decide), ?_⟩)
  exact List.forall_mem_singleton.mpr (hbetween 39 (by decide))

end

/-- **Quoted strings are the sentences of the grammar.** With the general quoting, a run at
any offset of a text replies and leaves the store as it is. It is a match exactly if what is
left starts with a sentence. Then there is only one such sentence; the match ends behind it,
and its value is what the sentence means. The text is not longer than offsets can tell, and
the limits allow for one round of the contents for each character that is left. -/
theorem run_quotedString_iff {src : Text} {pos : Nat} (hpos : pos ≤ src.length)
    (hsrc : src.length < Text.offsetLimit) {limits : Limits}
    (hrounds : src.length ≤ pos + limits.rounds) (store : Store) :
    ∃ r, ((quotedString generalQuoting).run limits src pos).exec store = (.ok r, store)
      ∧ (r.isSuccess = true ↔ ∃ w s, StringSentence w s ∧ w <+: src.drop pos)
      ∧ ∀ w s, StringSentence w s → w <+: src.drop pos →
          (∀ w' s', StringSentence w' s' → w' <+: src.drop pos → w' = w ∧ s' = s)
            ∧ ∃ record, r = .success (pos + w.length : Nat) (.text s) record := by
  let S := Setting.still src limits store
  by_cases h : ∃ w s, StringSentence w s ∧ w <+: src.drop pos
  · obtain ⟨w, s, hw, hp⟩ := h
    obtain ⟨rest, hrest⟩ := hp
    have hat : S.src.RestAt pos (w ++ rest) := ⟨hpos, hrest.symm⟩
    obtain ⟨l, hexec⟩ := (quotedString_sentence (S := S) hsrc hrounds hw hat).exec_still
    have hprefix : w <+: src.drop pos := ⟨rest, hrest⟩
    refine ⟨_, hexec, iff_of_true rfl ⟨w, s, hw, hprefix⟩, fun w' s' hw' hp' => ?_⟩
    obtain ⟨rfl, rfl⟩ := hw'.unique hw hp' hprefix
    exact ⟨fun v t hv hpv => hv.unique hw hpv hprefix, l.record, rfl⟩
  · push Not at h
    have hat : S.src.RestAt pos (src.drop pos) := .of_le hpos
    obtain ⟨l, hexec⟩ := (quotedString_refused (S := S) hsrc hrounds h hat).exec_still
    refine ⟨_, hexec, iff_of_false Bool.false_ne_true ?_, fun w s hw hp =>
      absurd hp (h w s hw)⟩
    rintro ⟨w, s, hw, hp⟩
    exact h w s hw hp

/-- A string with an item of each kind, behind a character and before another. -/
theorem run_quotedString_mixed :
    let src : Text := "x\"a\\u0041\\n\\\"'\"y"
    let w : Text := "\"a\\u0041\\n\\\"'\""
    let s : Text := "aA\n\"'"
    1 ≤ src.length ∧ src.length < Text.offsetLimit ∧ src.length ≤ 1 + 15
      ∧ StringSentence w s ∧ w <+: src.drop 1
      ∧ ∃ record, ((quotedString generalQuoting).run ⟨0, 15⟩ src (1 : Nat)).exec .empty
          = (.ok (.success 15 (.text s) record), .empty) := by
  intro src w s
  have hw : StringSentence w s := by
    refine @StringSentence.intro 34 (by decide) "a\\u0041\\n\\\"'" _ ?_
    refine .cons (w := "a") (.plain (by decide) (by decide)) ?_
    refine .cons (w := "\\u0041") (@StringItem.unicode _ "0041" rfl (by decide)) ?_
    refine .cons (w := "\\n") (.control (by decide)) ?_
    refine .cons (w := "\\\"") (.escaped (by decide)) ?_
    exact .cons (w := "'") (.plain (by decide) (by decide)) .nil
  have hpos : 1 ≤ src.length := by decide
  have hsrc : (src.length : Int) < Text.offsetLimit := by decide
  have hrounds : src.length ≤ 1 + (⟨0, 15⟩ : Limits).rounds := by decide
  have hp : w <+: src.drop 1 := ⟨"y", rfl⟩
  obtain ⟨r, hexec, -, hr⟩ := run_quotedString_iff hpos hsrc hrounds .empty
  obtain ⟨-, record, rfl⟩ := hr w s hw hp
  exact ⟨hpos, hsrc, hrounds, hw, hp, record, hexec⟩

end Prebuilt

end Furthest
