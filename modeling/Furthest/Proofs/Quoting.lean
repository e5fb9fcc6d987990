import Furthest.Prebuilt.Quoted
import Furthest.Proofs.CharacterRuns

/-!
# Quoted Strings

What the parts of a quoted string do, for all quotes and escapes. At every offset of the
contents the parser decides afresh what stands there: an escape, the closing quote or a
plain character. Behind an escape the sequences with a meaning of their own are tried in
order, and only if none of those that are followed by more text stands there, the next
character stands for itself.

That contents come back as they were is shown for texts in which every character that a
closing quote or an escape could begin with has been escaped. Nothing is assumed of quotes
and escapes but that their first characters tell them apart, so that it can be decided by
one character what stands at an offset, whichever parts of quotes and escapes the text
holds.

## Main results

* `Prebuilt.escaped_custom`, `Prebuilt.escaped_advanced`, `Prebuilt.escaped_refused`,
  `Prebuilt.escaped_other`: what becomes of an escape.
* `Prebuilt.rounds_encoded`: the contents of an encoded text are its characters.
* `Prebuilt.parse_quotedString_encode`: **quoting undoes escaping.**
-/

namespace Furthest

/-- A text that starts with another character does not stand here. -/
theorem Text.not_prefix_cons {t rest : Text} {c : CodePoint} (ht : t ≠ [])
    (hc : t.head? ≠ some c) :
    ¬ t <+: c :: rest := by
  cases t with
  | nil => exact absurd rfl ht
  | cons d t =>
      rw [List.cons_prefix_cons]
      rintro ⟨rfl, -⟩
      exact hc rfl

/-- The sequences that an escape may announce. -/
def Quoting.keys (q : Quoting) : List Text :=
  q.customEscapes.map Prod.fst ++ q.advancedEscapes.map Prod.fst

namespace Prebuilt

open Furthest.Parser

variable {S : Setting} {q : Quoting}
  {opening closing escape key rest rest' : Text} {c : CodePoint} {pos i j : Nat} {v : Value}

/-! ### Behind an escape -/

/-- A sequence with a fixed value that does not stand here. -/
theorem custom_none (h : S.src.RestAt pos rest) (hk : ¬ key <+: rest) (v : Value) :
    S.Settles ((literal key).result v) pos none :=
  (Setting.Settles.literal_none h hk).map_none _

/-- A sequence with more text that does not stand here, or whose text is refused. -/
theorem advanced_none (h : S.src.RestAt pos rest) {p : Parser}
    (hk : key <+: rest → S.Settles p (pos + key.length) none) :
    S.Settles ((literal key).andThen p) pos none := by
  by_cases hkey : key <+: rest
  · obtain ⟨rest', rfl⟩ := hkey
    exact .andThen_none_right (.literal h) (hk (List.prefix_append key rest'))
  · exact .andThen_none_left (.literal_none h hkey) _

/-- No fixed sequence stands here. -/
theorem customs_none (h : S.src.RestAt pos rest) {customs : List (Text × Value)}
    (hc : ∀ e ∈ customs, ¬ e.1 <+: rest) :
    ∀ p ∈ customs.map fun e => (literal e.1).result e.2, S.Settles p pos none := by
  rw [List.forall_mem_map]
  exact fun e he => custom_none h (hc e he) e.2

/-- No sequence with more text stands here, or its text is refused. -/
theorem advanceds_none (h : S.src.RestAt pos rest) {advanced : List (Text × Parser)}
    (ha : ∀ e ∈ advanced, e.1 <+: rest → S.Settles e.2 (pos + e.1.length) none) :
    ∀ p ∈ advanced.map fun e => (literal e.1).andThen e.2, S.Settles p pos none := by
  rw [List.forall_mem_map]
  exact fun e he => advanced_none h (ha e he)

/-- None of several texts stands here. -/
theorem literals_none (h : S.src.RestAt pos rest) {keys : List Text}
    (hk : ∀ key ∈ keys, ¬ key <+: rest) :
    S.Settles (alternatives (keys.map literal)) pos none := by
  refine .alternatives_none ?_
  rw [List.forall_mem_map]
  exact fun key hkey => .literal_none h (hk key hkey)

/-- One of several texts stands here. -/
theorem literals_some (h : S.src.RestAt pos rest) {keys : List Text}
    (hk : ∃ key ∈ keys, key <+: rest) :
    ∃ i v, S.Settles (alternatives (keys.map literal)) pos (some (i, v)) := by
  obtain ⟨key, hmem, hkey⟩ := hk
  have hsome : (keys.find? fun key => key.isPrefixOf rest).isSome := by
    rw [List.find?_isSome]
    exact ⟨key, hmem, List.isPrefixOf_iff_prefix.mpr hkey⟩
  obtain ⟨first, hfirst⟩ := Option.isSome_iff_exists.mp hsome
  obtain ⟨hstands, before, after, rfl, hbefore⟩ := List.find?_eq_some_iff_append.mp hfirst
  obtain ⟨rest', rfl⟩ := List.isPrefixOf_iff_prefix.mp hstands
  refine ⟨pos + first.length, .text first, ?_⟩
  rw [List.map_append, List.map_cons]
  refine .alternatives ?_ (.literal h) _
  rw [List.forall_mem_map]
  intro key hkey
  refine .literal_none h fun hp => ?_
  have hb := hbefore key hkey
  rw [List.isPrefixOf_iff_prefix.mpr hp] at hb
  cases hb

/-- Any other character stands for itself. -/
theorem otherEscape_some (h : S.src.RestAt pos (c :: rest)) {keys : List Text}
    (hk : ∀ key ∈ keys, ¬ key <+: c :: rest) :
    S.Settles (otherEscape keys) pos (some (pos + 1, .char c)) := by
  simp only [otherEscape]
  split
  · exact .anyChar h
  · exact .andThen (.notFollowedBy (literals_none h hk) _) (.anyChar h)

/-- A sequence with more text is no other character. -/
theorem otherEscape_none (h : S.src.RestAt pos rest) {keys : List Text}
    (hk : ∃ key ∈ keys, key <+: rest) : S.Settles (otherEscape keys) pos none := by
  obtain ⟨i, v, hl⟩ := literals_some h hk
  have hne : ¬ keys.isEmpty = true := by
    obtain ⟨key, hmem, -⟩ := hk
    rw [List.isEmpty_iff]
    exact List.ne_nil_of_mem hmem
  rw [otherEscape, if_neg hne]
  exact .andThen_none_left (.notFollowedBy_none hl _) _

/-- At the end there is no other character. -/
theorem otherEscape_end (h : S.src.RestAt pos []) (keys : List Text) :
    S.Settles (otherEscape keys) pos none := by
  by_cases hk : ∃ key ∈ keys, key <+: []
  · exact otherEscape_none h hk
  · push Not at hk
    simp only [otherEscape]
    split
    · exact .anyChar_none h
    · exact .andThen_none_right (.notFollowedBy (literals_none h hk) _) (.anyChar_none h)

/-! ### Escapes -/

theorem escaped_none (h : S.src.RestAt pos rest) (he : ¬ q.escape <+: rest) :
    S.Settles (escaped q) pos none := .andThen_none_left (.literal_none h he) _

section

variable (h : S.src.RestAt pos (q.escape ++ rest))
include h

/-- The first fixed sequence that stands behind an escape gives the value. -/
theorem escaped_custom {before after : List (Text × Value)}
    (hq : q.customEscapes = before ++ (key, v) :: after) (hb : ∀ e ∈ before, ¬ e.1 <+: rest)
    (hk : key <+: rest) :
    S.Settles (escaped q) pos (some (pos + q.escape.length + key.length, v)) := by
  have ht := h.advance
  obtain ⟨rest', rfl⟩ := hk
  have hkey : S.Settles ((literal key).result v) _ _ := (Setting.Settles.literal ht).map rfl
  refine .andThen (.literal h) ?_
  rw [hq, List.map_append, List.map_cons, List.append_assoc, List.append_assoc,
    List.cons_append]
  exact .alternatives (customs_none ht hb) hkey _

variable (hc : ∀ e ∈ q.customEscapes, ¬ e.1 <+: rest)
include hc

/-- If no fixed sequence stands behind an escape, the first sequence with more text that
stands there and whose text matches gives the value. -/
theorem escaped_advanced {before after : List (Text × Parser)} {p : Parser}
    (hq : q.advancedEscapes = before ++ (key, p) :: after)
    (hb : ∀ e ∈ before, e.1 <+: rest → S.Settles e.2 (pos + q.escape.length + e.1.length) none)
    (hk : key <+: rest)
    (hp : S.Settles p (pos + q.escape.length + key.length) (some (j, v))) :
    S.Settles (escaped q) pos (some (j, v)) := by
  have ht := h.advance
  obtain ⟨rest', rfl⟩ := hk
  have hkey : S.Settles ((literal key).andThen p) _ _ := .andThen (.literal ht) hp
  refine .andThen (.literal h) ?_
  rw [hq, List.map_append, List.map_cons, List.append_assoc, List.append_assoc,
    List.cons_append, ← List.append_assoc]
  refine .alternatives ?_ hkey _
  rw [List.forall_mem_append]
  exact ⟨customs_none ht hc, advanceds_none ht hb⟩

/-- **A sequence with more text whose text is refused is no other escape either.** -/
theorem escaped_refused (hs : ∃ e ∈ q.advancedEscapes, e.1 <+: rest)
    (ha : ∀ e ∈ q.advancedEscapes, e.1 <+: rest →
      S.Settles e.2 (pos + q.escape.length + e.1.length) none) :
    S.Settles (escaped q) pos none := by
  have ht := h.advance
  obtain ⟨e, he, hstands⟩ := hs
  refine .andThen_none_right (.literal h) (.alternatives_none ?_)
  rw [List.forall_mem_append, List.forall_mem_append, List.forall_mem_singleton]
  refine ⟨⟨customs_none ht hc, advanceds_none ht ha⟩, otherEscape_none ht ?_⟩
  exact ⟨e.1, List.mem_map_of_mem he, hstands⟩

end

/-- If no sequence stands behind an escape, the next character stands for itself. -/
theorem escaped_other (h : S.src.RestAt pos (q.escape ++ c :: rest))
    (hk : ∀ key ∈ q.keys, ¬ key <+: c :: rest) :
    S.Settles (escaped q) pos (some (pos + q.escape.length + 1, .char c)) := by
  have ht := h.advance
  rw [Quoting.keys, List.forall_mem_append, List.forall_mem_map, List.forall_mem_map] at hk
  refine .andThen (.literal h) (.alternatives ?_ (otherEscape_some ht ?_) [])
  · rw [List.forall_mem_append]
    exact ⟨customs_none ht hk.1, advanceds_none ht fun e he hp => absurd hp (hk.2 e he)⟩
  · rw [List.forall_mem_map]
    exact hk.2

/-- An escape at the end announces nothing. -/
theorem escaped_end (h : S.src.RestAt pos q.escape) (hk : ∀ key ∈ q.keys, key ≠ []) :
    S.Settles (escaped q) pos none := by
  rw [← List.append_nil q.escape] at h
  have ht := h.advance
  have hnone : ∀ key ∈ q.keys, ¬ key <+: [] := by
    intro key hkey
    rw [List.prefix_nil]
    exact hk key hkey
  rw [Quoting.keys, List.forall_mem_append, List.forall_mem_map, List.forall_mem_map] at hnone
  refine .andThen_none_right (.literal h) (.alternatives_none ?_)
  rw [List.forall_mem_append, List.forall_mem_append, List.forall_mem_singleton]
  exact ⟨⟨customs_none ht hnone.1, advanceds_none ht fun e he hp => absurd hp (hnone.2 e he)⟩,
    otherEscape_end ht _⟩

/-! ### Plain characters -/

/-- Where neither the closing quote nor an escape stands, a character stands for itself. -/
theorem plainCharacter_some (h : S.src.RestAt pos (c :: rest)) (hc : ¬ closing <+: c :: rest)
    (he : ¬ escape <+: c :: rest) :
    S.Settles (plainCharacter closing escape) pos (some (pos + 1, .char c)) := by
  have hl : S.Settles (alternatives ([closing, escape].map literal)) pos none := by
    refine literals_none h ?_
    rw [List.forall_mem_cons, List.forall_mem_singleton]
    exact ⟨hc, he⟩
  exact .andThen (.notFollowedBy hl _) (.anyChar h)

theorem plainCharacter_none (h : S.src.RestAt pos rest)
    (hs : closing <+: rest ∨ escape <+: rest) :
    S.Settles (plainCharacter closing escape) pos none := by
  have hk : ∃ key ∈ [closing, escape], key <+: rest := by
    rcases hs with hs | hs
    · exact ⟨closing, List.mem_cons_self, hs⟩
    · exact ⟨escape, List.mem_cons_of_mem _ List.mem_cons_self, hs⟩
  obtain ⟨i, v, hl⟩ := literals_some h hk
  exact .andThen_none_left (.notFollowedBy_none hl _) _

theorem plainCharacter_end (h : S.src.RestAt pos []) (hc : closing ≠ []) (he : escape ≠ []) :
    S.Settles (plainCharacter closing escape) pos none := by
  have hl : S.Settles (alternatives ([closing, escape].map literal)) pos none := by
    refine literals_none h ?_
    rw [List.forall_mem_cons, List.forall_mem_singleton, List.prefix_nil, List.prefix_nil]
    exact ⟨hc, he⟩
  exact .andThen_none_right (.notFollowedBy hl _) (.anyChar_none h)

/-! ### Contents -/

/-- What the contents of a quoted string consist of. -/
def contentItem (q : Quoting) (closing : Text) : Parser :=
  alternatives [escaped q, plainCharacter closing q.escape]

theorem contentItem_of_escaped (h : S.Settles (escaped q) pos (some (i, v))) :
    S.Settles (contentItem q closing) pos (some (i, v)) :=
  .alternatives_head h _

theorem contentItem_of_plain (h : S.Settles (escaped q) pos none)
    (hp : S.Settles (plainCharacter closing q.escape) pos (some (i, v))) :
    S.Settles (contentItem q closing) pos (some (i, v)) :=
  .alternatives (List.forall_mem_singleton.mpr h) hp []

theorem contentItem_none (h : S.Settles (escaped q) pos none)
    (hp : S.Settles (plainCharacter closing q.escape) pos none) :
    S.Settles (contentItem q closing) pos none :=
  .alternatives_none (List.forall_mem_cons.mpr ⟨h, List.forall_mem_singleton.mpr hp⟩)

/-- The repetition of the contents, each of which is a character. -/
theorem contents_some {t : Text} (hr : S.Rounds (contentItem q closing) i (t.map .char) j)
    (hend : S.Settles (contentItem q closing) j none) (ht : t.length < S.limits.rounds) :
    S.Settles (contentItem q closing).many i (some (j, .list (t.map .char))) :=
  .many hr hend (by rwa [List.length_map])

section

variable {t : Text} (h : S.src.RestAt pos (opening ++ rest))
  (hr : S.Rounds (contentItem q closing) (pos + opening.length) (t.map .char) j)
  (hend : S.Settles (contentItem q closing) j none) (ht : t.length < S.limits.rounds)
include h hr hend ht

/-- A quoted string whose contents end at the closing quote. -/
theorem quotedBetween_some (hclose : S.src.RestAt j (closing ++ rest')) :
    S.Settles (quotedBetween q opening closing) pos (some (j + closing.length, .text t)) := by
  have hrow : S.Row [literal opening, (contentItem q closing).many, literal closing] pos
      [.text opening, .list (t.map .char), .text closing] (j + closing.length) :=
    .cons (.literal h) (.cons (contents_some hr hend ht) (.cons (.literal hclose) (.nil _)))
  exact (Setting.Settles.seq hrow).map (joinValues_map_char t)

/-- A quoted string whose contents end elsewhere. -/
theorem quotedBetween_open (hrest : S.src.RestAt j rest') (hclose : ¬ closing <+: rest') :
    S.Settles (quotedBetween q opening closing) pos none := by
  have hrow : S.Row [literal opening, (contentItem q closing).many] pos
      [.text opening, .list (t.map .char)] j :=
    .cons (.literal h) (.cons (contents_some hr hend ht) (.nil _))
  exact (Setting.Settles.seq_none hrow (.literal_none hrest hclose) []).map_none _

end

/-- Where the opening quote does not stand, there is no quoted string. -/
theorem quotedBetween_none (h : S.src.RestAt pos rest) (ho : ¬ opening <+: rest) :
    S.Settles (quotedBetween q opening closing) pos none :=
  (Setting.Settles.seq_none (.nil pos) (.literal_none h ho) _).map_none _

end Prebuilt

/-! ### Escaping -/

namespace Quoting

/-- The closing quote, the escape and what it may announce can be told apart by their first
characters. -/
structure IsClear (q : Quoting) (closing : Text) : Prop where
  /-- There is a closing quote. -/
  closing_ne : closing ≠ []
  /-- There is an escape. -/
  escape_ne : q.escape ≠ []
  /-- They have different first characters. -/
  head_ne : q.escape.head? ≠ closing.head?
  /-- What an escape may announce starts with neither of them. -/
  keys : ∀ key ∈ q.keys, key ≠ [] ∧ key.head? ≠ q.escape.head? ∧ key.head? ≠ closing.head?

/-- A character as it is written in a quoted string: behind an escape, if the closing quote
or an escape could begin with it. -/
def encodeChar (q : Quoting) (closing : Text) (c : CodePoint) : Text :=
  if closing.head? = some c ∨ q.escape.head? = some c then q.escape ++ [c] else [c]

/-- A text as it is written in a quoted string. -/
def encode (q : Quoting) (closing s : Text) : Text := s.flatMap (q.encodeChar closing)

end Quoting

namespace Prebuilt

open Furthest.Parser

variable {S : Setting} {q : Quoting} {closing rest : Text} {c : CodePoint} {pos : Nat}

/-- **A character that is written in a quoted string is read back**, whatever follows. -/
theorem contentItem_encoded (hq : q.IsClear closing)
    (h : S.src.RestAt pos (q.encodeChar closing c ++ rest)) :
    S.Settles (contentItem q closing) pos
      (some (pos + (q.encodeChar closing c).length, .char c)) := by
  by_cases hc : closing.head? = some c ∨ q.escape.head? = some c
  · rw [Quoting.encodeChar, if_pos hc] at h ⊢
    rw [List.append_assoc, List.singleton_append] at h
    rw [List.length_append, List.length_singleton, ← Nat.add_assoc]
    refine contentItem_of_escaped (escaped_other h ?_)
    intro key hkey
    obtain ⟨hne, hescape, hclosing⟩ := hq.keys key hkey
    refine Text.not_prefix_cons hne fun hhead => ?_
    rcases hc with hc | hc
    · exact hclosing (hhead.trans hc.symm)
    · exact hescape (hhead.trans hc.symm)
  · rw [Quoting.encodeChar, if_neg hc] at h ⊢
    have hclosing : ¬ closing <+: c :: rest :=
      Text.not_prefix_cons hq.closing_ne fun hhead => hc (.inl hhead)
    have hescape : ¬ q.escape <+: c :: rest :=
      Text.not_prefix_cons hq.escape_ne fun hhead => hc (.inr hhead)
    exact contentItem_of_plain (escaped_none h hescape)
      (plainCharacter_some h hclosing hescape)

/-- The contents of a text that is written in a quoted string are its characters. -/
theorem rounds_encoded (hq : q.IsClear closing) {s : Text}
    (h : S.src.RestAt pos (q.encode closing s ++ rest)) :
    S.Rounds (contentItem q closing) pos (s.map .char)
      (pos + (q.encode closing s).length) := by
  induction s generalizing pos with
  | nil => exact .nil pos
  | cons c s ih =>
      have henc : q.encode closing (c :: s) = q.encodeChar closing c ++ q.encode closing s :=
        List.flatMap_cons
      rw [henc, List.append_assoc] at h
      have hpos : (q.encodeChar closing c).length ≠ 0 := by
        rw [Quoting.encodeChar]
        split
        · rw [List.length_append, List.length_singleton]
          omega
        · exact Nat.one_ne_zero
      rw [henc, List.length_append, ← Nat.add_assoc]
      exact .cons (contentItem_encoded hq h) (by omega) (ih h.advance)

/-- The closing quote ends the contents. -/
theorem contentItem_closing (hq : q.IsClear closing) (h : S.src.RestAt pos (closing ++ rest)) :
    S.Settles (contentItem q closing) pos none := by
  have hstands : closing <+: closing ++ rest := List.prefix_append closing rest
  have hescape : ¬ q.escape <+: closing ++ rest := by
    have hne := hq.head_ne
    cases hclosing : closing with
    | nil => exact absurd hclosing hq.closing_ne
    | cons d ds =>
        rw [hclosing] at hne
        exact Text.not_prefix_cons hq.escape_ne hne
  exact contentItem_none (escaped_none h hescape) (plainCharacter_none h (.inl hstands))

/-- **Quoting undoes escaping.** A text, written with an escape before every character that
the closing quote or the escape could begin with, and put between the quotes, is parsed as
that text, for all quotes and escapes that can be told apart by their first characters. The
parsers of sequences with more text are never run, and the store stays what it is. -/
theorem parse_quotedString_encode {opening : Text} (hquotes : q.quotes = [(opening, closing)])
    (hq : q.IsClear closing) (s : Text) {limits : Limits} (hs : s.length < limits.rounds)
    (store : Store) :
    ((quotedString q).parse limits (opening ++ q.encode closing s ++ closing)).exec store
      = (.ok (.value (.text s)), store) := by
  let S := Setting.still (opening ++ q.encode closing s ++ closing) limits store
  have hsrc : opening ++ q.encode closing s ++ closing
      = opening ++ (q.encode closing s ++ (closing ++ [])) := by
    rw [List.append_nil, List.append_assoc]
  have hopen : S.src.RestAt 0 (opening ++ (q.encode closing s ++ (closing ++ []))) :=
    ⟨Nat.zero_le _, hsrc⟩
  have hcontents := hopen.advance
  have hclose := hcontents.advance
  have hbetween : S.Settles (quotedBetween q opening closing) 0 _ :=
    quotedBetween_some hopen (rounds_encoded hq hcontents)
      (contentItem_closing hq hclose) hs hclose
  have hend := hclose.advance.length_eq
  rw [List.length_nil, Nat.add_zero] at hend
  rw [hend] at hbetween
  have hstring : S.Settles (quotedString q) 0 (some (S.src.length, .text s)) := by
    rw [quotedString, hquotes]
    exact .alternatives_head hbetween _
  exact hstring.parse_still

/-- Quotes like those of a comment, with two slashes as the escape. The text holds parts of
both. -/
theorem parse_quotedString_encode_slashes :
    let q : Quoting := ⟨[("/*", "*/")], "//", [("n", .text [10])], [("u", unicodeEscape)]⟩
    let s : Text := "a*/nu"
    q.IsClear "*/" ∧ s.length < 6 ∧ q.encode "*/" s = "a//*///nu"
      ∧ ((quotedString q).parse ⟨0, 6⟩ "/*a//*///nu*/").exec .empty
          = (.ok (.value (.text s)), .empty) := by
  intro q s
  have hq : q.IsClear "*/" := by
    refine ⟨by decide, by decide, by decide, ?_⟩
    decide
  have hquotes : q.quotes = [(("/*" : Text), ("*/" : Text))] := rfl
  have hs : s.length < (⟨0, 6⟩ : Limits).rounds := by decide
  exact ⟨hq, hs, rfl, parse_quotedString_encode hquotes hq s hs .empty⟩

end Prebuilt

end Furthest
