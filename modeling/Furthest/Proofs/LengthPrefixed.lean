import Furthest.Checked.Parser
import Furthest.Proofs.DecimalRuns

/-!
# Length-Prefixed Texts

Texts that stand one after the other, each behind its length and a colon. The parser that
reads a text is made of the length that has been read, so that the text may consist of any
characters: those of a length, colons and line feeds are not taken for the start of another
text.

What a text is written as is read back with the same rest behind it, whatever the rest is.
From this it follows by induction on the texts that all of them are, each one as one round
of the repetition.

## Main definitions

* `Text.framed`: a text behind its length.
* `LengthPrefixed.frame`: the grammar of one text.

## Main results

* `LengthPrefixed.settles_frame`: a text is cut off at its length.
* `LengthPrefixed.rounds_frames`: one round for each text.
* `LengthPrefixed.parse_frames`: **what is written is read back.**
-/

namespace Furthest

/-- A text behind its length and a colon. -/
def Text.framed (t : Text) : Text := Text.ofNat t.length ++ (":" ++ t)

/-- A repetition of characters up to an integer is bounded. -/
theorem Checked.isUnbounded_int (n : Int) : Checked.isUnbounded (.int n) = false := by
  have hinfinite : Binary64.infinity.toInt? = none := by decide
  have hequal : Checked.isUnbounded (.int n) = (Binary64.infinity.toInt? == some n) := rfl
  rw [hequal, hinfinite]
  rfl

/-- A number of rounds without a greatest one is both bounds of a repetition. -/
theorem Checked.times_natCast (p : Parser) (n : Nat) :
    Checked.times p (.int n) .none = .ok (p.times n (some n)) := by
  have hcount (name : Text) : Checked.count name (.int n) = .ok n := by
    have hn : ¬ (n : Int) < 0 := by omega
    rw [Checked.count, if_neg hn, Int.toNat_natCast]
  have hcounts : Checked.counts (.int n) .none = .ok (n, some n) := by
    simp only [Checked.counts, hcount, Checked.isUnbounded_int]
    simp [bind, Except.bind, pure, Except.pure]
  rw [Checked.times, hcounts]
  rfl

namespace LengthPrefixed

open Furthest.Parser

/-- The parser of a text whose length has been read. -/
def announced (length : Value) : Parser :=
  .ofExcept do
    let n ← length.toInteger (some Text.digitLimit)
    return (← Checked.times anyChar n .none).map joinValues

/-- A text behind its length. -/
def frame : Parser := ((ofPattern "[0-9]+").skip (literal ":")).chain announced

variable {S : Setting} {t rest : Text} {ts : List Text} {pos : Nat}

/-- A length that is not longer than the limit announces as many characters. -/
theorem announced_ofNat {n : Nat} (hn : n < Text.offsetLimit) :
    announced (.text (Text.ofNat n)) = (anyChar.times n (some n)).map joinValues := by
  have hlength : (Text.ofNat n).length ≤ 19 := by
    have hoffset : Text.offsetLimit = 2 ^ 63 := rfl
    exact Text.length_ofNat_le (by decide) (by omega)
  have hlimit : Text.exceeds (Text.ofNat n).length (some Text.digitLimit) = false := by
    have hdigits : Text.digitLimit = 4300 := rfl
    exact decide_eq_false (by omega)
  have hread := Text.readInteger_decimal (Text.ofNat_decimal n) (Text.ofNat_ne_nil n) hlimit
  rw [Text.positionalValue_ofNat] at hread
  have hinteger : (Value.text (Text.ofNat n)).toInteger (some Text.digitLimit)
    = .ok (.int n) := by
    rw [Value.toInteger, Value.ofNumeral, hread]
  rw [announced, hinteger]
  simp only [bind, Except.bind, Checked.times_natCast]
  rfl

/-- **A text is cut off at its length**, whatever it consists of and whatever stands behind
it. -/
theorem settles_frame (h : S.src.RestAt pos (t.framed ++ rest))
    (hsrc : S.src.length < Text.offsetLimit) :
    S.Settles frame pos (some (pos + t.framed.length, .text t)) := by
  have hstart : S.src.RestAt pos (Text.ofNat t.length ++ (":" ++ (t ++ rest))) := by
    rwa [Text.framed, List.append_assoc, List.append_assoc] at h
  have hcolon := hstart.advance
  have htext := hcolon.advance
  have hlength := htext.length_eq
  rw [List.length_append] at hlength
  have hled : Text.NotLedBy Charset.decimal (":" ++ (t ++ rest)) :=
    Text.notLedBy_cons (by decide)
  have hrun := Regex.Pattern.decimalRun_some hsrc hstart (Text.ofNat_ne_nil _)
    (Text.ofNat_decimal _) hled
  have hcharacters : S.Rounds anyChar _ (t.map .char) _ :=
    .characters htext fun _ _ _ _ _ _ hat => .anyChar hat
  have hannounced := (Setting.Settles.times hcharacters).map (joinValues_map_char t)
  rw [List.length_map, ← announced_ofNat (by omega)] at hannounced
  have hend : pos + t.framed.length
      = pos + (Text.ofNat t.length).length + (":" : Text).length + t.length := by
    rw [Text.framed, List.length_append, List.length_append]
    omega
  rw [frame, Regex.Pattern.ofPattern_decimalRun, hend]
  exact ((Setting.Settles.regex hrun).skip (.literal hcolon)).chain hannounced

/-- At the end there is no length. -/
theorem settles_frame_end (h : S.src.RestAt pos []) (hsrc : S.src.length < Text.offsetLimit) :
    S.Settles frame pos none := by
  rw [frame, Regex.Pattern.ofPattern_decimalRun]
  have hrun := Regex.Pattern.decimalRun_none hsrc h (Text.notLedBy_nil _)
  exact ((Setting.Settles.regex_none hrun).skip_none_left _).chain_none _

/-- **Each text is one round**, which neither ends the repetition nor takes more than the
text. -/
theorem rounds_frames (h : S.src.RestAt pos (ts.flatMap Text.framed))
    (hsrc : S.src.length < Text.offsetLimit) :
    S.Rounds frame pos (ts.map .text) S.src.length := by
  induction ts generalizing pos with
  | nil =>
      have hlength := h.length_eq
      obtain rfl : pos = S.src.length := hlength
      exact .nil _
  | cons t ts ih =>
      rw [List.flatMap_cons] at h
      have hne : t.framed.length ≠ 0 := by
        have hcolon : (":" : Text).length = 1 := rfl
        rw [Text.framed, List.length_append, List.length_append]
        omega
      exact .cons (settles_frame h hsrc) (by omega) (ih h.advance)

/-- **Texts that are written behind their lengths are read back**, any number of them and
whatever they consist of, if offsets can tell the length of the whole and the limits allow
for one round for each text, and one more. -/
theorem parse_frames (ts : List Text)
    (hsrc : (ts.flatMap Text.framed).length < Text.offsetLimit) {limits : Limits}
    (hrounds : ts.length < limits.rounds) (s : Store) :
    (frame.many.parse limits (ts.flatMap Text.framed)).exec s
      = (.ok (.value (.list (ts.map .text))), s) := by
  let S := Setting.still (ts.flatMap Text.framed) limits s
  have hstart : S.src.RestAt 0 (ts.flatMap Text.framed) := .start _
  have hend : S.src.RestAt S.src.length [] := ⟨le_rfl, List.drop_length⟩
  have hcount : (ts.map Value.text).length < S.limits.rounds := by rwa [List.length_map]
  have hmany : S.Settles frame.many 0 (some (S.src.length, .list (ts.map .text))) :=
    .many (rounds_frames hstart hsrc) (settles_frame_end hend hsrc) hcount
  exact hmany.parse_still

/-- Texts that look like another length, or a part of one, and an empty one. -/
theorem parse_frames_lookalikes :
    let ts : List Text := ["3:", "", "12:\n4", ":"]
    ts.flatMap Text.framed = "2:3:0:5:12:\n41::"
      ∧ (ts.flatMap Text.framed).length < Text.offsetLimit ∧ ts.length < 5
      ∧ (frame.many.parse ⟨0, 5⟩ "2:3:0:5:12:\n41::").exec .empty
        = (.ok (.value (.list [.text "3:", .text "", .text "12:\n4", .text ":"])),
          .empty) := by
  intro ts
  have htext : ts.flatMap Text.framed = "2:3:0:5:12:\n41::" := by decide
  have hsrc : (ts.flatMap Text.framed).length < Text.offsetLimit := by
    rw [htext]
    decide
  have hrounds : ts.length < (⟨0, 5⟩ : Limits).rounds := by decide
  have hparse := parse_frames ts hsrc hrounds .empty
  rw [htext] at hparse
  exact ⟨htext, hsrc, hrounds, hparse⟩

end LengthPrefixed

end Furthest
