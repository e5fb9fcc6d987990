import Furthest.Prebuilt.Number
import Furthest.Proofs.DecimalRuns
import Mathlib.Tactic.Abel

/-!
# Texts of Floating Point Numbers

The pattern of floating point numbers is a choice with optional parts, of which it takes the
first that leads to the end. It takes the longest number that stands at an offset
nevertheless, because no alternative ever takes more than the one before it. Digits first
and a point first exclude each other, and so do a minus and none. Behind the digits, a
fraction and an exponent may both start with a point, but then the fraction goes on with a
digit, and the exponent with its letter.

What is matched is then read as a number. That this never fails needs no more than the form
of the texts.

## Main definitions

* `Prebuilt.floatTexts`: the texts of floating point numbers.

## Main results

* `Regex.Pattern.takes_float`: the pattern takes the longest number.
* `Binary64.exists_readDecimal`: every text of a number is read.
* `Prebuilt.found_integerTexts`: an integer is no floating point number.
* `Prebuilt.run_floatNumber`: **what comes of every run.**
-/

namespace Furthest

/-! ### The texts -/

namespace Prebuilt

/-- A letter, a sign or none, and digits. -/
def exponentTexts : Language CodePoint :=
  Charset.one "eE" * (1 + Charset.one "+-") * Charset.runs Charset.decimal

/-- A minus or none, and then digits, a point and digits, with or without an exponent; or
digits, with or without a point, and an exponent; or a point and digits, with or without an
exponent. -/
def floatTexts : Language CodePoint :=
  (1 + Charset.one "-")
    * (Charset.runs Charset.decimal * Charset.one "." * Charset.runs Charset.decimal
      * (1 + exponentTexts)
      + Charset.runs Charset.decimal * (1 + Charset.one ".") * exponentTexts
      + Charset.one "." * Charset.runs Charset.decimal * (1 + exponentTexts))

/-- A minus or none, digits, and a point or none. -/
def integerTexts : Language CodePoint :=
  (1 + Charset.one "-") * Charset.runs Charset.decimal * (1 + Charset.one ".")

/-- A point and digits, with or without an exponent. -/
def fractionTexts : Language CodePoint :=
  Charset.one "." * (Charset.runs Charset.decimal * (exponentTexts + 1))

/-- What follows the first digits of a number that starts with digits. -/
def tailTexts : Language CodePoint :=
  fractionTexts + (Charset.one "." * exponentTexts + exponentTexts)

/-- A number without a sign. -/
def unsignedTexts : Language CodePoint :=
  Charset.runs Charset.decimal * tailTexts + fractionTexts

/-- The texts in the order in which the pattern tries them. -/
theorem floatTexts_eq : floatTexts = Charset.one "-" * unsignedTexts + unsignedTexts := by
  simp only [floatTexts, unsignedTexts, tailTexts, fractionTexts, mul_add, add_mul,
    one_mul, mul_one, mul_assoc]
  abel

theorem exponentTexts_mul (l : Language CodePoint) :
    exponentTexts * l
      = Charset.one "eE"
        * (Charset.one "+-" * (Charset.runs Charset.decimal * l)
          + Charset.runs Charset.decimal * l) := by
  simp only [exponentTexts, mul_add, add_mul, mul_one, mul_assoc]
  exact add_comm _ _

theorem mem_fractionTexts {t : Text} (ht : t ∈ fractionTexts) :
    ∃ f ≠ [], (∀ c ∈ f, c ∈ Charset.decimal) ∧ ∃ e ∈ exponentTexts + 1,
    t = 46 :: (f ++ e) := by
  obtain ⟨c, hc, u, hu, rfl⟩ := mem_one_mul.mp ht
  obtain rfl : c = 46 := List.mem_singleton.mp hc
  obtain ⟨f, hne, hf, e, he, rfl⟩ := mem_runs_mul.mp hu
  exact ⟨f, hne, hf, e, he, rfl⟩

theorem ledBy_exponentTexts : LedBy exponentTexts "eE" := ledBy_one.mul.mul

theorem avoids_exponentTexts : Avoids (exponentTexts + 1) Charset.decimal :=
  .add (ledBy_exponentTexts.avoids (by decide)) avoids_one

theorem avoids_tailTexts : Avoids tailTexts Charset.decimal :=
  .add (ledBy_one.mul.avoids (by decide))
    (.add (ledBy_one.mul.avoids (by decide)) (ledBy_exponentTexts.avoids (by decide)))

theorem avoids_unsignedTexts {chars : Text} (hdigit : ∀ c ∈ Charset.decimal, c ∉ chars)
    (hpoint : ∀ c ∈ ("." : Text), c ∉ chars) : Avoids unsignedTexts chars :=
  .add (ledBy_runs.mul.avoids hdigit) (ledBy_one.mul.avoids hpoint)

/-- A fraction covers what stands in its place: behind the point it has a digit, and that a
letter. -/
theorem covers_fractionTexts :
    Covers fractionTexts (Charset.one "." * exponentTexts + exponentTexts) := by
  have hdigit : Avoids exponentTexts Charset.decimal := ledBy_exponentTexts.avoids (by decide)
  have hpoint : Avoids exponentTexts "." := ledBy_exponentTexts.avoids (by decide)
  exact .add (.one_mul (ledBy_runs.mul.covers hdigit)) (ledBy_one.mul.covers hpoint)

/-- What starts with digits covers what starts with a point. -/
theorem covers_digits (l : Language CodePoint) :
    Covers (Charset.runs Charset.decimal * l) fractionTexts :=
  ledBy_runs.mul.covers (ledBy_one.mul.avoids (by decide))

/-- A minus covers what has none. -/
theorem covers_minus (l : Language CodePoint) : Covers (Charset.one "-" * l) unsignedTexts :=
  ledBy_one.mul.covers (avoids_unsignedTexts (by decide) (by decide))

end Prebuilt

/-! ### The pattern -/

namespace Regex

/-- The set of some characters. -/
def CharSet.points (chars : Text) : CharSet :=
  { items := chars.map fun c => .range c c
    negated := false
    ignoreCase := false
    ascii := false }

theorem CharSet.holds_points (chars : Text) (c : CodePoint) :
    (CharSet.points chars).holds c = decide (c ∈ chars) := by
  rw [Bool.eq_iff_iff, decide_eq_true_iff]
  simp only [points, holds, itemHolds, variants, Bool.not_false, if_true, List.any_map,
    List.any_cons, List.any_nil, Bool.or_false, Bool.bne_false, List.any_eq_true,
    Function.comp_apply, Bool.and_eq_true, decide_eq_true_iff]
  constructor
  · rintro ⟨d, hd, hle, hge⟩
    rwa [Nat.le_antisymm hge hle]
  · exact fun hc => ⟨c, hc, le_rfl, le_rfl⟩

namespace Pattern

open Prebuilt

/-- Digits. -/
def digitsNode : Node := .repeated .greedy 1 none (.chars decimalSet)

/-- A node that may be left out. -/
def optionalNode (body : Node) : Node := .repeated .greedy 0 (some 1) body

/-- An exponent. -/
def exponentNode : Node :=
  .seq (.chars (.points "eE")) (.seq (optionalNode (.chars (.points "+-"))) digitsNode)

/-- A point and digits, with or without an exponent. -/
def fractionNode : Node :=
  .seq (.chars (.points ".")) (.seq digitsNode (optionalNode exponentNode))

/-- What follows the first digits. -/
def tailNode : Node :=
  .alt fractionNode (.seq (optionalNode (.chars (.points "."))) exponentNode)

/-- The pattern of floating point numbers. -/
def float : Pattern :=
  { source := floatPattern, flags := Flags.unicode, groups := 0, names := []
    node := .seq (optionalNode (.chars (.points "-")))
      (.alt (.seq digitsNode tailNode) fractionNode) }

theorem ofPattern_float : Parser.ofPattern floatPattern = .regex float 0 :=
  ofPattern_eq (by decide +kernel)

variable {src : Text} {k : State → Option State} {l : Language CodePoint}

/-- An exponent, and what follows. -/
theorem takes_exponent (hk : Takes src k l) (hl : Avoids l Charset.decimal) :
    Takes src (fun st => exponentNode.step src st k) (exponentTexts * l) := by
  have hdigits := Takes.run holds_decimalSet hk hl
  have hsign := Takes.char (CharSet.holds_points "+-") hdigits
  have hunsigned : Avoids (Charset.runs Charset.decimal * l) "+-" :=
    ledBy_runs.mul.avoids (by decide)
  rw [exponentTexts_mul]
  exact .char (CharSet.holds_points "eE")
    (.optional hsign hdigits (ledBy_one.mul.covers hunsigned))

/-- An exponent at the end of the pattern. -/
theorem takes_exponent_done :
    Takes src (fun st => exponentNode.step src st some) exponentTexts := by
  have hexponent := takes_exponent (Takes.done src) avoids_one
  rwa [mul_one] at hexponent

/-- A fraction at the end of the pattern. -/
theorem takes_fraction :
    Takes src (fun st => fractionNode.step src st some) fractionTexts := by
  have hexponent := Takes.optional takes_exponent_done (Takes.done src)
    (ledBy_exponentTexts.covers avoids_one)
  exact .char (CharSet.holds_points ".") (.run holds_decimalSet hexponent avoids_exponentTexts)

/-- What follows the first digits. -/
theorem takes_tail : Takes src (fun st => tailNode.step src st some) tailTexts := by
  have hpoint : Takes src (fun st => (Node.chars (.points ".")).step src st
      fun st => exponentNode.step src st some) (Charset.one "." * exponentTexts) :=
    .char (CharSet.holds_points ".") takes_exponent_done
  have hletter : Avoids exponentTexts "." := ledBy_exponentTexts.avoids (by decide)
  have hexponent := Takes.optional hpoint takes_exponent_done (ledBy_one.mul.covers hletter)
  exact .alt takes_fraction hexponent covers_fractionTexts

/-- **The pattern takes the longest number.** -/
theorem takes_float : Takes src (fun st => float.node.step src st some) floatTexts := by
  have hdigits : Takes src (fun st => (Node.seq digitsNode tailNode).step src st some)
      (Charset.runs Charset.decimal * tailTexts) :=
        .run holds_decimalSet takes_tail avoids_tailTexts
  have hunsigned := Takes.alt hdigits takes_fraction (covers_digits _)
  have hminus := Takes.char (CharSet.holds_points "-") hunsigned
  rw [floatTexts_eq]
  exact .optional hminus hunsigned (covers_minus _)

end Pattern

end Regex

/-! ### Reading -/

namespace Binary64

open Prebuilt

variable {t d e f rest : Text} {negative : Bool}

theorem isDigit_eq (c : CodePoint) : isDigit c = decide (c ∈ Charset.decimal) := by
  rw [isDigit, ← Bool.decide_and, decide_eq_decide, Charset.mem_decimal_iff]

/-- The digits in front of what starts with none. -/
theorem span_digits (hd : ∀ c ∈ d, c ∈ Charset.decimal)
    (hrest : Text.NotLedBy Charset.decimal rest) :
    (d ++ rest).takeWhile isDigit = d ∧ (d ++ rest).dropWhile isDigit = rest := by
  have hdigit : ∀ c ∈ d, isDigit c = true := fun c hc => by
    rw [isDigit_eq, decide_eq_true (hd c hc)]
  rw [List.takeWhile_append_of_pos hdigit, List.dropWhile_append_of_pos hdigit]
  cases rest with
  | nil => simp
  | cons c rest =>
      have hc : isDigit c = false := by rw [isDigit_eq, decide_eq_false (hrest c rfl)]
      simp [hc]

/-- Where no sign stands, none is read. -/
theorem readSign_eq (ht : Text.NotLedBy "+-" t) : readSign t = (false, t) := by
  unfold readSign
  split
  · exact absurd (by decide) (ht 45 rfl)
  · exact absurd (by decide) (ht 43 rfl)
  · rfl

/-- Behind a sign or none, the digits are left. -/
theorem exists_readSign (ht : t ∈ Charset.one "+-" * Charset.runs Charset.decimal
      + Charset.runs Charset.decimal) :
    ∃ negative, ∃ d ∈ Charset.runs Charset.decimal, readSign t = (negative, d) := by
  rcases ht with ht | ht
  · obtain ⟨s, hs, d, hd, rfl⟩ := mem_one_mul.mp ht
    obtain rfl | rfl := (by decide : ∀ c ∈ ("+-" : Text), c = 43 ∨ c = 45) s hs
    · exact ⟨false, d, hd, rfl⟩
    · exact ⟨true, d, hd, rfl⟩
  · have hunsigned : Avoids (Charset.runs Charset.decimal) "+-" :=
      ledBy_runs.avoids (by decide)
    exact ⟨false, t, ht, readSign_eq (hunsigned t ht)⟩

/-- An exponent that ends the text is read. -/
theorem exists_readExponent (he : e ∈ exponentTexts + 1) : ∃ n, readExponent? e = some n := by
  rcases he with he | he
  · rw [← mul_one exponentTexts, exponentTexts_mul] at he
    obtain ⟨c, hc, t, ht, rfl⟩ := mem_one_mul.mp he
    have hletter : c = 101 ∨ c = 69 := (by decide : ∀ c ∈ ("eE" : Text), c = 101 ∨ c = 69) c hc
    rw [mul_one] at ht
    obtain ⟨negative, d, ⟨hne, hdigits⟩, hsign⟩ := exists_readSign ht
    have hall : (d.isEmpty || !d.all isDigit) = false := by
      have hdigit : d.all isDigit = true := List.all_eq_true.mpr fun c hc => by
        rw [isDigit_eq, decide_eq_true (hdigits c hc)]
      rw [List.isEmpty_eq_false_iff.mpr hne, hdigit]
      rfl
    rw [readExponent?, if_pos hletter, hsign]
    simp only [hall]
    exact ⟨_, rfl⟩
  · exact ⟨0, by rw [(Language.mem_one e).mp he]; rfl⟩

/-- Digits with a point somewhere among, before or behind them are read. -/
theorem exists_readDecimal_point (hsign : readSign t = (negative, d ++ (46 :: (f ++ e))))
    (hd : ∀ c ∈ d, c ∈ Charset.decimal) (hf : ∀ c ∈ f, c ∈ Charset.decimal)
    (hne : d ≠ [] ∨ f ≠ []) (he : e ∈ exponentTexts + 1) : ∃ x, readDecimal? t = some x := by
  have hpoint : Text.NotLedBy Charset.decimal (46 :: (f ++ e)) :=
    Text.notLedBy_cons (by decide)
  obtain ⟨htake, hdrop⟩ := span_digits hd hpoint
  obtain ⟨htake', hdrop'⟩ := span_digits hf (avoids_exponentTexts e he)
  obtain ⟨n, hn⟩ := exists_readExponent he
  have hsome : (d.isEmpty && f.isEmpty) = false := by
    rcases hne with hne | hne
    · rw [List.isEmpty_eq_false_iff.mpr hne, Bool.false_and]
    · rw [List.isEmpty_eq_false_iff.mpr hne, Bool.and_false]
  simp only [readDecimal?, hsign, htake, hdrop, htake', hdrop', hsome, hn]
  exact ⟨_, rfl⟩

/-- Digits without a point, but with an exponent, are read. -/
theorem exists_readDecimal_letter (hsign : readSign t = (negative, d ++ e))
    (hd : ∀ c ∈ d, c ∈ Charset.decimal) (hne : d ≠ []) (he : e ∈ exponentTexts) :
    ∃ x, readDecimal? t = some x := by
  obtain ⟨htake, hdrop⟩ := span_digits hd (avoids_exponentTexts e (.inl he))
  obtain ⟨n, hn⟩ := exists_readExponent (.inl he)
  obtain ⟨c, hc, v, rfl⟩ := ledBy_exponentTexts e he
  have hpoint : c ≠ 46 := (by decide : ∀ c ∈ ("eE" : Text), c ≠ 46) c hc
  have hsome : (d.isEmpty && ([] : Text).isEmpty) = false := by
    rw [List.isEmpty_eq_false_iff.mpr hne, Bool.false_and]
  simp only [readDecimal?, hsign, htake, hdrop]
  split
  · next heq => exact absurd (List.cons.inj heq).1 hpoint
  · simp only [hsome, hn]
    exact ⟨_, rfl⟩

/-- **Every text of a floating point number is read.** -/
theorem exists_readDecimal (ht : t ∈ floatTexts) : ∃ x, readDecimal? t = some x := by
  rw [floatTexts_eq] at ht
  obtain ⟨negative, u, hsign, hu⟩ : ∃ negative, ∃ u, readSign t = (negative, u)
      ∧ u ∈ unsignedTexts := by
    rcases ht with ht | ht
    · obtain ⟨c, hc, u, hu, rfl⟩ := mem_one_mul.mp ht
      obtain rfl : c = 45 := List.mem_singleton.mp hc
      exact ⟨true, u, rfl, hu⟩
    · have hunsigned : Avoids unsignedTexts "+-" :=
        avoids_unsignedTexts (by decide) (by decide)
      exact ⟨false, t, readSign_eq (hunsigned t ht), ht⟩
  have hnone : ∀ c ∈ ([] : Text), c ∈ Charset.decimal := List.forall_mem_nil _
  rcases hu with hu | hu
  · obtain ⟨d, hne, hd, x, hx, rfl⟩ := mem_runs_mul.mp hu
    rcases hx with hx | hx | hx
    · obtain ⟨f, -, hf, e, he, rfl⟩ := mem_fractionTexts hx
      exact exists_readDecimal_point hsign hd hf (.inl hne) he
    · obtain ⟨c, hc, e, he, rfl⟩ := mem_one_mul.mp hx
      obtain rfl : c = 46 := List.mem_singleton.mp hc
      exact exists_readDecimal_point hsign hd hnone (.inl hne) (.inl he)
    · exact exists_readDecimal_letter hsign hd hne hx
  · obtain ⟨f, hne, hf, e, he, rfl⟩ := mem_fractionTexts hu
    exact exists_readDecimal_point hsign hnone hf (.inr hne) he

end Binary64

/-! ### The run -/

namespace Prebuilt

open Text

variable {src t : Text} {pos : Nat}

/-- Behind the digits of an integer there is no rest of a number. -/
theorem found_tailTexts {p : Text} (hp : p ∈ 1 + Charset.one ".") :
    Found tailTexts p none := by
  have hend : Found exponentTexts [] none := found_none ledBy_exponentTexts (notLedBy_nil _)
  rcases hp with hp | ⟨c, hc, rfl⟩
  · rw [(Language.mem_one p).mp hp]
    have hpoint (l : Language CodePoint) : Found (Charset.one "." * l) [] none :=
      found_none ledBy_one.mul (notLedBy_nil _)
    exact .add_right (hpoint _) (.add_right (hpoint _) hend)
  · have hdigits := found_none (l := Charset.runs Charset.decimal * (exponentTexts + 1))
      ledBy_runs.mul (notLedBy_nil _)
    have hletter : c ∉ ("eE" : Text) :=
      (by decide : ∀ c ∈ ("." : Text), c ∉ ("eE" : Text)) c hc
    exact .add_right (found_one_cons hc hdigits)
      (.add_right (found_one_cons hc hend)
        (found_none ledBy_exponentTexts (notLedBy_cons hletter)))

/-- **An integer is no floating point number**, and neither is one with a point behind
it. -/
theorem found_integerTexts (ht : t ∈ integerTexts) : Found floatTexts t none := by
  obtain ⟨_, hsd, p, hp, rfl⟩ := Language.mem_mul.mp ht
  obtain ⟨s, hs, d, hd, rfl⟩ := Language.mem_mul.mp hsd
  have hrun : d ++ p ∈ Charset.runs Charset.decimal * (1 + Charset.one ".") :=
    Language.mem_mul.mpr ⟨d, hd, p, hp, rfl⟩
  have hpoint : NotLedBy "." (d ++ p) := ledBy_runs.mul.avoids (by decide) _ hrun
  have hminus : NotLedBy "-" (d ++ p) := ledBy_runs.mul.avoids (by decide) _ hrun
  have hbehind : Avoids (1 + Charset.one ".") Charset.decimal :=
    .add avoids_one (ledBy_one.avoids (by decide))
  have hunsigned : Found unsignedTexts (d ++ p) none :=
    .add_right (found_runs hd.1 hd.2 (hbehind p hp) avoids_tailTexts (found_tailTexts hp))
      (found_none ledBy_one.mul hpoint)
  -- with a minus in front, the number without a sign is looked for behind it, and then at
  -- it
  rw [floatTexts_eq, List.append_assoc]
  rcases hs with hs | ⟨c, hc, rfl⟩
  · rw [(Language.mem_one s).mp hs, List.nil_append]
    exact .add_right (found_none ledBy_one.mul hminus) hunsigned
  · obtain rfl : c = 45 := List.mem_singleton.mp hc
    have hsigned : Found unsignedTexts (45 :: (d ++ p)) none :=
      .add_right (found_none ledBy_runs.mul (notLedBy_cons (by decide)))
        (found_none ledBy_one.mul (notLedBy_cons (by decide)))
    exact .add_right (found_one_cons hc hunsigned) hsigned

/-- The parser of floating point numbers, put together from its actions. -/
theorem floatNumber_run (limits : Limits) (src : Text) (pos : Int) :
    floatNumber.run limits src pos
      = Action.map (.desc (.regex Regex.Pattern.float 0) "a float") floatOf src pos := by
  rw [floatNumber, Regex.Pattern.ofPattern_float]
  rfl

theorem floatNumber_some {stop : Nat} {w : Text} {x : Binary64} (limits : Limits)
    (hmatch : Regex.Pattern.float.matchAt? src pos 0 = .ok (some (stop, w)))
    (hread : Binary64.readDecimal? w = some x) :
    floatNumber.run limits src pos = pure (.success stop (.float x) .clean) := by
  have hfloat : floatOf (.text w) = pure (.float x) := by simp only [floatOf, hread]
  simp only [floatNumber_run, Action.map, Action.desc, Action.regex_eq hmatch,
    Reply.matched, pure_bind, hfloat, Run.perform_pure]
  rfl

theorem floatNumber_none (limits : Limits)
    (hmatch : Regex.Pattern.float.matchAt? src pos 0 = .ok none) :
    floatNumber.run limits src pos = pure (.mismatch pos (.text "a float")) := by
  have hfurthest : (Record.single pos (.text Regex.Pattern.float.label)).furthest
    = (pos : Int) := rfl
  simp only [floatNumber_run, Action.map, Action.desc,
    Action.regex_eq_mismatch hmatch, Reply.mismatch, pure_bind, if_pos hfurthest]

/-- **Floating point numbers are matched as long as they are.** For all offsets of a text, a
run replies and leaves the store as it is. It is a match exactly if a number stands at the
offset. Then the match ends behind the longest one that stands there, and its value is what
that one is read as. Otherwise there is one label, at the offset. An integer is no number in
this sense, with a point behind it or without. -/
theorem run_floatNumber (hpos : pos ≤ src.length) (hsrc : src.length < Text.offsetLimit)
    (limits : Limits) (store : Store) :
    ∃ r, (floatNumber.run limits src pos).exec store = (.ok r, store)
      ∧ (r.isSuccess = true ↔ ∃ w ∈ floatTexts, w <+: src.drop pos)
      ∧ (r.isSuccess = true → ∃ w x, Longest floatTexts (src.drop pos) w
        ∧ Binary64.readDecimal? w = some x
        ∧ r = .success (pos + w.length : Nat) (.float x) .clean)
      ∧ (r.isSuccess = false → r = .mismatch pos (.text "a float"))
      ∧ (src.drop pos ∈ integerTexts → r.isSuccess = false) := by
  have hrest : src.RestAt pos (src.drop pos) := .of_le hpos
  obtain ⟨o, hfound, hmatch⟩ := Regex.Pattern.takes_float.matchAt? (by decide) hrest hsrc
  have hinteger (ht : src.drop pos ∈ integerTexts) : o = none :=
    hfound.unique (found_integerTexts ht)
  cases o with
  | none =>
      refine ⟨.mismatch pos (.text "a float"), ?_, ?_, ?_, ?_, ?_⟩
      · rw [floatNumber_none limits hmatch]
        rfl
      · exact iff_of_false Bool.false_ne_true fun ⟨w, hw, hstart⟩ => hfound w hw hstart
      · exact fun h => absurd h Bool.false_ne_true
      · exact fun _ => rfl
      · exact fun _ => rfl
  | some w =>
      obtain ⟨x, hx⟩ := Binary64.exists_readDecimal hfound.mem
      refine ⟨.success (pos + w.length : Nat) (.float x) .clean,
        by rw [floatNumber_some limits hmatch hx]; rfl, ?_, ?_, ?_, ?_⟩
      · exact iff_of_true rfl ⟨w, hfound.mem, hfound.start⟩
      · exact fun _ => ⟨w, x, hfound, hx, rfl⟩
      · exact fun h => absurd h.symm Bool.false_ne_true
      · exact fun ht => absurd (hinteger ht) (Option.some_ne_none w)

/-- A sign, a fraction, and an exponent without digits, which is left where it stands. -/
theorem run_floatNumber_incomplete :
    let src : Text := "x-1.5e+"
    1 ≤ src.length ∧ src.length < offsetLimit ∧ ∃ x, Binary64.readDecimal? "-1.5" = some x
      ∧ (floatNumber.run ⟨0, 0⟩ src (1 : Nat)).exec .empty
        = (.ok (.success 5 (.float x) .clean), .empty) := by
  intro src
  have hpos : 1 ≤ src.length := by decide
  have hsrc : src.length < offsetLimit := by decide
  -- behind the letter and the sign there is no digit, so that the fraction ends before the
  -- letter
  have hletter : Found (Charset.one "+-" * (Charset.runs Charset.decimal * 1)
      + Charset.runs Charset.decimal * 1) [43] none :=
    .add_right (found_one_cons (by decide) (found_none ledBy_runs.mul (notLedBy_nil _)))
      (found_none ledBy_runs.mul (notLedBy_cons (by decide)))
  have hexponent : Found exponentTexts [101, 43] none := by
    rw [← mul_one exponentTexts, exponentTexts_mul]
    exact found_one_cons (by decide) hletter
  have hfraction : Found fractionTexts ".5e+" (some ".5") :=
    found_one_cons (by decide)
      (found_runs (d := "5") (by decide) (by decide) (notLedBy_cons (by decide))
      avoids_exponentTexts (.add_right hexponent (found_nil _)))
  have hunsigned : Found unsignedTexts "1.5e+" (some "1.5") :=
    .add_left (found_runs (d := "1") (by decide) (by decide) (notLedBy_cons (by decide))
      avoids_tailTexts (hfraction.add_left covers_fractionTexts)) (covers_digits _)
  have hfloat : Found floatTexts "-1.5e+" (some "-1.5") := by
    rw [floatTexts_eq]
    exact .add_left (found_one_cons (by decide) hunsigned) (covers_minus _)
  obtain ⟨r, hexec, hiff, hsome, -, -⟩ := run_floatNumber hpos hsrc ⟨0, 0⟩ .empty
  obtain ⟨w, x, hw, hx, rfl⟩ := hsome (hiff.mpr ⟨_, hfloat.mem, hfloat.start⟩)
  obtain rfl : w = "-1.5" := hw.unique hfloat
  exact ⟨hpos, hsrc, x, hx, hexec⟩

end Prebuilt

end Furthest
