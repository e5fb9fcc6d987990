import Furthest.Callback
import Furthest.Proofs.LongestTexts
import Mathlib.Algebra.GroupWithZero.Nat
import Mathlib.Data.List.TakeWhile

/-!
# Runs of Decimal Digits

The pattern that matches a run of decimal digits, the integer that such a run is read as,
and the run that a number is written with. The pattern takes the longest run that stands at
an offset, which is all the digits that stand there.

## Main results

* `Regex.Pattern.decimalRun_some`, `Regex.Pattern.decimalRun_none`: what the pattern
  matches.
* `Text.readInteger_decimal`: a run of digits is read as its value.
* `Text.positionalValue_ofNat`: the digits that a number is written with have its value.
-/

namespace Furthest

/-- The decimal digits stand in a row. -/
theorem Charset.mem_decimal_iff {c : Nat} : c ∈ decimal ↔ 48 ≤ c ∧ c ≤ 57 := by
  have hlist : decimal = List.range' 48 10 := by decide
  rw [hlist]
  exact List.mem_range'_1.trans (by omega)

/-! ### The pattern -/

namespace Regex

namespace Pattern

variable {src rest w : Text} {pos : Nat}

/-- The set of the decimal digits. -/
def decimalSet : CharSet :=
  { items := [.range 48 57], negated := false, ignoreCase := false, ascii := false }

/-- The pattern of a run of decimal digits. -/
def decimalRun : Pattern :=
  { source := "[0-9]+", flags := Flags.unicode, groups := 0, names := []
    node := .repeated .greedy 1 none (.chars decimalSet) }

theorem ofPattern_decimalRun : Parser.ofPattern "[0-9]+" = .regex decimalRun 0 :=
  ofPattern_eq (by decide +kernel)

theorem holds_decimalSet (c : CodePoint) :
    decimalSet.holds c = decide (c ∈ Charset.decimal) := by
  simp [decimalSet, CharSet.holds, CharSet.itemHolds, CharSet.variants,
    Charset.mem_decimal_iff]

variable (hsrc : src.length < Text.offsetLimit)
include hsrc

/-- Matching the pattern is finding the longest run. -/
theorem decimalRun_found (h : src.RestAt pos rest) :
    ∃ o, Text.Found (Charset.runs Charset.decimal * 1) rest o
      ∧ decimalRun.matchAt? src pos 0 = .ok (o.map fun w => (pos + w.length, w)) :=
  (Takes.run holds_decimalSet (Takes.done src) avoids_one).matchAt? (by decide) h hsrc

/-- **The pattern takes all the digits**, at least one. -/
theorem decimalRun_some (h : src.RestAt pos (w ++ rest)) (hne : w ≠ [])
    (hw : ∀ c ∈ w, c ∈ Charset.decimal) (hrest : Text.NotLedBy Charset.decimal rest) :
    decimalRun.matchAt? src pos 0 = .ok (some (pos + w.length, w)) := by
  obtain ⟨o, hfound, hmatch⟩ := decimalRun_found hsrc h
  have hruns := Text.found_runs hne hw hrest avoids_one (Text.found_nil rest)
  rw [hmatch, hfound.unique hruns, Option.map_some, Option.map_some, List.append_nil]

/-- Without a digit there is no match. -/
theorem decimalRun_none (h : src.RestAt pos rest)
    (hrest : Text.NotLedBy Charset.decimal rest) :
    decimalRun.matchAt? src pos 0 = .ok none := by
  obtain ⟨o, hfound, hmatch⟩ := decimalRun_found hsrc h
  rw [hmatch, hfound.unique (Text.found_none ledBy_runs.mul hrest), Option.map_none]

end Pattern

end Regex

/-! ### The integer -/

/-- What reading an integer asks of a character, for the digits. -/
theorem Charset.decimal_plain : ∀ c ∈ decimal, c.isAsciiDigit = true ∧ c.isAsciiBlank = false
    ∧ Text.plainDigit c = c ∧ c ≠ Text.underscore ∧ c ≠ 45 ∧ c ≠ 43 := by
  decide

namespace Text

variable {t : Text} (ht : ∀ c ∈ t, c ∈ Charset.decimal)
include ht

/-- Where there are only digits, no underscore is out of place. -/
theorem underscoresFit_decimal (afterDigit : Bool) (h : afterDigit = true ∨ t ≠ []) :
    underscoresFit afterDigit t = true := by
  induction t generalizing afterDigit with
  | nil => simpa [underscoresFit] using h
  | cons c t ih =>
      rw [List.forall_mem_cons] at ht
      obtain ⟨-, -, -, hc, -⟩ := Charset.decimal_plain c ht.1
      rw [underscoresFit, if_neg hc]
      exact ih ht.2 true (.inl rfl)

theorem readDigits_decimal (hne : t ≠ []) {limit : Option Nat}
    (hlimit : exceeds t.length limit = false) :
    readDigits limit t = .ok (positionalValue 10 t) := by
  have hdigit : ∀ c ∈ t, c.isAsciiDigit = true :=
    fun c hc => (Charset.decimal_plain c (ht c hc)).1
  have hpart : ∀ c ∈ t, (c.isAsciiDigit || c == underscore) = true := fun c hc => by
    rw [hdigit c hc, Bool.true_or]
  rw [readDigits]
  simp only [List.takeWhile_eq_self_iff.mpr hpart, List.dropWhile_eq_nil_iff.mpr hpart,
    List.filter_eq_self.mpr hdigit, underscoresFit_decimal ht false (.inr hne), hlimit]
  rfl

/-- **A run of digits is read as its value**, if it is not longer than the limit. -/
theorem readInteger_decimal (hne : t ≠ []) {limit : Option Nat}
    (hlimit : exceeds t.length limit = false) :
    t.readInteger limit = .ok (positionalValue 10 t : Nat) := by
  have hplain : t.map plainDigit = t :=
    (List.map_congr_left fun c hc => (Charset.decimal_plain c (ht c hc)).2.2.1).trans
      (List.map_id t)
  have hread := readDigits_decimal ht hne hlimit
  obtain ⟨c, t, rfl⟩ := List.exists_cons_of_ne_nil hne
  obtain ⟨-, hblank, -, -, hminus, hplus⟩ := Charset.decimal_plain c (ht c List.mem_cons_self)
  rw [readInteger, hplain, List.dropWhile_cons_of_neg
    (by rw [hblank]; exact Bool.false_ne_true)]
  split
  · next heq => exact absurd (List.cons.inj heq).1 hminus
  · next heq => exact absurd (List.cons.inj heq).1 hplus
  · rw [hread]
    rfl

end Text

/-! ### Numbers as they are written -/

namespace Text

variable (n : Nat)

/-- A number is written with the digits that the standard library finds. -/
theorem ofNat_eq_map_toDigits : ofNat n = (Nat.toDigits 10 n).map Char.toNat := by
  rw [ofNat, ofString, Nat.toString_eq_repr, Nat.repr_eq_ofList_toDigits, String.toList_ofList]

theorem ofNat_decimal : ∀ c ∈ ofNat n, c ∈ Charset.decimal := by
  rw [ofNat_eq_map_toDigits, List.forall_mem_map]
  intro c hc
  have hdigit := Nat.isDigit_of_mem_toDigits (by decide) (by decide) hc
  exact Charset.mem_decimal_iff.mpr (Char.isDigit_iff_toNat.mp hdigit)

theorem ofNat_ne_nil : ofNat n ≠ [] := by
  rw [ofNat_eq_map_toDigits, ne_eq, List.map_eq_nil_iff]
  exact Nat.toDigits_ne_nil

/-- The digits of a number have its value. -/
theorem positionalValue_ofNat : positionalValue 10 (ofNat n) = n := by
  have hvalue : ∀ c ∈ Charset.decimal, digitValue c = c - 48 := by decide
  calc positionalValue 10 (ofNat n)
    _ = (ofNat n).foldl (fun k c => 10 * k + (c - 48)) 0 := by
        refine List.foldl_ext _ _ _ fun k c hc => ?_
        rw [hvalue c (ofNat_decimal n c hc)]
    _ = Nat.ofDigitChars 10 (Nat.toDigits 10 n) 0 := by
        rw [ofNat_eq_map_toDigits, List.foldl_map, Nat.ofDigitChars_eq_foldl]
        rfl
    _ = n := Nat.ofDigitChars_toDigits (by decide) (by decide)

theorem length_ofNat_le {n k : Nat} (hk : 0 < k) (h : n < 10 ^ k) : (ofNat n).length ≤ k := by
  rw [ofNat_eq_map_toDigits, List.length_map]
  exact (Nat.length_toDigits_le_iff (by decide) hk).mpr h

end Text

end Furthest
