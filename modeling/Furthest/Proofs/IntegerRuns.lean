import Furthest.Proofs.Numerals

/-!
# Integers in Any Text

What the parsers of integers do at every offset of every text, whether a numeral stands
there or not. They look for a minus first, and then for digits, of which they take all that
stand in a row. So the integer is told by the run of digits, `Radix.run`, and its value is
that of a number written in a base.

Where the base is not known, an announcement alone does not decide it: without a digit
behind it, the zero that it starts with is a decimal digit, and the integer is zero. The
choice of the alternatives comes to this because each of them either takes an announcement
and digits or nothing at all.

## Main results

* `Prebuilt.unsigned_magnitude`: digits in a known base.
* `Prebuilt.signed_reading`: a minus, or none, before digits.
* `Prebuilt.magnitude_announced`, `Prebuilt.magnitude_unannounced`: digits in an announced
  base, or in decimal ones.
* `Prebuilt.integers_by_runs`: **integers are told by runs of digits.**
-/

namespace Furthest

/-! ### Minus signs -/

namespace Text

/-- Whether a minus stands at an offset. -/
def minusAt (src : Text) (pos : Nat) : Bool := src[pos]? = some 45

/-- The offset behind the minus at an offset, if there is one. -/
def behindMinus (src : Text) (pos : Nat) : Nat := if src.minusAt pos then pos + 1 else pos

variable {src : Text} {pos : Nat}

theorem minus_prefix_iff : ("-" : Text) <+: src.drop pos ↔ src.minusAt pos = true := by
  have hminus : ("-" : Text) = [45] := rfl
  rw [minusAt, decide_eq_true_iff, ← List.head?_drop, hminus]
  cases src.drop pos with
  | nil => simp
  | cons c rest => simp [eq_comm]

theorem behindMinus_le (hpos : pos ≤ src.length) : src.behindMinus pos ≤ src.length := by
  rw [behindMinus]
  split
  next h =>
    have hlt := (List.getElem?_eq_some_iff.mp (of_decide_eq_true h)).1
    omega
  next => exact hpos

end Text

/-! ### Runs of digits -/

namespace Radix

variable (r : Radix) (src : Text) (start : Nat)

/-- The digits that stand in a row at an offset. -/
def run : Text := (src.drop start).takeWhile (· ∈ r.base.digits)

/-- The index behind the digits that stand at an offset, and their value, if there are
any. -/
def magnitude : Option (Nat × Nat) :=
  if r.run src start = [] then none
  else some (start + (r.run src start).length,
    Nat.ofDigits r.number ((r.run src start).map Text.digitValue).reverse)

/-- The index behind the digits that stand at an offset, and the integer that they are
behind a minus or without one, if there are any. -/
def reading (negative : Bool) : Option (Nat × Value) :=
  (r.magnitude src start).map fun m => (m.1, .int (if negative then -m.2 else m.2))

variable {r src start}

/-- There are digits in a row where there is one. -/
theorem run_ne_nil_iff : r.run src start ≠ [] ↔ ∃ c ∈ r.base.digits, src[start]? = some c := by
  rw [run, ← List.head?_drop]
  cases src.drop start with
  | nil => simp
  | cons c rest => simp [List.takeWhile_cons]

theorem isSome_reading (negative : Bool) :
    (r.reading src start negative).isSome ↔ ∃ c ∈ r.base.digits, src[start]? = some c := by
  rw [← run_ne_nil_iff, reading, magnitude]
  split <;> simp_all

end Radix

namespace Prebuilt

open Furthest.Parser

variable {S : Setting} {r : Radix} {pos start : Nat}

/-- Without a limit, digits stand for an integer however many they are. -/
theorem integerOf_none (r : Radix) (w : Text) :
    integerOf none r.base (.text w)
      = pure (.int (Nat.ofDigits r.number (w.map Text.digitValue).reverse : Nat)) := by
  rw [integerOf, Text.exceeds, Bool.and_false, if_neg Bool.false_ne_true,
    Text.positionalValue_eq_ofDigits, r.base_base]

/-- **Digits in a known base** are all that stand in a row. -/
theorem unsigned_magnitude (h : start ≤ S.src.length)
    (hrounds : S.src.length < S.limits.rounds) :
    S.Settles (unsigned none r.base) start
      ((r.magnitude S.src start).map fun m => (m.1, .int m.2)) := by
  have hrest : S.src.RestAt start (r.run S.src start ++ _) :=
    ⟨h, List.takeWhile_append_dropWhile.symm⟩
  have hend := Text.notLedBy_dropWhile r.base.digits (S.src.drop start)
  rw [Radix.magnitude]
  split
  next hnil =>
    rw [hnil] at hrest
    exact (digitsOf_none _ hrest hend).map_none _
  next hne =>
    exact (digitsOf_some _ hrest hne (fun _ => Text.mem_of_mem_takeWhile) hend hrounds).map
      (integerOf_none r _)

/-- A minus is read where one stands, and nothing where none does. -/
theorem optional_minusAt (hpos : pos ≤ S.src.length) :
    S.Settles (optional (literal "-") (.text [])) pos
      (some (S.src.behindMinus pos, .text (if S.src.minusAt pos then "-" else []))) := by
  have hrest := Text.RestAt.of_le hpos
  rw [Text.behindMinus]
  by_cases hminus : S.src.minusAt pos = true
  · obtain ⟨rest, hdrop⟩ := Text.minus_prefix_iff.mpr hminus
    rw [← hdrop] at hrest
    rw [if_pos hminus, if_pos hminus]
    exact .alternatives_head (.literal hrest) _
  · have hnone := Setting.Settles.literal_none hrest (Text.minus_prefix_iff.not.mpr hminus)
    rw [if_neg hminus, if_neg hminus]
    exact .alternatives (List.forall_mem_singleton.mpr hnone) (.succeed _ _) []

/-- **A minus, or none, before a number.** -/
theorem signed_reading {body : Parser} {o : Option (Nat × Nat)} (hpos : pos ≤ S.src.length)
    (h : S.Settles body (S.src.behindMinus pos) (o.map fun m => (m.1, .int m.2))) :
    S.Settles (signed body) pos
      (o.map fun m => (m.1, .int (if S.src.minusAt pos then -m.2 else m.2))) := by
  have hminus := optional_minusAt hpos
  rcases o with - | ⟨i, n⟩
  · exact (Setting.Settles.seq_none (.cons hminus (.nil _)) h []).map_none _
  · refine (Setting.Settles.seq (.cons hminus (.cons h (.nil i)))).map ?_
    cases S.src.minusAt pos <;> rfl

/-! ### Announced bases -/

/-- Each of the announced bases is that of a notation. -/
theorem exists_radix_of_mem_basePrefixes {e : Text × Base} (he : e ∈ basePrefixes) :
    ∃ r ≠ Radix.decimal, e = (r.announcement, r.base) := by
  rw [basePrefixes, List.mem_cons, List.mem_cons, List.mem_singleton] at he
  rcases he with rfl | rfl | rfl
  · exact ⟨.binary, Radix.noConfusion, rfl⟩
  · exact ⟨.octal, Radix.noConfusion, rfl⟩
  · exact ⟨.hexadecimal, Radix.noConfusion, rfl⟩

/-- The digits of an integer whose base is not known. -/
def anyUnsigned : Parser :=
  alternatives (basePrefixes.map (fun p => (literal p.1).andThen (unsigned none p.2))
    ++ [unsigned none decimal])

/-- **An announcement with a digit behind it** decides the base. -/
theorem magnitude_announced (hr : r ≠ .decimal) (h : start ≤ S.src.length)
    (hrounds : S.src.length < S.limits.rounds) (hstands : r.announcement <+: S.src.drop start)
    (hdigit : r.run S.src (start + r.announcement.length) ≠ []) :
    S.Settles anyUnsigned start
      ((r.magnitude S.src (start + r.announcement.length)).map fun m => (m.1, .int m.2)) := by
  have hrest := Text.RestAt.of_le h
  obtain ⟨rest, hdrop⟩ := hstands
  obtain ⟨before, after, hsplit, hbefore⟩ := r.exists_split hr rest
  rw [hdrop] at hbefore
  have hnumber := unsigned_magnitude (r := r) (hdrop ▸ hrest).advance.le hrounds
  rw [Radix.magnitude, if_neg hdigit] at hnumber ⊢
  rw [anyUnsigned, hsplit, List.map_append, List.map_cons, List.append_assoc, List.cons_append]
  refine .alternatives ?_ (.andThen (.literal (hdrop ▸ hrest)) hnumber) _
  rw [List.forall_mem_map]
  exact fun e he => .andThen_none_left (.literal_none hrest (hbefore e he)) _

/-- **Without an announcement**, or with nothing but an announcement, there are decimal
digits or none. -/
theorem magnitude_unannounced (h : start ≤ S.src.length)
    (hrounds : S.src.length < S.limits.rounds)
    (hnone : ∀ r : Radix, r ≠ .decimal → r.announcement <+: S.src.drop start →
      r.run S.src (start + r.announcement.length) = []) :
    S.Settles anyUnsigned start
      ((Radix.decimal.magnitude S.src start).map fun m => (m.1, .int m.2)) := by
  have hrest := Text.RestAt.of_le h
  have hothers : ∀ p ∈ basePrefixes.map (fun p => (literal p.1).andThen (unsigned none p.2)),
      S.Settles p start none := by
    rw [List.forall_mem_map]
    intro e he
    obtain ⟨r, hr, rfl⟩ := exists_radix_of_mem_basePrefixes he
    by_cases hstands : r.announcement <+: S.src.drop start
    · have hnil := hnone r hr hstands
      obtain ⟨rest, hdrop⟩ := hstands
      have hnumber := unsigned_magnitude (r := r) (hdrop ▸ hrest).advance.le hrounds
      rw [Radix.magnitude, if_pos hnil] at hnumber
      exact .andThen_none_right (.literal (hdrop ▸ hrest)) hnumber
    · exact .andThen_none_left (.literal_none hrest hstands) _
  have hdecimal := unsigned_magnitude (r := .decimal) h hrounds
  generalize hm : Radix.decimal.magnitude S.src start = o at hdecimal ⊢
  rcases o with - | m
  · refine .alternatives_none ?_
    rw [List.forall_mem_append, List.forall_mem_singleton]
    exact ⟨hothers, hdecimal⟩
  · exact .alternatives hothers hdecimal []

/-! ### Integers -/

/-- **Integers are told by runs of digits.** A parser of integers gives a reply at every
offset of every text, and the store stays as it is. Behind a minus, if there is one, all
digits of the base that stand in a row are read, and the value is that of the number written
with them, negated behind a minus; without a digit there is a failure. If the base is not
known, it is that of an announcement with a digit of the base behind it, and the digits are
those behind the announcement. Otherwise the digits are decimal ones, even where an
announcement stands that no digit of its base follows. -/
theorem integers_by_runs {src : Text} {limits : Limits} (hpos : pos ≤ src.length)
    (hrounds : src.length < limits.rounds) (s : Store) :
    let start := src.behindMinus pos
    let negative := src.minusAt pos
    (∀ (r : Radix) (i : Nat),
        (r.reading src i negative).isSome ↔ ∃ c ∈ r.base.digits, src[i]? = some c)
      ∧ (∀ r : Radix, ∃ l, ((integer none r.base).run limits src pos).exec s
          = (.ok (Attempt.reply ⟨r.reading src start negative, l⟩), s))
      ∧ (∀ r : Radix, r ≠ .decimal → r.announcement <+: src.drop start →
          (∃ c ∈ r.base.digits, src[start + r.announcement.length]? = some c) →
            ∃ l, ((anyInteger none).run limits src pos).exec s
              = (.ok (Attempt.reply
                  ⟨r.reading src (start + r.announcement.length) negative, l⟩), s))
      ∧ ((∀ r : Radix, r ≠ .decimal → r.announcement <+: src.drop start →
          ¬ ∃ c ∈ r.base.digits, src[start + r.announcement.length]? = some c) →
            ∃ l, ((anyInteger none).run limits src pos).exec s
              = (.ok (Attempt.reply ⟨Radix.decimal.reading src start negative, l⟩), s)) := by
  intro start negative
  let S := Setting.still src limits s
  have hstart : start ≤ S.src.length := Text.behindMinus_le hpos
  refine ⟨fun r i => Radix.isSome_reading negative, fun r => ?_, fun r hr hstands hdigit => ?_,
    fun hnone => ?_⟩
  · have hsettles : S.Settles (integer none r.base) pos _ :=
      signed_reading hpos (unsigned_magnitude hstart hrounds)
    exact hsettles.exec_still
  · have hsettles : S.Settles (anyInteger none) pos _ :=
      signed_reading hpos (magnitude_announced hr hstart hrounds hstands
        (Radix.run_ne_nil_iff.mpr hdigit))
    exact hsettles.exec_still
  · have hnil (r : Radix) (hr : r ≠ .decimal) (hstands : r.announcement <+: src.drop start) :
        r.run src (start + r.announcement.length) = [] :=
      not_ne_iff.mp (Radix.run_ne_nil_iff.not.mpr (hnone r hr hstands))
    have hsettles : S.Settles (anyInteger none) pos _ :=
      signed_reading hpos (magnitude_unannounced hstart hrounds hnil)
    exact hsettles.exec_still

/-- A negative number in an announced base, which ends at a letter that is no digit, a zero
in front of letters that announce no digits, and a minus alone. -/
theorem integers_by_runs_announced :
    (∃ l, ((anyInteger none).run ⟨0, 9⟩ "-0x1Fg" (0 : Nat)).exec .empty
        = (.ok (Attempt.reply ⟨some (5, .int (-31)), l⟩), .empty))
      ∧ (∃ l, ((anyInteger none).run ⟨0, 9⟩ "0b2" (0 : Nat)).exec .empty
        = (.ok (Attempt.reply ⟨some (1, .int 0), l⟩), .empty))
      ∧ ∃ l, ((integer none hexadecimal).run ⟨0, 9⟩ "-g" (0 : Nat)).exec .empty
        = (.ok (Attempt.reply ⟨none, l⟩), .empty) := by
  refine ⟨?_, ?_, ?_⟩
  · obtain ⟨-, -, hannounced, -⟩ := @integers_by_runs 0 "-0x1Fg" ⟨0, 9⟩ (by decide)
      (by decide) .empty
    exact hannounced .hexadecimal Radix.noConfusion (by decide) (by decide)
  · obtain ⟨-, -, -, hnone⟩ := @integers_by_runs 0 "0b2" ⟨0, 9⟩ (by decide) (by decide) .empty
    refine hnone fun r hr => ?_
    cases r with
    | decimal => exact absurd rfl hr
    | binary | octal | hexadecimal => decide
  · obtain ⟨-, hknown, -⟩ := @integers_by_runs 0 "-g" ⟨0, 9⟩ (by decide) (by decide) .empty
    exact hknown .hexadecimal

end Prebuilt

end Furthest
