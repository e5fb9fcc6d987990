import Mathlib.Data.Nat.Digits.Lemmas
import Furthest.Prebuilt.Number
import Furthest.Proofs.CharacterRuns

/-!
# Numerals

How integers are written, and that what is written is read back. A numeral is an integer
together with the choices that its notation leaves open: whether it stands in decimal digits
or in those of a base that is announced, how many zeros lead the digits, and which of its
letters are uppercase.

An announcement begins with a zero, which is a digit as well, so that all four alternatives
may begin with the same character. They are told apart by the second one: that of an
announcement is a letter, and no letter stands among decimal digits or right behind them.
What follows a numeral is arbitrary, as long as it does not start with a letter or a digit.

## Main results

* `Numeral.positionalValue_digits`: the digits of a numeral have its value.
* `Prebuilt.anyInteger_numeral`: a numeral is read as its integer, whatever follows.
* `Prebuilt.parse_numerals_within`, `Prebuilt.parse_numerals`: **lists of numerals are read
  back.**
-/

namespace Furthest

/-! ### Digits -/

/-- The value of a run of digits, the digits taken from the last one on. -/
theorem Text.positionalValue_eq_ofDigits (b : Nat) (t : Text) :
    Text.positionalValue b t = Nat.ofDigits b (t.map Text.digitValue).reverse := by
  rw [Text.positionalValue, Nat.ofDigits_eq_foldr, List.foldr_reverse, List.foldl_map]
  congr 1
  funext n c
  exact Nat.add_comm _ _

/-- The character of a digit, where those behind the nine are letters of either case. -/
def Text.digitChar (upper : Bool) (d : Nat) : CodePoint :=
  if d < 10 then 48 + d else if upper then 55 + d else 87 + d

theorem Text.digitValue_digitChar {d : Nat} (hd : d < 16) (upper : Bool) :
    Text.digitValue (Text.digitChar upper d) = d := by
  revert d upper
  decide

/-! ### Notations -/

/-- The notations of an integer. -/
inductive Radix where
  /-- Decimal digits, which nothing announces. -/
  | decimal
  /-- Binary digits. -/
  | binary
  /-- Octal digits. -/
  | octal
  /-- Hexadecimal digits, with letters of either case. -/
  | hexadecimal

namespace Radix

/-- The number of the digits' values. -/
def number : Radix → Nat
  | decimal => 10
  | binary => 2
  | octal => 8
  | hexadecimal => 16

/-- What stands before the digits. -/
def announcement : Radix → Text
  | decimal => []
  | binary => "0b"
  | octal => "0o"
  | hexadecimal => "0x"

/-- The base of the parsers for the digits. -/
def base : Radix → Prebuilt.Base
  | decimal => Prebuilt.decimal
  | binary => Prebuilt.binary
  | octal => Prebuilt.octal
  | hexadecimal => Prebuilt.hexadecimal

variable (r : Radix)

theorem base_base : r.base.base = r.number := by cases r <;> rfl

theorem one_lt_number : 1 < r.number := by cases r <;> decide

theorem number_le : r.number ≤ 16 := by cases r <;> decide

/-- The characters of the digits are those that the parsers look for. -/
theorem digitChar_mem {d : Nat} (hd : d < r.number) (upper : Bool) :
    Text.digitChar upper d ∈ r.base.digits := by
  revert d upper
  cases r <;> decide

theorem digits_subset : ∀ c ∈ r.base.digits, c ∈ Charset.alnum := by
  cases r <;> decide

theorem announcement_subset : ∀ c ∈ r.announcement, c ∈ Charset.alnum := by
  cases r <;> decide

end Radix

/-! ### Numerals -/

/-- An integer and the way it is written. -/
structure Numeral where
  /-- The integer. -/
  value : Int
  /-- The notation of the magnitude. -/
  radix : Radix
  /-- The number of zeros before the digits. -/
  zeros : Nat
  /-- Whether the letter at an index of the digits is an uppercase one. -/
  upper : Nat → Bool

namespace Numeral

variable (n : Numeral)

/-- A minus if the integer is negative. -/
def sign : Text := if n.value < 0 then "-" else []

/-- The values of the digits, of which there is at least one. -/
def places : List Nat :=
  List.replicate n.zeros 0
    ++ if n.value = 0 then [0] else (Nat.digits n.radix.number n.value.natAbs).reverse

/-- The digits. -/
def digits : Text := n.places.mapIdx fun i d => Text.digitChar (n.upper i) d

/-- The numeral as a text. -/
def text : Text := n.sign ++ (n.radix.announcement ++ n.digits)

/-- There are no more decimal digits than a limit allows. -/
def Fits (limit : Option Nat) : Prop :=
  n.radix = .decimal → Text.exceeds n.digits.length limit = false

theorem places_lt : ∀ d ∈ n.places, d < n.radix.number := by
  have hone := n.radix.one_lt_number
  intro d hd
  rw [places, List.mem_append] at hd
  rcases hd with hd | hd
  · rw [List.eq_of_mem_replicate hd]
    omega
  · split at hd
    · rw [List.mem_singleton.mp hd]
      omega
    · exact Nat.digits_lt_base hone (List.mem_reverse.mp hd)

theorem ofDigits_places : Nat.ofDigits n.radix.number n.places.reverse = n.value.natAbs := by
  rw [places, List.reverse_append, List.reverse_replicate, Nat.ofDigits_append_replicate_zero]
  split
  next hzero =>
    rw [hzero, List.reverse_singleton, Nat.ofDigits_singleton]
    rfl
  next => rw [List.reverse_reverse, Nat.ofDigits_digits]

theorem digits_ne_nil : n.digits ≠ [] := by
  rw [digits, ne_eq, List.mapIdx_eq_nil_iff, places, List.append_eq_nil_iff]
  rintro ⟨-, hnil⟩
  split at hnil
  · exact List.cons_ne_nil _ _ hnil
  · rename_i hvalue
    rw [List.reverse_eq_nil_iff, Nat.digits_eq_nil_iff_eq_zero, Int.natAbs_eq_zero] at hnil
    exact hvalue hnil

theorem mem_digits {c : CodePoint} (hc : c ∈ n.digits) : c ∈ n.radix.base.digits := by
  obtain ⟨i, hi, rfl⟩ := List.mem_mapIdx.mp hc
  exact n.radix.digitChar_mem (n.places_lt _ (List.getElem_mem hi)) _

theorem map_digitValue_digits : n.digits.map Text.digitValue = n.places := by
  rw [digits]
  refine List.ext_getElem (by simp) fun i hi hi' => ?_
  have hlt : n.places[i] < 16 :=
    (n.places_lt _ (List.getElem_mem hi')).trans_le n.radix.number_le
  rw [List.getElem_map, List.getElem_mapIdx, Text.digitValue_digitChar hlt]

/-- **The digits have the value of the magnitude**, whatever leads them and whatever their
case. -/
theorem positionalValue_digits :
    Text.positionalValue n.radix.base.base n.digits = n.value.natAbs := by
  rw [Text.positionalValue_eq_ofDigits, n.radix.base_base, n.map_digitValue_digits,
    n.ofDigits_places]

/-- The sign, applied to the magnitude, gives the integer. -/
theorem applySign_natAbs :
    Prebuilt.applySign [.text n.sign, .int n.value.natAbs] = pure (.int n.value) := by
  have hvalue : (if (Value.text n.sign).isTruthy then -(n.value.natAbs : Int)
    else n.value.natAbs)
      = n.value := by
    rw [sign]
    split
    · have hminus : (Value.text "-").isTruthy = true := rfl
      rw [if_pos hminus]
      omega
    · have hplus : ¬ (Value.text []).isTruthy = true := Bool.false_ne_true
      rw [if_neg hplus]
      omega
  rw [Prebuilt.applySign, hvalue]

end Numeral

/-! ### Reading a numeral -/

namespace Radix

/-- Which alternatives come before that of an announced base. -/
theorem exists_split {r : Radix} (hr : r ≠ decimal) (rest : Text) :
    ∃ before after, Prebuilt.basePrefixes = before ++ (r.announcement, r.base) :: after
      ∧ ∀ e ∈ before, ¬ e.1 <+: r.announcement ++ rest := by
  cases r with
  | decimal => exact absurd rfl hr
  | binary =>
      exact ⟨[], [("0o", Prebuilt.octal), ("0x", Prebuilt.hexadecimal)], rfl,
        List.forall_mem_nil _⟩
  | octal =>
      refine ⟨[("0b", Prebuilt.binary)], [("0x", Prebuilt.hexadecimal)], rfl, ?_⟩
      rw [List.forall_mem_singleton]
      exact Text.not_prefix_append rest (by decide) (by decide)
  | hexadecimal =>
      refine ⟨[("0b", Prebuilt.binary), ("0o", Prebuilt.octal)], [], rfl, ?_⟩
      rw [List.forall_mem_cons, List.forall_mem_singleton]
      constructor
      · exact Text.not_prefix_append rest (by decide) (by decide)
      · exact Text.not_prefix_append rest (by decide) (by decide)

end Radix

namespace Prebuilt

open Furthest.Parser

/-- An announcement is a digit and a letter. -/
theorem exists_of_mem_basePrefixes {e : Text × Base} (he : e ∈ basePrefixes) :
    ∃ d letter, e.1 = [d, letter] ∧ letter ∈ Charset.alnum ∧ letter ∉ Charset.decimal := by
  rw [basePrefixes, List.mem_cons, List.mem_cons, List.mem_singleton] at he
  rcases he with rfl | rfl | rfl
  · exact ⟨48, 98, rfl, by decide, by decide⟩
  · exact ⟨48, 111, rfl, by decide, by decide⟩
  · exact ⟨48, 120, rfl, by decide, by decide⟩

/-- **No announcement stands in decimal digits**, with no letter behind them. -/
theorem not_prefix_decimal {e : Text × Base} (he : e ∈ basePrefixes)
    {w rest : Text} (hne : w ≠ []) (hw : ∀ c ∈ w, c ∈ Charset.decimal)
    (hrest : Text.NotLedBy Charset.alnum rest) : ¬ e.1 <+: w ++ rest := by
  obtain ⟨d, letter, heq, hletter, hdigit⟩ := exists_of_mem_basePrefixes he
  obtain ⟨c, w, rfl⟩ := List.exists_cons_of_ne_nil hne
  rw [heq, List.cons_append, List.cons_prefix_cons]
  rintro ⟨-, hp⟩
  -- the letter would be the second digit or, if there is none, the first character behind
  -- the digits
  cases w with
  | nil =>
      cases rest with
      | nil => exact List.cons_ne_nil _ _ (List.prefix_nil.mp hp)
      | cons c' rest =>
          obtain ⟨rfl, -⟩ := List.cons_prefix_cons.mp hp
          exact hrest _ rfl hletter
  | cons c' w =>
      obtain ⟨rfl, -⟩ := List.cons_prefix_cons.mp hp
      exact hdigit (hw _ (List.mem_cons_of_mem _ List.mem_cons_self))

variable {S : Setting} {rest : Text} {pos : Nat} {limit : Option Nat} {n : Numeral}

/-- Nothing is read as a minus that is none. -/
theorem optional_minus (h : S.src.RestAt pos (n.sign ++ rest)) (hrest : ¬ "-" <+: rest) :
    S.Settles (optional (literal "-") (.text [])) pos
      (some (pos + n.sign.length, .text n.sign)) := by
  rw [Numeral.sign] at h ⊢
  by_cases hneg : n.value < 0
  · rw [if_pos hneg] at h ⊢
    exact .alternatives_head (.literal h) _
  · rw [if_neg hneg] at h ⊢
    exact .alternatives (List.forall_mem_singleton.mpr (.literal_none h hrest))
      (.succeed _ _) []

theorem integerOf_digits (hlimit : n.Fits limit) :
    integerOf limit n.radix.base (.text n.digits) = pure (.int n.value.natAbs) := by
  have hfits : (decide (n.radix.base.base = 10) && Text.exceeds n.digits.length limit)
    = false := by
    cases hradix : n.radix with
    | decimal => exact hlimit hradix
    | binary | octal | hexadecimal => rfl
  rw [integerOf, hfits, if_neg Bool.false_ne_true, n.positionalValue_digits]

/-- The digits of a numeral. -/
theorem unsigned_numeral (h : S.src.RestAt pos (n.digits ++ rest))
    (hrest : Text.NotLedBy Charset.alnum rest) (hrounds : S.src.length < S.limits.rounds)
    (hlimit : n.Fits limit) :
    S.Settles (unsigned limit n.radix.base) pos
      (some (pos + n.digits.length, .int n.value.natAbs)) := by
  have hend : Text.NotLedBy n.radix.base.digits rest :=
    fun c hc hmem => hrest c hc (n.radix.digits_subset c hmem)
  exact (digitsOf_some _ h n.digits_ne_nil (fun _ => n.mem_digits) hend hrounds).map
    (integerOf_digits hlimit)

/-- The announcement and the digits of a numeral. -/
theorem magnitude_numeral (h : S.src.RestAt pos (n.radix.announcement ++ (n.digits ++ rest)))
    (hrest : Text.NotLedBy Charset.alnum rest) (hrounds : S.src.length < S.limits.rounds)
    (hlimit : n.Fits limit) :
    S.Settles (alternatives
      (basePrefixes.map (fun p => (literal p.1).andThen (unsigned limit p.2))
      ++ [unsigned limit decimal])) pos
      (some (pos + n.radix.announcement.length + n.digits.length, .int n.value.natAbs)) := by
  have hdigits := unsigned_numeral h.advance hrest hrounds hlimit
  -- decimal digits are the last alternative, and all announced bases have to be refused
  -- before
  by_cases hradix : n.radix = .decimal
  · have hmem : ∀ c ∈ n.digits, c ∈ Charset.decimal := by
      intro c hc
      have hbase := n.mem_digits hc
      rwa [hradix] at hbase
    rw [hradix] at h hdigits ⊢
    have hrests : S.src.RestAt pos (n.digits ++ rest) := h
    refine .alternatives ?_ hdigits []
    rw [List.forall_mem_map]
    intro e he
    have hnone := not_prefix_decimal he n.digits_ne_nil hmem hrest
    exact .andThen_none_left (.literal_none hrests hnone) _
  · obtain ⟨before, after, hsplit, hbefore⟩ := n.radix.exists_split hradix (n.digits ++ rest)
    rw [hsplit, List.map_append, List.map_cons, List.append_assoc, List.cons_append]
    refine .alternatives ?_ (.andThen (.literal h) hdigits) _
    rw [List.forall_mem_map]
    exact fun e he => .andThen_none_left (.literal_none h (hbefore e he)) _

/-- A minus stands before no announcement and before no digit. -/
theorem not_prefix_magnitude (rest : Text) :
    ¬ "-" <+: n.radix.announcement ++ (n.digits ++ rest) := by
  have hmem : ∀ c ∈ n.radix.announcement ++ n.digits, c ∈ Charset.alnum := by
    rw [List.forall_mem_append]
    exact ⟨n.radix.announcement_subset, fun c hc => n.radix.digits_subset c (n.mem_digits hc)⟩
  have hne : n.radix.announcement ++ n.digits ≠ [] :=
    List.append_ne_nil_of_right_ne_nil _ n.digits_ne_nil
  obtain ⟨c, w, hcons⟩ := List.exists_cons_of_ne_nil hne
  rw [hcons] at hmem
  rw [← List.append_assoc, hcons, List.cons_append]
  intro hp
  obtain ⟨rfl, -⟩ := List.cons_prefix_cons.mp hp
  exact absurd (hmem 45 List.mem_cons_self) (by decide)

/-- **A numeral is read as its integer**, whatever follows that is no letter and no
digit. -/
theorem anyInteger_numeral (h : S.src.RestAt pos (n.text ++ rest))
    (hrest : Text.NotLedBy Charset.alnum rest) (hrounds : S.src.length < S.limits.rounds)
    (hlimit : n.Fits limit) :
    S.Settles (anyInteger limit) pos (some (pos + n.text.length, .int n.value)) := by
  rw [Numeral.text, List.append_assoc, List.append_assoc] at h
  have hrow : S.Row _ pos [.text n.sign, .int n.value.natAbs] _ :=
    .cons (optional_minus h (not_prefix_magnitude rest))
      (.cons (magnitude_numeral h.advance hrest hrounds hlimit) (.nil _))
  have hlength : pos + n.text.length
      = pos + n.sign.length + n.radix.announcement.length + n.digits.length := by
    rw [Numeral.text, List.length_append, List.length_append]
    omega
  rw [hlength]
  exact (Setting.Settles.seq hrow).map n.applySign_natAbs

/-- At the end there is no integer. -/
theorem anyInteger_nil (h : S.src.RestAt pos []) (limit : Option Nat) :
    S.Settles (anyInteger limit) pos none := by
  have hminus : S.Settles (literal "-") pos none := .literal_end h (by decide)
  have hsign : S.Settles (optional (literal "-") (.text [])) pos (some (pos, .text [])) :=
    .alternatives (List.forall_mem_singleton.mpr hminus) (.succeed _ _) []
  refine (Setting.Settles.seq_none (.cons hsign (.nil pos))
    (.alternatives_none ?_) []).map_none _
  rw [List.forall_mem_append, List.forall_mem_map, List.forall_mem_singleton]
  refine ⟨fun e he => ?_, (digitsOf_none _ h (Text.notLedBy_nil _)).map_none _⟩
  obtain ⟨d, letter, heq, -⟩ := exists_of_mem_basePrefixes he
  rw [heq]
  exact .andThen_none_left (.literal_end h (List.cons_ne_nil _ _)) _

/-! ### Lists of numerals -/

/-- The texts behind the first one, each with a comma before it. -/
theorem join_eq_append_flatMap (separator t : Text) (ts : List Text) :
    Text.join separator (t :: ts) = t ++ ts.flatMap (separator ++ ·) := by
  induction ts generalizing t with
  | nil => exact (List.append_nil t).symm
  | cons t' ts ih =>
      rw [Text.join, ih, List.flatMap_cons, List.append_assoc, List.append_assoc]
      exact List.cons_ne_nil _ _

/-- What follows a numeral in a list. -/
def numeralTail (ns : List Numeral) : Text := ns.flatMap fun n => "," ++ n.text

theorem numeralTail_cons (n : Numeral) (ns : List Numeral) :
    numeralTail (n :: ns) = "," ++ (n.text ++ numeralTail ns) := by
  rw [numeralTail, List.flatMap_cons, List.append_assoc, numeralTail]

/-- A list of numerals is the first one and what follows it. -/
theorem join_numerals (n : Numeral) (ns : List Numeral) :
    Text.join "," ((n :: ns).map Numeral.text) = n.text ++ numeralTail ns := by
  rw [List.map_cons, join_eq_append_flatMap, List.flatMap_map, numeralTail]

theorem numeralTail_notLedBy (ns : List Numeral) :
    Text.NotLedBy Charset.alnum (numeralTail ns) := by
  cases ns with
  | nil => exact Text.notLedBy_nil _
  | cons n ns => exact Text.notLedBy_cons (by decide)

theorem length_le_length_numeralTail (ns : List Numeral) :
    ns.length ≤ (numeralTail ns).length := by
  induction ns with
  | nil => exact Nat.zero_le _
  | cons n ns ih =>
      have hcomma : ("," : Text).length = 1 := rfl
      rw [numeralTail_cons, List.length_append, List.length_append, List.length_cons]
      omega

/-- The numerals behind the first one are read one after the other, each with the comma
before it. -/
theorem rounds_numeralTail {ns : List Numeral} (h : S.src.RestAt pos (numeralTail ns))
    (hrounds : S.src.length < S.limits.rounds)
    (hlimit : ∀ n ∈ ns, n.Fits limit) :
    S.Rounds ((literal ",").andThen (anyInteger limit)) pos (ns.map (.int ·.value))
      (pos + (numeralTail ns).length) := by
  induction ns generalizing pos with
  | nil => exact .nil pos
  | cons n ns ih =>
      rw [List.forall_mem_cons] at hlimit
      rw [numeralTail_cons] at h ⊢
      have hnumeral := anyInteger_numeral h.advance (numeralTail_notLedBy ns) hrounds hlimit.1
      have hcomma : ("," : Text).length = 1 := rfl
      have hround := Setting.Settles.andThen (.literal h) hnumeral
      rw [List.length_append, List.length_append, ← Nat.add_assoc, ← Nat.add_assoc]
      exact .cons hround (by omega) (ih h.advance.advance hlimit.2)

/-- **Lists of numerals are read back**, if no numeral has more decimal digits than are
allowed. -/
theorem parse_numerals_within (ns : List Numeral) (limit : Option Nat)
    (hlimit : ∀ n ∈ ns, n.Fits limit)
    {limits : Limits} (hrounds : (Text.join "," (ns.map Numeral.text)).length < limits.rounds)
    (s : Store) :
    (((anyInteger limit).sepBy (literal ",")).parse limits
        (Text.join "," (ns.map Numeral.text))).exec s
      = (.ok (.value (.list (ns.map (.int ·.value)))), s) := by
  let S := Setting.still (Text.join "," (ns.map Numeral.text)) limits s
  have hstart : S.src.RestAt 0 (Text.join "," (ns.map Numeral.text)) := .start _
  suffices h : S.Settles ((anyInteger limit).sepBy (literal ",")) 0
      (some (S.src.length, .list (ns.map (.int ·.value)))) from h.parse_still
  cases ns with
  | nil => exact .sepBy_nil (anyInteger_nil hstart limit) _
  | cons n ns =>
      rw [List.forall_mem_cons] at hlimit
      have hcount : (ns.map (Value.int ·.value)).length < limits.rounds := by
        have hle := length_le_length_numeralTail ns
        rw [join_numerals, List.length_append] at hrounds
        rw [List.length_map]
        omega
      rw [join_numerals] at hstart
      have hfirst := anyInteger_numeral hstart (numeralTail_notLedBy ns) hrounds hlimit.1
      have hothers := rounds_numeralTail hstart.advance hrounds hlimit.2
      have hend := hstart.advance.finish
      have hlength := hend.length_eq
      rw [List.length_nil, Nat.add_zero] at hlength
      rw [hlength] at hothers hend
      have hcomma : S.Settles (literal ",") S.src.length none := .literal_end hend (by decide)
      exact .sepBy hfirst hothers (.andThen_none_left hcomma _) hcount

/-- **Lists of integers survive printing and parsing**, in whichever notations the integers
are written. -/
theorem parse_numerals (ns : List Numeral) {limits : Limits}
    (hrounds : (Text.join "," (ns.map Numeral.text)).length < limits.rounds) (s : Store) :
    (((anyInteger none).sepBy (literal ",")).parse limits
        (Text.join "," (ns.map Numeral.text))).exec s
      = (.ok (.value (.list (ns.map (.int ·.value)))), s) :=
  parse_numerals_within ns none (fun _ _ _ => rfl) hrounds s

/-- Numerals of all notations. The second one is a zero that leads no announcement, and the
last one has digits that would be an announcement in another base. -/
theorem parse_numerals_mixed :
    let ns : List Numeral :=
      [⟨-10, .hexadecimal, 1, fun _ => true⟩, ⟨0, .decimal, 0, fun _ => false⟩,
        ⟨-5, .binary, 0, fun _ => false⟩, ⟨8, .octal, 2, fun _ => false⟩,
        ⟨11, .hexadecimal, 1, fun _ => false⟩]
    let src : Text := "-0x0A,0,-0b101,0o0010,0x0b"
    Text.join "," (ns.map Numeral.text) = src
      ∧ (((anyInteger none).sepBy (literal ",")).parse ⟨0, 40⟩ src).exec .empty
          = (.ok (.value (.list [.int (-10), .int 0, .int (-5), .int 8, .int 11])),
            .empty) := by
  intro ns src
  have htext : Text.join "," (ns.map Numeral.text) = src := by decide
  have hrounds : (Text.join "," (ns.map Numeral.text)).length < (⟨0, 40⟩ : Limits).rounds := by
    rw [htext]
    decide
  have hvalues : ns.map (Value.int ·.value)
      = [.int (-10), .int 0, .int (-5), .int 8, .int 11] := rfl
  have hparse := parse_numerals ns hrounds .empty
  rw [htext, hvalues] at hparse
  exact ⟨htext, hparse⟩

end Prebuilt

end Furthest
