import Furthest.Prebuilt.Characters
import Furthest.Proofs.Outcomes

/-!
# Patterns of Characters of a Set

What the patterns of the library match that ask for a number of characters of a set.
Matching such a pattern takes neither choices nor backing up, so it can be said outright
what it comes to: the characters are there and belong to the set, or there is no match.

## Main results

* `Regex.required_chars_some`, `Regex.required_chars_none`: a number of characters of a set.
* `Regex.Pattern.hexQuad`: the pattern of four hexadecimal digits.
* `Regex.Pattern.hexQuad_some`, `Regex.Pattern.hexQuad_none`: what it matches.
-/

namespace Furthest

namespace Regex

/-! ### Rounds of characters -/

section

variable {src rest w : Text} {set : CharSet} {pos n : Nat} {c : CodePoint}

/-- A required round comes before the rest of them. -/
theorem required_succ (body : Step) (n : Nat) (st : State) (k : State → Option State) :
    required body (n + 1) st k = body st fun st' => required body n st' k := rfl

/-- A character of a set. -/
theorem step_chars_cons (h : src.RestAt pos (c :: rest)) (groups : List (Option (Nat × Nat)))
    (k : State → Option State) :
    (Node.chars set).step src ⟨pos, groups⟩ k
      = if set.holds c = true then k ⟨pos + 1, groups⟩ else none := by
  have hget : charAt src pos = some c := by
    rw [charAt, ← List.head?_drop, h.drop]
    rfl
  simp only [Node.step, hget]

/-- At the end there is no character. -/
theorem step_chars_nil (h : src.RestAt pos []) (groups : List (Option (Nat × Nat)))
    (k : State → Option State) : (Node.chars set).step src ⟨pos, groups⟩ k = none := by
  have hget : charAt src pos = none := by
    rw [charAt, ← List.head?_drop, h.drop]
    rfl
  simp only [Node.step, hget]

/-- Where no character of a set stands, none is matched. -/
theorem step_chars_none (h : src.RestAt pos rest)
    (hrest : ∀ c, rest.head? = some c → set.holds c = false)
    (groups : List (Option (Nat × Nat))) (k : State → Option State) :
    (Node.chars set).step src ⟨pos, groups⟩ k = none := by
  cases rest with
  | nil => exact step_chars_nil h groups k
  | cons c rest => rw [step_chars_cons h, hrest c rfl, if_neg Bool.false_ne_true]

/-- As many characters of a set as are asked for. -/
theorem required_chars_some (h : src.RestAt pos (w ++ rest)) (hw : ∀ c ∈ w, set.holds c = true)
    (groups : List (Option (Nat × Nat))) (k : State → Option State) :
    required ((Node.chars set).step src) w.length ⟨pos, groups⟩ k
      = k ⟨pos + w.length, groups⟩ := by
  induction w generalizing pos with
  | nil => rfl
  | cons c w ih =>
      rw [List.forall_mem_cons] at hw
      rw [List.length_cons, required_succ, step_chars_cons h, if_pos hw.1, ih h.next hw.2,
        Nat.add_assoc, Nat.add_comm 1]

/-- Fewer characters of a set than are asked for. -/
theorem required_chars_none (h : src.RestAt pos rest)
    (hn : ∀ w : Text, w.length = n → (∀ c ∈ w, set.holds c = true) → ¬ w <+: rest)
    (groups : List (Option (Nat × Nat))) (k : State → Option State) :
    required ((Node.chars set).step src) n ⟨pos, groups⟩ k = none := by
  induction n generalizing pos rest with
  | zero => exact absurd List.nil_prefix (hn [] rfl (List.forall_mem_nil _))
  | succ n ih =>
      rw [required_succ]
      cases rest with
      | nil => exact step_chars_nil h _ _
      | cons c rest =>
          rw [step_chars_cons h]
          split
          · next hc =>
            refine ih h.next fun w hlen hw hp => ?_
            refine hn (c :: w) (congrArg (· + 1) hlen) ?_ (List.cons_prefix_cons.mpr ⟨rfl, hp⟩)
            exact List.forall_mem_cons.mpr ⟨hc, hw⟩
          · rfl

end

namespace Pattern

/-! ### Patterns -/

deriving instance DecidableEq for Pattern

/-- A pattern that is known to be well formed is what its source is compiled to. -/
theorem ofPattern_eq {source : Text} {p : Pattern} (h : (compile source 0).toOption = some p) :
    Parser.ofPattern source = .regex p 0 := by
  rw [Parser.ofPattern]
  cases hc : compile source 0 with
  | error fault => rw [hc] at h; cases h
  | ok p' =>
      rw [hc] at h
      rw [Option.some.inj h]

/-- What a pattern that does not show the trail matches at an offset of a text that is not
longer than offsets can tell. -/
theorem matchAt?_eq {p : Pattern} (hp : p.showsTrail = false) {src rest : Text} {pos : Nat}
    (h : src.RestAt pos rest) (hsrc : src.length < Text.offsetLimit) :
    p.matchAt? src pos 0
      = .ok ((p.node.match? src p.groups pos).map fun st =>
        (st.pos, span src pos st.pos)) := by
  have hle := h.le
  have hlimit : ¬ ((pos : Int) < -Text.offsetLimit ∨ Text.offsetLimit ≤ pos) := by
    have : 0 < Text.offsetLimit := by decide
    omega
  have hneg : ¬ (pos : Int) < 0 := by omega
  have hmin : min (pos : Int).toNat src.length = pos := by omega
  simp only [matchAt?, if_neg hlimit, if_neg hneg, hmin, hp, Bool.false_eq_true,
    if_false, matchFrom?]
  cases p.node.match? src p.groups pos <;> rfl

/-! ### Four hexadecimal digits -/

/-- The set of the hexadecimal digits. -/
def hexSet : CharSet :=
  { items := [.range 48 57, .range 97 102, .range 65 70], negated := false, ignoreCase := false
    ascii := false }

/-- The pattern of four hexadecimal digits. -/
def hexQuad : Pattern :=
  { source := "[0-9a-fA-F]\x7b4\x7d", flags := Flags.unicode, groups := 0, names := []
    node := .repeated .greedy 4 (some 0) (.chars hexSet) }

theorem ofPattern_hexQuad : Parser.ofPattern "[0-9a-fA-F]\x7b4\x7d" = .regex hexQuad 0 :=
  ofPattern_eq (by decide +kernel)

theorem holds_hexSet (c : CodePoint) : hexSet.holds c = true ↔ c ∈ Charset.hexadecimal := by
  have hascii : ∀ c < 128, (hexSet.holds c = true ↔ c ∈ Charset.hexadecimal) := by
    decide +kernel
  have hbound : ∀ d ∈ Charset.hexadecimal, d < 128 := by decide
  by_cases hc : c < 128
  · exact hascii c hc
  · have hnot : ¬ hexSet.holds c = true := by
      simp only [hexSet, CharSet.holds, CharSet.itemHolds, CharSet.variants, List.any_cons,
        List.any_nil, Bool.not_false, if_true]
      grind
    exact ⟨fun h => absurd h hnot, fun h => absurd (hbound c h) hc⟩

section

variable {src rest : Text} {pos : Nat} (hsrc : src.length < Text.offsetLimit)
include hsrc

/-- Matching the pattern is asking for four characters of the set. -/
theorem hexQuad_matchAt? (h : src.RestAt pos rest) :
    hexQuad.matchAt? src pos 0
      = .ok ((required ((Node.chars hexSet).step src) 4 ⟨pos, [none]⟩ some).map
          fun st => (st.pos, span src pos st.pos)) := by
  rw [matchAt?_eq (by decide) h hsrc]
  rfl

theorem hexQuad_some {digits : Text} (h : src.RestAt pos (digits ++ rest))
    (hlen : digits.length = 4) (hd : ∀ d ∈ digits, d ∈ Charset.hexadecimal) :
    hexQuad.matchAt? src pos 0 = .ok (some (pos + 4, digits)) := by
  have hholds : ∀ d ∈ digits, hexSet.holds d = true :=
    fun d hmem => (holds_hexSet d).mpr (hd d hmem)
  have hspan : span src pos (pos + 4) = digits := by
    rw [span, h.drop, Nat.add_sub_cancel_left, ← hlen, List.take_left]
  have hr := required_chars_some h hholds [none] some
  rw [hlen] at hr
  rw [hexQuad_matchAt? hsrc h, hr, Option.map_some, hspan]

theorem hexQuad_none (h : src.RestAt pos rest)
    (hn : ∀ digits : Text, digits.length = 4 → (∀ d ∈ digits, d ∈ Charset.hexadecimal) →
      ¬ digits <+: rest) : hexQuad.matchAt? src pos 0 = .ok none := by
  have hnone : ∀ w : Text, w.length = 4 → (∀ c ∈ w, hexSet.holds c = true) → ¬ w <+: rest :=
    fun w hlen hw => hn w hlen fun d hmem => (holds_hexSet d).mp (hw d hmem)
  rw [hexQuad_matchAt? hsrc h, required_chars_none h hnone, Option.map_none]

end

end Pattern

end Regex

end Furthest
