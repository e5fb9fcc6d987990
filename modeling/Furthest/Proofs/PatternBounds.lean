import Furthest.Proofs.TrailBounds

/-!
# Where Matches of Patterns End

A match of a pattern at an offset of a text ends between that offset and the end of the
text. Every step of the matcher hands on what follows to a continuation, so the property to
carry along is about continuations: if a step succeeds, it does so by way of a state that
lies between its own state and the end of the text. Each way of putting steps together keeps
this. Together with the bounds of matches with a trail it bounds the matches of all
patterns.

## Main results

* `Regex.Node.step_forward`: matching a node goes forward.
* `Regex.Pattern.le_of_matchAt?`: the bounds of a match.
-/

namespace Furthest.Regex

/-- A continuation succeeds by way of a state between a given one and the end of the
text. -/
def State.Reaches (src : Text) (st : State) (k : State → Option State) (r : State) : Prop :=
  ∃ st' : State, st.pos ≤ st'.pos ∧ st'.pos ≤ src.length ∧ k st' = some r

namespace State.Reaches

variable {src : Text} {st st' r : State} {k k' : State → Option State}

/-- By way of the state itself, or one at the same offset. -/
theorem here (hst : st.pos ≤ src.length) (h : k st' = some r) (hpos : st.pos = st'.pos) :
    st.Reaches src k r := ⟨st', Nat.le_of_eq hpos, hpos ▸ hst, h⟩

/-- By way of what a first continuation leads to. -/
theorem trans (h : st.Reaches src k' r)
    (hk : ∀ st',
      st.pos ≤ st'.pos → st'.pos ≤ src.length → k' st' = some r → st'.Reaches src k r) :
    st.Reaches src k r := by
  obtain ⟨st₁, h₁, hs₁, hk₁⟩ := h
  obtain ⟨st₂, h₂, hs₂, hk₂⟩ := hk st₁ h₁ hs₁ hk₁
  exact ⟨st₂, Nat.le_trans h₁ h₂, hs₂, hk₂⟩

end State.Reaches

/-- A step that goes forward: it succeeds only by way of a state between its own state and
the end of the text. -/
def Step.Forward (src : Text) (step : Step) : Prop :=
  ∀ ⦃st : State⦄ ⦃k : State → Option State⦄ ⦃r : State⦄, st.pos ≤ src.length →
    step st k = some r → st.Reaches src k r

namespace Step.Forward

variable {src : Text} {body rest : Step}

/-- What follows, without a step before it. -/
theorem done : Forward src fun st k => k st := fun _ _ _ hst h => .here hst h rfl

/-- Two steps, one after the other. -/
theorem andThen (hb : Forward src body) (hr : Forward src rest) :
    Forward src fun st k => body st fun st' => rest st' k :=
  fun _ _ _ hst h => (hb hst h).trans fun _ _ hst' hk => hr hst' hk

theorem required (hb : Forward src body) (n : Nat) : Forward src (required body n) := by
  induction n with
  | zero => exact .done
  | succ n ih => exact hb.andThen ih

theorem greedily (hb : Forward src body) (fuel : Nat) (extra last : Option Nat) :
    Forward src (greedily body fuel extra last) := by
  induction fuel generalizing extra last with
  | zero => exact .done
  | succ fuel ih =>
      intro st k r hst h
      simp only [Regex.greedily] at h
      split at h
      · exact .here hst h rfl
      · split at h
        · next hbody =>
          obtain rfl := Option.some.inj h
          exact (hb hst hbody).trans fun _ _ hst' hk => ih _ _ hst' hk
        · exact .here hst h rfl

theorem reluctantly (hb : Forward src body) (fuel : Nat) (extra last : Option Nat) :
    Forward src (reluctantly body fuel extra last) := by
  induction fuel generalizing extra last with
  | zero => exact .done
  | succ fuel ih =>
      intro st k r hst h
      simp only [Regex.reluctantly] at h
      split at h
      · next hk =>
        obtain rfl := Option.some.inj h
        exact .here hst hk rfl
      · split at h
        · cases h
        · exact (hb hst h).trans fun _ _ hst' hk => ih _ _ hst' hk

theorem committed (hb : Forward src body) : Forward src (committed body) := by
  intro st k r hst h
  obtain ⟨st', hbody, hk⟩ := Option.bind_eq_some_iff.mp h
  obtain ⟨st₁, h₁, hs₁, hk₁⟩ := hb hst hbody
  obtain rfl := Option.some.inj hk₁
  exact ⟨st₁, h₁, hs₁, hk⟩

theorem rounds (hb : Forward src body) (style : Style) (fuel least : Nat)
    (extra : Option Nat) :
    Forward src (rounds body style fuel least extra) := by
  cases style with
  | greedy => exact (hb.required least).andThen (hb.greedily fuel extra none)
  | reluctant => exact (hb.required least).andThen (hb.reluctantly fuel extra none)
  | possessive =>
      have hc := hb.committed
      exact ((hc.required least).andThen (hc.greedily fuel extra none)).committed

end Step.Forward

/-- **Matching a node goes forward.** -/
theorem Node.step_forward (src : Text) (node : Node) : (node.step src).Forward src := by
  induction node with
  | empty => exact .done
  | chars set =>
      intro st k r hst h
      simp only [step] at h
      split at h
      · next c hc =>
        split at h
        · exact ⟨{ st with pos := st.pos + 1 }, Nat.le_succ st.pos, lt_length_of_charAt hc, h⟩
        · cases h
      · cases h
  | anchor a =>
      intro st k r hst h
      simp only [step] at h
      split at h
      · exact .here hst h rfl
      · cases h
  | group index body ih =>
      intro st k r hst h
      exact (ih hst h).trans fun _ _ hst' hk => .here hst' hk rfl
  | backref index ignoreCase ascii =>
      intro st k r hst h
      simp only [step] at h
      split at h
      · split at h
        · next hstands =>
          have hle := add_length_le_of_standsIgnoring hst hstands
          exact ⟨_, Nat.le_add_right _ _, hle, h⟩
        · cases h
      · cases h
  | seq first second ih₁ ih₂ => exact ih₁.andThen ih₂
  | alt first second ih₁ ih₂ =>
      intro st k r hst h
      simp only [step] at h
      split at h
      · next hfirst =>
        obtain rfl := Option.some.inj h
        exact ih₁ hst hfirst
      · exact ih₂ hst h
  | conditional index present absent ih₁ ih₂ =>
      intro st k r hst h
      simp only [step] at h
      split at h
      · exact ih₁ hst h
      · exact ih₂ hst h
  | repeated style least extra body ih => exact ih.rounds style _ least extra
  | atomic body ih => exact ih.committed
  | look behind negated body ih =>
      intro st k r hst h
      simp only [step] at h
      split at h
      · exact .here hst h rfl
      · exact .here hst h rfl
      · cases h

namespace Pattern

variable {p : Pattern} {src text : Text} {start group stop : Nat}

theorem le_of_matchFrom? (hstart : start ≤ src.length)
    (h : p.matchFrom? src start group = some (stop, text)) :
    start ≤ stop ∧ stop ≤ src.length := by
  simp only [matchFrom?] at h
  split at h
  · cases h
  · next st hst =>
    obtain ⟨st', hle, hlen, hk⟩ := p.node.step_forward src hstart hst
    obtain rfl := Option.some.inj hk
    have hpos : st'.pos = stop := by
      split at h
      · exact congrArg Prod.fst (Option.some.inj h)
      · obtain ⟨t, -, ht⟩ := Option.map_eq_some_iff.mp h
        exact congrArg Prod.fst ht
    exact hpos ▸ ⟨hle, hlen⟩

theorem le_of_matchTrailFrom? (hstart : start ≤ src.length)
    (h : p.matchTrailFrom? src start group = .ok (some (stop, text))) :
    start ≤ stop ∧ stop ≤ src.length := by
  simp only [matchTrailFrom?] at h
  split at h
  · cases h
  · next stop' marks hm =>
    have hpos : stop' = stop := by
      split at h
      · cases h
      · split at h
        · exact congrArg Prod.fst (Option.some.inj (Except.ok.inj h))
        · obtain ⟨t, -, ht⟩ := Option.map_eq_some_iff.mp (Except.ok.inj h)
          exact congrArg Prod.fst ht
    exact hpos ▸ Trail.le_of_match? hstart hm

/-- **A match of a pattern at an offset of a text ends between that offset and the end of
the text**, whichever edition of the matcher the pattern is meant for. -/
theorem le_of_matchAt? {pos : Int} (h₀ : 0 ≤ pos) (h₁ : pos ≤ src.length)
    (h : p.matchAt? src pos group = .ok (some (stop, text))) :
    pos ≤ stop ∧ stop ≤ src.length := by
  obtain ⟨start, rfl⟩ := Int.eq_ofNat_of_zero_le h₀
  have hstart : start ≤ src.length := Int.ofNat_le.mp h₁
  have hneg : ¬ (start : Int) < 0 := by omega
  have hmin : min (start : Int).toNat src.length = start := by omega
  simp only [matchAt?, if_neg hneg, hmin] at h
  rw [Int.ofNat_le]
  split at h
  · cases h
  · split at h
    · exact le_of_matchTrailFrom? hstart h
    · exact le_of_matchFrom? hstart (Except.ok.inj h)

end Pattern

end Furthest.Regex
