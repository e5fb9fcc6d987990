import Furthest.Regex.Pattern

/-!
# Where Matches with a Trail End

A match with a trail goes on from wherever a failed round has left the trail, so that it is
not enough to follow the states on the way to a success. What a step comes to, be it a match
or a failure, is bounded by what the continuation comes to: `Trail.Outcome.Forward` asks of
a match that it ends inside the text and not before an offset, and of a failure that the
trail it leaves lies inside the text. A step goes forward if it keeps any such bound that
the continuation meets in all states from its own on. Each way of putting steps together
keeps this.

## Main results

* `Regex.Trail.step_forward`: matching a node with a trail goes forward.
* `Regex.Trail.le_of_match?`: a match with a trail ends between its start and the end of the
  text.
-/

namespace Furthest.Regex

/-- A text that stands at an offset ends within the text around it. -/
theorem add_length_le_of_standsIgnoring {ignoreCase ascii : Bool} {src part : Text} {pos : Nat}
    (hpos : pos ≤ src.length) (h : standsIgnoring ignoreCase ascii src part pos = true) :
    pos + part.length ≤ src.length := by
  have hlen := (List.isPrefixOf_iff_prefix.mp h).length_le
  simp only [List.length_map, List.length_drop] at hlen
  omega

/-- Where there is a character, the text goes on. -/
theorem lt_length_of_charAt {src : Text} {pos : Nat} {c : CodePoint}
    (h : charAt src pos = some c) :
    pos < src.length := (List.getElem?_eq_some_iff.mp h).1

namespace Trail

/-- Offset and trail lie in the text. -/
structure State.Inside (src : Text) (st : State) : Prop where
  /-- The offset does. -/
  pos : st.pos ≤ src.length
  /-- The trail does. -/
  trail : st.trail ≤ src.length

/-- A match ends inside the text and not before an offset, and a failure leaves its trail
inside the text. -/
def Outcome.Forward (src : Text) (lo : Nat) : Outcome → Prop
  | .matched st => lo ≤ st.pos ∧ st.Inside src
  | .failed trail _ => trail ≤ src.length

/-- A step that goes forward: it comes to what is bounded by an offset if what follows does,
in all states from its own on. -/
def Step.Forward (src : Text) (step : Step) : Prop :=
  ∀ ⦃lo : Nat⦄ ⦃st : State⦄ ⦃k : State → Outcome⦄, st.Inside src →
    (∀ st', st.pos ≤ st'.pos → st'.Inside src → (k st').Forward src lo) →
    (step st k).Forward src lo

variable {src : Text} {st : State} {lo : Nat}

namespace State.Inside

/-- Something is tried in such a state. -/
theorem trying (h : st.Inside src) : st.trying.Inside src := ⟨h.pos, h.pos⟩

/-- An expression that is matched by itself ends in such a state. -/
theorem done (h : st.Inside src) (hlo : lo ≤ st.pos) : st.done.Forward src lo :=
  ⟨hlo, h.trying⟩

/-- A failure in such a state leaves the trail where it is. -/
theorem fail (h : st.Inside src) : st.fail.Forward src lo := h.trail

end State.Inside

/-- A failure that is handled. -/
theorem Outcome.Forward.orElse {o : Outcome} {handler : Nat → Marks → Outcome}
    (h : o.Forward src lo)
    (hh : ∀ trail marks, trail ≤ src.length → (handler trail marks).Forward src lo) :
    (o.orElse handler).Forward src lo := by
  cases o with
  | matched st => exact h
  | failed trail marks => exact hh trail marks h

namespace Step.Forward

variable {body rest : Step}

/-- What follows, without a step before it. -/
theorem done : Forward src fun st k => k st := fun _ st _ hst hk => hk st (Nat.le_refl _) hst

/-- Two steps, one after the other. -/
theorem andThen (hb : Forward src body) (hr : Forward src rest) :
    Forward src fun st k => body st fun st' => rest st' k :=
  fun _ _ _ hst hk => hb hst fun _ h hst' =>
    hr hst' fun st'' h' => hk st'' (Nat.le_trans h h')

/-- An expression that is matched by itself. -/
theorem alone (hb : Forward src body) (hst : st.Inside src) :
    (body st State.done).Forward src st.pos :=
  hb hst fun _ h hst' => hst'.done h

theorem alternative (hb : Forward src body) (guarded : Bool) (first : Option CharSet) :
    Forward src (alternative src guarded first body) := by
  intro lo st k hst hk
  unfold Trail.alternative
  extract_lets isPossible
  split
  · exact (hb hst.trying hk).orElse fun _ _ h => h
  · exact hst.fail

/-! ### Repetitions of a single character -/

/-- The characters that stand at an offset end within the text. -/
theorem add_run_le (set : CharSet) {pos : Nat} (limit : Option Nat) (hpos : pos ≤ src.length) :
    pos + run src set pos limit ≤ src.length := by
  have hstand := (List.takeWhile_prefix set.holds (l := src.drop pos)).length_le
  rw [List.length_drop] at hstand
  cases limit with
  | none => simp only [run]; omega
  | some n => simp only [run]; omega

theorem fromLongest (guarded : Bool) (next : Option CodePoint) {shortest : Nat}
    (before : Marks) {extra : Nat} {k : State → Outcome} (hst : st.Inside src)
    (hle : st.pos ≤ shortest) (hextra : shortest + extra ≤ src.length)
    (hk : ∀ st', st.pos ≤ st'.pos → st'.Inside src → (k st').Forward src lo) :
    (fromLongest src guarded next shortest before extra st k).Forward src lo := by
  induction extra generalizing st with
  | zero =>
      unfold Trail.fromLongest
      refine Outcome.Forward.orElse ?_ fun trail marks htrail => htrail
      split
      · exact hk _ (by simpa using hle) ⟨hextra, hextra⟩
      · exact hst.fail
  | succ extra ih =>
      unfold Trail.fromLongest
      refine Outcome.Forward.orElse ?_ fun trail marks htrail => ?_
      · split
        · exact hk _ (Nat.le_trans hle (Nat.le_add_right _ _)) ⟨hextra, hextra⟩
        · exact hst.fail
      · exact ih ⟨hst.pos, htrail⟩ hle (by omega) hk

theorem fromShortest (guarded : Bool) (before : Marks) {extra : Nat} {k : State → Outcome}
    (hst : st.Inside src) (hextra : st.pos + extra ≤ src.length)
    (hk : ∀ st', st.pos ≤ st'.pos → st'.Inside src → (k st').Forward src lo) :
    (fromShortest guarded before extra st k).Forward src lo := by
  induction extra generalizing st with
  | zero =>
      unfold Trail.fromShortest
      exact Outcome.Forward.orElse (hk st.trying (Nat.le_refl _) hst.trying)
        fun _ _ _ => hst.pos
  | succ extra ih =>
      unfold Trail.fromShortest
      refine (hk st.trying (Nat.le_refl _) hst.trying).orElse fun _ marks _ => ?_
      refine ih ⟨?_, hst.pos⟩ ?_ fun st' h => hk st' ?_
      all_goals simp only [State.trying] at *
      all_goals omega

theorem repeatedSingle (guarded : Bool) (next : Option CodePoint) (style : Style) (least : Nat)
    (extra : Option Nat) (set : CharSet) :
    Forward src (repeatedSingle src guarded next style least extra set) := by
  intro lo st k hst hk
  have hrun := add_run_le set (extra.map (least + ·)) hst.pos
  simp only [Trail.repeatedSingle]
  split
  · exact hst.fail
  split
  · exact hst.trying.fail
  next hlong hcount =>
  cases style with
  | greedy => exact fromLongest guarded next _ hst.trying (Nat.le_add_right _ _) (by omega) hk
  | reluctant =>
      have hstart : st.pos + least ≤ src.length := Nat.le_of_not_lt hlong
      refine fromShortest guarded _ ⟨hstart, hst.pos⟩ ?_ fun st' h => hk st' ?_
      · change st.pos + least + _ ≤ _
        omega
      · exact Nat.le_trans (Nat.le_add_right _ _) h
  | possessive => exact hk _ (Nat.le_add_right _ _) ⟨hrun, hst.pos⟩

/-! ### Repetitions of groups -/

theorem required (hb : Forward src body) (hr : Forward src rest) (n : Nat) :
    Forward src (required body rest n) := by
  induction n with
  | zero => exact hr
  | succ n ih =>
      intro lo st k hst hk
      exact Outcome.Forward.orElse (hb.andThen ih hst.trying hk) fun _ _ _ => hst.pos

theorem greedily (hb : Forward src body) (fuel : Nat) (extra last : Option Nat) :
    Forward src (greedily body fuel extra last) := by
  induction fuel generalizing extra last with
  | zero => exact .done
  | succ fuel ih =>
      intro lo st k hst hk
      have hgoOn : Outcome.Forward src lo
          ((k st.trying).orElse fun _ marks => .failed st.pos marks) :=
        (hk st.trying (Nat.le_refl _) hst.trying).orElse fun _ _ _ => hst.pos
      simp only [Trail.greedily]
      split
      · exact hgoOn
      · exact Outcome.Forward.orElse (hb.andThen (ih _ _) hst.trying hk) fun _ _ _ => hgoOn

theorem reluctantly (hb : Forward src body) (guarded : Bool) (fuel : Nat)
    (extra last : Option Nat) : Forward src (reluctantly guarded body fuel extra last) := by
  induction fuel generalizing extra last with
  | zero => exact .done
  | succ fuel ih =>
      intro lo st k hst hk
      simp only [Trail.reluctantly]
      refine (hk st.trying (Nat.le_refl _) hst.trying).orElse fun _ marks _ => ?_
      split
      · exact hst.pos
      · exact Outcome.Forward.orElse (hb.andThen (ih _ _) ⟨hst.pos, hst.pos⟩ hk)
          fun _ _ _ => hst.pos

/-- A failed round may have left its trail behind the start of the round, but never behind
the end of the text. -/
theorem possessively (hb : Forward src body) (fuel : Nat) (extra last : Option Nat) :
    Forward src (possessively body fuel extra last) := by
  induction fuel generalizing extra last with
  | zero => exact .done
  | succ fuel ih =>
      intro lo st k hst hk
      have hround := hb.alone hst.trying
      simp only [Trail.possessively]
      split
      · exact hk _ (Nat.le_refl _) hst
      · split
        · next st' heq =>
          rw [heq] at hround
          exact ih _ _ hround.2 fun st'' h => hk st'' (Nat.le_trans hround.1 h)
        · next trail marks heq =>
          rw [heq] at hround
          have hstop : max st.pos trail ≤ src.length := Nat.max_le.mpr ⟨hst.pos, hround⟩
          exact hk _ (Nat.le_max_left _ _) ⟨hstop, hstop⟩

theorem committed (hb : Forward src body) (hr : Forward src rest) {start : Nat}
    (hstart : start ≤ src.length) (n : Nat) : Forward src (committed body rest start n) := by
  induction n with
  | zero => exact hr
  | succ n ih =>
      intro lo st k hst hk
      have hround := hb.alone hst.trying
      simp only [Trail.committed]
      split
      · next st' heq =>
        rw [heq] at hround
        exact ih hround.2 fun st'' h => hk st'' (Nat.le_trans hround.1 h)
      · exact hstart

theorem repeatedGroup (hb : Forward src body) (guarded : Bool) (style : Style)
    (fuel least : Nat) (extra : Option Nat) :
    Forward src (repeatedGroup guarded style fuel least extra body) := by
  cases style with
  | greedy => exact hb.required (hb.greedily fuel extra none) least
  | reluctant => exact hb.required (hb.reluctantly guarded fuel extra none) least
  | possessive =>
      intro lo st k hst hk
      exact hb.committed (hb.possessively fuel extra none) hst.pos least hst.trying hk

end Step.Forward

/-! ### Matching -/

/-- **Matching a node with a trail goes forward.** -/
theorem step_forward (src : Text) (guarded : Bool) (next : Option CodePoint) (node : Node) :
    (step src guarded next node).Forward src := by
  induction node generalizing guarded next with
  | empty => exact .done
  | chars set =>
      intro lo st k hst hk
      simp only [step]
      split
      · next c hc =>
        split
        · exact hk _ (Nat.le_succ _) ⟨lt_length_of_charAt hc, hst.trail⟩
        · exact hst.fail
      · exact hst.fail
  | anchor a =>
      intro lo st k hst hk
      simp only [step]
      split
      · exact hk _ (Nat.le_refl _) hst
      · exact hst.fail
  | group index body ih =>
      intro lo st k hst hk
      exact ih guarded none ⟨hst.pos, hst.trail⟩ fun st' h hst' =>
        hk _ h ⟨hst'.pos, hst'.trail⟩
  | backref index ignoreCase ascii =>
      intro lo st k hst hk
      simp only [step]
      split
      · split
        · next hstands =>
          have hle := add_length_le_of_standsIgnoring hst.pos hstands
          exact hk _ (Nat.le_add_right _ _) ⟨hle, hst.trail⟩
        · exact hst.fail
      · exact hst.fail
  | seq first second ih₁ ih₂ => exact (ih₁ guarded _).andThen (ih₂ guarded next)
  | alt first second ih₁ ih₂ =>
      intro lo st k hst hk
      simp only [step]
      refine Outcome.Forward.orElse ((ih₁ guarded none).alternative _ _ hst hk) ?_
      intro trail marks htrail
      have hst' : State.Inside src { st with trail := trail, marks := marks } :=
        ⟨hst.pos, htrail⟩
      split
      · exact ih₂ guarded none hst' hk
      · exact (ih₂ guarded none).alternative _ _ hst' hk
  | conditional index present absent ih₁ ih₂ =>
      intro lo st k hst hk
      simp only [step]
      split
      · exact ih₁ guarded _ hst hk
      · exact ih₂ guarded next hst hk
  | repeated style least extra body ih =>
      simp only [step]
      split
      · exact .repeatedSingle guarded next style least extra _
      · exact (ih _ none).repeatedGroup guarded style _ least extra
  | atomic body ih =>
      intro lo st k hst hk
      have hbody := (ih guarded none).alone hst.trying
      simp only [step]
      split
      · next st' heq =>
        rw [heq] at hbody
        exact hk st' hbody.1 hbody.2
      · exact hst.pos
  | look behind negated body ih =>
      intro lo st k hst hk
      simp only [step]
      split
      · split
        · exact hk st (Nat.le_refl _) hst
        · exact hst.fail
      · -- The trail of the body may lie before the offset, but not outside the text.
        have hstart : st.pos - behind ≤ src.length := Nat.le_trans (Nat.sub_le _ _) hst.pos
        have hinside : State.Inside src ⟨st.pos - behind, st.pos - behind, st.marks⟩ :=
          ⟨hstart, hstart⟩
        have hbody := (ih guarded none).alone hinside
        generalize step src guarded none body _ State.done = found at hbody
        cases found with
        | matched st' =>
            cases negated with
            | false => exact hk _ (Nat.le_refl _) ⟨hst.pos, hbody.2.trail⟩
            | true => exact hbody.2.fail
        | failed trail marks =>
            cases negated with
            | false => exact hbody
            | true => exact hk _ (Nat.le_refl _) ⟨hst.pos, hbody⟩

/-- **A match with a trail ends between its start and the end of the text.** -/
theorem le_of_match? {node : Node} {src : Text} {count pos stop : Nat} {marks : Marks}
    (hpos : pos ≤ src.length) (h : match? node src count pos = some (stop, marks)) :
    pos ≤ stop ∧ stop ≤ src.length := by
  have hinside : State.Inside src ⟨pos, pos, ⟨List.replicate (2 * count) none, 0⟩⟩ :=
    ⟨hpos, hpos⟩
  have hforward := (step_forward src false none node.normal).alone hinside
  simp only [match?] at h
  split at h
  · next st heq =>
    rw [heq] at hforward
    obtain ⟨rfl, -⟩ := Prod.mk.inj (Option.some.inj h)
    exact ⟨hforward.1, hforward.2.pos⟩
  · cases h

end Trail

end Furthest.Regex
