import Furthest.Proofs.Congruence
import Furthest.Proofs.LabelUnion
import Furthest.Proofs.PatternBounds

/-!
# Bounds of Replies

A run at an offset of a text stays between that offset and the end of the text, and so does
what its reply says: the index of a match, and the furthest failure with its labels. Index
and record are independent of each other. A lookahead goes back to the offset it started
from and keeps a record that is ahead of it, and a match can carry the record of a failure
behind its own end. The invariant is therefore about both: `Reply.Within` bounds the index
by the offset and the end of the text, and demands of the record that it is clean or bounded
likewise, with a label.

That no parser is run elsewhere on the way is said by a `Guard`. A guarded run checks the
offset before every parser that it runs and before every character that it looks up. When
the offset is out of bounds it does something else, and what that is can be chosen at will.
As a guarded run is always the same as the run without the guard, the checks never fail.

## Main results

* `Record.Sound.join`, `Record.Within.join`: merging records keeps the bounds.
* `Coupling.eval_keeps`: one parser stays within the bounds if its lazy parsers do.
* `Parser.run_bounds`: the bounds of replies, of runs and of failed parses.
-/

namespace Furthest

/-! ### Records within bounds -/

namespace Record

variable {lo lo' hi : Int} {r last j : Record}

/-- The record of a failure between two offsets, with a label. -/
structure Within (lo hi : Int) (r : Record) : Prop where
  /-- The failure is not before the first offset. -/
  lower : lo ≤ r.furthest
  /-- It is not behind the second one. -/
  upper : r.furthest ≤ hi
  /-- It has a label. -/
  labelled : r.expected ≠ []

/-- Nothing has failed, or the furthest failure is within bounds. -/
def Sound (lo hi : Int) (r : Record) : Prop := r = clean ∨ r.Within lo hi

theorem Within.mono (h : r.Within lo hi) (hle : lo' ≤ lo) : r.Within lo' hi :=
  ⟨le_trans hle h.lower, h.upper, h.labelled⟩

theorem Sound.mono (h : r.Sound lo hi) (hle : lo' ≤ lo) : r.Sound lo' hi :=
  h.imp_right fun h => h.mono hle

/-- A record with one label. -/
theorem single_within (label : Label) (hlo : lo ≤ lo') (hhi : lo' ≤ hi) :
    (single lo' label).Within lo hi :=
  ⟨hlo, hhi, List.cons_ne_nil _ _⟩

/-- Nothing is dropped from a record within bounds. -/
theorem Sound.carried (hlo : 0 ≤ lo) (h : r.Sound lo hi) : r.carried.Sound lo hi := by
  have hle : -1 ≤ r.furthest := by
    rcases h with rfl | h
    · exact le_refl _
    · have := h.lower
      omega
  have hcarried : r.carried = r := if_neg (by omega)
  rwa [hcarried]

/-- **Merging the record of a failure within bounds keeps the bounds.** -/
theorem Within.join (hlo : 0 ≤ lo) (hr : r.Within lo hi) (hl : last.Sound lo hi)
    (hj : r.join last = .ok j) : j.Within lo hi := by
  simp only [Record.join] at hj
  split at hj
  · exact Except.ok.inj hj ▸ hr
  next hlt =>
  rcases hl with rfl | hl
  · have hlower := hr.lower
    have hfurthest : clean.furthest = -1 := rfl
    omega
  split at hj
  · obtain ⟨labels, hlabels, rfl⟩ : ∃ labels,
        unionExpected r.expected last.expected = .ok labels ∧ ⟨last.furthest, labels⟩ = j := by
      cases hu : unionExpected r.expected last.expected with
      | error fault => rw [hu] at hj; cases hj
      | ok labels =>
          rw [hu] at hj
          exact ⟨labels, rfl, Except.ok.inj hj⟩
    exact ⟨hl.lower, hl.upper, unionExpected_ne_nil (.inl hr.labelled) hlabels⟩
  · exact Except.ok.inj hj ▸ hl

/-- **Merging records within bounds keeps the bounds.** -/
theorem Sound.join (hlo : 0 ≤ lo) (hr : r.Sound lo hi) (hl : last.Sound lo hi)
    (hj : r.join last = .ok j) : j.Sound lo hi := by
  rcases hr with rfl | hr
  · rw [join_clean] at hj
    exact Except.ok.inj hj ▸ hl.carried hlo
  · exact .inr (hr.join hlo hl hj)

end Record

/-! ### Replies within bounds -/

namespace Reply

variable {src : Text} {start pos : Int} {r j : Reply} {last : Option Reply}

/-- The reply of a run at an offset stays between the offset and the end of the text: the
index of a match and every failure do, and a failed run has a failure. -/
inductive Within (src : Text) (pos : Int) : Reply → Prop
  | success {index : Int} {value : Value} {record : Record} (lower : pos ≤ index)
      (upper : index ≤ src.length) (sound : record.Sound pos src.length) :
      Within src pos (.success index value record)
  | failure {record : Record} (within : record.Within pos src.length) :
      Within src pos (.failure record)

/-- An earlier reply, if there is one, has a record within bounds. -/
def Behind (src : Text) (start : Int) (last : Option Reply) : Prop :=
  ∀ r, last = some r → r.record.Sound start src.length

theorem Behind.none : Behind src start none := by
  rintro r ⟨⟩

theorem Behind.some (h : r.record.Sound start src.length) : Behind src start (some r) := by
  rintro _ ⟨⟩
  exact h

/-- The record of a reply is within bounds. -/
theorem Within.sound (h : r.Within src pos) : r.record.Sound pos src.length := by
  cases h with
  | success _ _ hs => exact hs
  | failure hw => exact .inr hw

/-- A match without failures. -/
theorem Within.matched {index : Int} {value : Value} (lower : pos ≤ index)
    (upper : index ≤ src.length) : (Reply.matched index value).Within src pos :=
  .success lower upper (.inl rfl)

/-- A failure where the run starts. -/
theorem Within.mismatch (label : Label) (h : pos ≤ src.length) :
    (Reply.mismatch pos label).Within src pos :=
  .failure (Record.single_within label (le_refl _) h)

/-- The reply of a run that started later. -/
theorem Within.mono (h : r.Within src pos) (hle : start ≤ pos) : r.Within src start := by
  cases h with
  | success hl hu hs => exact .success (le_trans hle hl) hu (hs.mono hle)
  | failure hw => exact .failure (hw.mono hle)

/-- **Merging a reply onto an earlier one keeps the bounds.** -/
theorem Within.merge (hstart : 0 ≤ start) (hr : r.Within src start)
    (hl : Behind src start last) (hj : r.merge last = .ok j) : j.Within src start := by
  cases last with
  | none => exact Except.ok.inj hj ▸ hr
  | some last =>
      have hlast := hl last rfl
      change (r.record.join last.record).map r.withRecord = .ok j at hj
      cases hjoin : r.record.join last.record with
      | error fault => rw [hjoin] at hj; cases hj
      | ok record =>
          rw [hjoin] at hj
          obtain rfl := Except.ok.inj hj
          cases hr with
          | success hlo hup hs => exact .success hlo hup (hs.join hstart hlast hjoin)
          | failure hw => exact .failure (hw.join hstart hlast hjoin)

/-- A match that follows an earlier reply. -/
theorem Within.after (hstart : 0 ≤ start) (hl : Behind src start last) {index : Int}
    (value : Value) (lower : start ≤ index) (upper : index ≤ src.length) :
    (Reply.after last index value).Within src start := by
  refine .success lower upper ?_
  cases last with
  | none => exact .inl rfl
  | some last => exact (hl last rfl).carried hstart

end Reply

/-! ### Guarded runs -/

/-- A watch over the offsets of a run: where its window starts, which reaches up to the end
of the text, and what is done instead of leaving the window. -/
structure Guard where
  /-- The start of the window. -/
  lo : Nat
  /-- What is done instead of running a parser outside the window. -/
  outside : Action
  /-- What is done instead of looking up a character outside the window. -/
  absent : Text → Int → Run CodePoint

namespace Guard

/-- The guard that breaks off a run as soon as it leaves the window. -/
def strict (lo : Nat) : Guard := ⟨lo, fun _ _ => throw .exhausted, fun _ _ => throw .exhausted⟩

/-- Checks the offset before an action. -/
def enter (g : Guard) (a : Action) : Action := fun src pos =>
  if g.lo ≤ pos ∧ pos ≤ src.length then a src pos else g.outside src pos

/-- Checks the offset before a character is looked up. -/
def charAt (g : Guard) (src : Text) (pos : Int) : Run CodePoint :=
  if g.lo ≤ pos ∧ pos < src.length then Action.charAt src pos else g.absent src pos

/-- `Action.charTest` with a check. -/
def charTest (g : Guard) (label : Text) (test : CodePoint → Effect Bool) : Action :=
  fun src pos => do
    if pos < src.length then
      let c ← g.charAt src pos
      if ← Run.perform (test c) then return .matched (pos + 1) (.char c)
      else return .mismatch pos (.text label)
    else return .mismatch pos (.text label)

/-- `Action.scan` with checks. -/
def scan (g : Guard) (test : CodePoint → Effect Bool) (src : Text) :
    (left : Nat) → Int → Run Int
  | 0, pos => pure pos
  | left + 1, pos => do
    let c ← g.charAt src pos
    if ← Run.perform (test c) then g.scan test src left (pos + 1) else return pos

/-- `Action.takeWhile` with checks. -/
def takeWhile (g : Guard) (test : CodePoint → Effect Bool) : Action := fun src pos => do
  let stop ← g.scan test src (src.length - pos).toNat pos
  return .matched stop (.text (src.slice pos stop))

/-- `Action.anyChar` with a check. -/
def anyChar (g : Guard) : Action := fun src pos => do
  if pos < src.length then
    let c ← g.charAt src pos
    return .matched (pos + 1) (.char c)
  else return .mismatch pos (.text "any character")

end Guard

mutual

/-- What a parser does under a guard, which checks the offset of the parser and those of all
parsers in it. -/
def Parser.evalGuarded (g : Guard) (rounds : Nat) (lazies : Nat → Action) : Parser → Action
  | .literal text => g.enter (.literal text)
  | .regex p group => g.enter (.regex p group)
  | .charTest label test => g.enter (g.charTest label test)
  | .takeWhile test => g.enter (g.takeWhile test)
  | .succeed value => g.enter (.succeed value)
  | .fail label => g.enter (.fail label)
  | .eof => g.enter .eof
  | .index => g.enter .index
  | .anyChar => g.enter g.anyChar
  | .rest => g.enter .rest
  | .map p f => g.enter (.map (p.evalGuarded g rounds lazies) f)
  | .chain p next =>
    g.enter (.chain (p.evalGuarded g rounds lazies)
      fun v => (next v).evalGuarded g rounds lazies)
  | .desc p label => g.enter (.desc (p.evalGuarded g rounds lazies) label)
  | .repeated p least extra =>
    g.enter (.repeated (p.evalGuarded g rounds lazies) rounds least extra)
  | .seq ps => g.enter (.seq (Parser.evalGuardedAll g rounds lazies ps))
  | .alt p ps =>
    g.enter (.alt (p.evalGuarded g rounds lazies) (Parser.evalGuardedAll g rounds lazies ps))
  | .lookahead p => g.enter (.lookahead (p.evalGuarded g rounds lazies))
  | .notFollowedBy p label => g.enter (.notFollowedBy (p.evalGuarded g rounds lazies) label)
  | .lazy id => g.enter (lazies id)
  | .custom act => g.enter fun src pos => (act src pos).evalGuarded g rounds lazies src pos
  | .answer reply => g.enter fun _ _ => pure reply
  | .inspect p next => g.enter fun src pos => do
    let reply ← p.evalGuarded g rounds lazies src pos
    (next reply).evalGuarded g rounds lazies src pos
  | .raise fault => g.enter fun _ _ => Run.raise fault
  | .note n p => g.enter fun src pos => do
    Run.note n
    p.evalGuarded g rounds lazies src pos

/-- What the parsers of a list do under a guard. -/
def Parser.evalGuardedAll (g : Guard) (rounds : Nat) (lazies : Nat → Action) :
    List Parser → List Action
  | [] => []
  | p :: ps => p.evalGuarded g rounds lazies :: Parser.evalGuardedAll g rounds lazies ps

end

/-- What a lazy parser does under a guard. -/
def runLazyGuarded (g : Guard) (rounds : Nat) : (depth : Nat) → (id : Nat) → Action
  | 0, _ => fun _ _ => throw .exhausted
  | depth + 1, id => fun src pos => do
    let p ← Store.force id
    p.evalGuarded g rounds (runLazyGuarded g rounds depth) src pos

/-- What a parser does within limits under a guard. -/
def Parser.runGuarded (p : Parser) (g : Guard) (limits : Limits) : Action :=
  p.evalGuarded g limits.rounds (runLazyGuarded g limits.rounds limits.depth)

/-- What the parsers of a list do is what its elements do. -/
theorem Parser.evalGuardedAll_eq_map (g : Guard) (rounds : Nat) (lazies : Nat → Action)
    (ps : List Parser) :
    evalGuardedAll g rounds lazies ps = ps.map fun p => p.evalGuarded g rounds lazies := by
  induction ps with
  | nil => rfl
  | cons p ps ih => simp only [evalGuardedAll, List.map_cons, ih]

/-! ### Runs within bounds -/

namespace Coupling

open Reply (Within Behind)

/-- An action and its guarded form stay side by side within the window, and their replies
are within bounds. -/
def Keeps (C : Coupling) (g : Guard) (a b : Action) : Prop :=
  ∀ (src : Text) (pos : Int), g.lo ≤ pos → pos ≤ src.length →
    C.Rel (fun r r' => r = r' ∧ r.Within src pos) (a src pos) (b src pos)

variable {C : Coupling} {g : Guard} {a b : Action}

/-- The check before an action does not fail within the window. -/
theorem Keeps.enter (h : C.Keeps g a b) : C.Keeps g a (g.enter b) := by
  intro src pos hlo hhi
  rw [Guard.enter, if_pos ⟨hlo, hhi⟩]
  exact h src pos hlo hhi

/-! #### Leaves -/

theorem Keeps.ofReply {f : Text → Int → Reply}
    (h : ∀ src pos, 0 ≤ pos → pos ≤ src.length → (f src pos).Within src pos) :
    C.Keeps g (.ofReply f) (.ofReply f) := by
  intro src pos hlo hhi
  exact .pure ⟨rfl, h src pos (by omega) hhi⟩

/-- A text that stands at an offset ends within the text around it. -/
theorem add_length_le_of_standsAt {src part : Text} {pos : Int} (h₀ : 0 ≤ pos)
    (h : src.standsAt part pos = true) : pos + part.length ≤ src.length := by
  obtain ⟨hpos, hprefix⟩ := Bool.and_eq_true_iff.mp h
  have hle := of_decide_eq_true hpos
  have hlen := (List.isPrefixOf_iff_prefix.mp hprefix).length_le
  have hbound : src.bound pos = pos.toNat := by
    rw [Text.bound, if_neg (by omega)]
    omega
  simp only [Text.sliceFrom, hbound, List.length_drop] at hlen
  omega

theorem Keeps.literal (text : Text) : C.Keeps g (.literal text) (.literal text) := by
  refine .ofReply fun src pos h₀ hhi => ?_
  split
  · next h => exact .matched (by omega) (add_length_le_of_standsAt h₀ h)
  · exact .mismatch _ hhi

theorem Keeps.regex (p : Regex.Pattern) (group : Nat) :
    C.Keeps g (.regex p group) (.regex p group) := by
  intro src pos hlo hhi
  refine .regex (fun stop text hm => ?_) ⟨rfl, .mismatch _ hhi⟩
  obtain ⟨h₁, h₂⟩ := Regex.Pattern.le_of_matchAt? (by omega) hhi hm
  exact ⟨rfl, .matched h₁ (by omega)⟩

theorem Rel.guardedCharAt {src : Text} {pos : Int} (hlo : g.lo ≤ pos)
    (hhi : pos < src.length) :
    C.Rel Eq (Action.charAt src pos) (g.charAt src pos) := by
  rw [Guard.charAt, if_pos ⟨hlo, hhi⟩]
  exact .charAt src pos

theorem Keeps.charTest (label : Text) (test : CodePoint → Effect Bool) :
    C.Keeps g (.charTest label test) (g.charTest label test) := by
  intro src pos hlo hhi
  simp only [Action.charTest, Guard.charTest]
  split
  · next hlt =>
    refine Rel.bind (.guardedCharAt hlo hlt) ?_
    rintro c _ rfl
    refine Rel.bind (.perform (test c)) ?_
    rintro (_ | _) _ rfl
    · exact .pure ⟨rfl, .mismatch _ hhi⟩
    · exact .pure ⟨rfl, .matched (by omega) (by omega)⟩
  · exact .pure ⟨rfl, .mismatch _ hhi⟩

/-- A scan stays within the distance that it is given. -/
theorem Rel.guardedScan (test : CodePoint → Effect Bool) (src : Text) (left : Nat) {pos : Int}
    (hlo : g.lo ≤ pos) (hhi : pos + left ≤ src.length) :
    C.Rel (fun i j => i = j ∧ pos ≤ i ∧ i ≤ src.length) (Action.scan test src left pos)
      (g.scan test src left pos) := by
  induction left generalizing pos with
  | zero => exact .pure ⟨rfl, by omega, by omega⟩
  | succ left ih =>
      refine Rel.bind (.guardedCharAt hlo (by omega)) ?_
      rintro c _ rfl
      refine Rel.bind (.perform (test c)) ?_
      rintro (_ | _) _ rfl
      · exact .pure ⟨rfl, by omega, by omega⟩
      · refine (ih (by omega) (by omega)).mono ?_
        rintro i _ ⟨rfl, h₁, h₂⟩
        exact ⟨rfl, by omega, h₂⟩

theorem Keeps.takeWhile (test : CodePoint → Effect Bool) :
    C.Keeps g (.takeWhile test) (g.takeWhile test) := by
  intro src pos hlo hhi
  refine Rel.bind (.guardedScan test src _ hlo (by omega)) ?_
  rintro stop _ ⟨rfl, h₁, h₂⟩
  exact .pure ⟨rfl, .matched h₁ h₂⟩

theorem Keeps.anyChar : C.Keeps g .anyChar g.anyChar := by
  intro src pos hlo hhi
  simp only [Action.anyChar, Guard.anyChar]
  split
  · next hlt =>
    refine Rel.bind (.guardedCharAt hlo hlt) ?_
    rintro c _ rfl
    exact .pure ⟨rfl, .matched (by omega) (by omega)⟩
  · exact .pure ⟨rfl, .mismatch _ hhi⟩

/-! #### One parser -/

theorem Keeps.map (h : C.Keeps g a b) (f : Value → Effect Value) :
    C.Keeps g (.map a f) (.map b f) := by
  intro src pos hlo hhi
  refine Rel.bind (h src pos hlo hhi) ?_
  rintro _ _ ⟨rfl, hr⟩
  cases hr with
  | success lower upper sound =>
      refine Rel.bind (.perform (f _)) ?_
      rintro value _ rfl
      exact .pure ⟨rfl, .success lower upper (sound.carried (by omega))⟩
  | failure within => exact .pure ⟨rfl, .failure within⟩

/-- Merging onto an earlier reply, within bounds. -/
theorem Rel.mergeWithin {src : Text} {start : Int} {r : Reply} {last : Option Reply}
    (hstart : 0 ≤ start) (hr : r.Within src start) (hl : Behind src start last) :
    C.Rel (fun j j' => j = j' ∧ j.Within src start) (Run.merge r last) (Run.merge r last) :=
  .ofExcept fun _ hj => ⟨rfl, hr.merge hstart hl hj⟩

theorem Keeps.chain {next next' : Value → Action} (h : C.Keeps g a b)
    (hn : ∀ v, C.Keeps g (next v) (next' v)) : C.Keeps g (.chain a next) (.chain b next') := by
  intro src pos hlo hhi
  refine Rel.bind (h src pos hlo hhi) ?_
  rintro _ _ ⟨rfl, hr⟩
  cases hr with
  | @success index value record lower upper sound =>
      refine Rel.bind (hn value src index (by omega) upper) ?_
      rintro r _ ⟨rfl, hr⟩
      exact .mergeWithin (by omega) (hr.mono lower) (.some sound)
  | failure within => exact .pure ⟨rfl, .failure within⟩

theorem Keeps.desc (h : C.Keeps g a b) (label : Text) :
    C.Keeps g (.desc a label) (.desc b label) := by
  intro src pos hlo hhi
  refine Rel.bind (h src pos hlo hhi) ?_
  rintro _ _ ⟨rfl, hr⟩
  cases hr with
  | success lower upper sound => exact .pure ⟨rfl, .success lower upper sound⟩
  | failure within =>
      simp only
      split
      · exact .pure ⟨rfl, .mismatch _ hhi⟩
      · exact .pure ⟨rfl, .failure within⟩

theorem Keeps.lookahead (h : C.Keeps g a b) : C.Keeps g (.lookahead a) (.lookahead b) := by
  intro src pos hlo hhi
  refine Rel.bind (h src pos hlo hhi) ?_
  rintro _ _ ⟨rfl, hr⟩
  cases hr with
  | success lower upper sound =>
      -- the index goes back to the start, and the record stays where it is
      exact .pure ⟨rfl, .success (le_refl pos) hhi (sound.carried (by omega))⟩
  | failure within => exact .pure ⟨rfl, .failure within⟩

theorem Keeps.notFollowedBy (h : C.Keeps g a b) (label : Label) :
    C.Keeps g (.notFollowedBy a label) (.notFollowedBy b label) := by
  intro src pos hlo hhi
  refine Rel.bind (h src pos hlo hhi) ?_
  rintro _ _ ⟨rfl, hr⟩
  cases hr with
  | success => exact .pure ⟨rfl, .mismatch label hhi⟩
  | failure => exact .pure ⟨rfl, .matched (le_refl pos) hhi⟩

/-! #### Several parsers -/

/-- A step of a sequence, a choice or a repetition that started at `start`: an attempt that
is merged onto the reply before it, and what comes after. -/
theorem Rel.attemptWithin (h : C.Keeps g a b) {src : Text} {start pos : Int}
    (hlo : g.lo ≤ start) (hle : start ≤ pos) (hhi : pos ≤ src.length) {last : Option Reply}
    (hl : Behind src start last) {Q : Reply → Reply → Prop} {f f' : Reply → Run Reply}
    (hf : ∀ r, r.Within src start → C.Rel Q (f r) (f' r)) :
    C.Rel Q (a src pos >>= fun r => Run.merge r last >>= f)
      (b src pos >>= fun r => Run.merge r last >>= f') := by
  refine Rel.bind (h src pos (by omega) hhi) ?_
  rintro r _ ⟨rfl, hr⟩
  refine Rel.bind (.mergeWithin (by omega) (hr.mono hle) hl) ?_
  rintro r _ ⟨rfl, hr⟩
  exact hf r hr

theorem Rel.seqFromWithin {as bs : List Action}
    (h : List.Forall₂ (C.Keeps g) as bs) {src : Text} {start : Int} (hlo : g.lo ≤ start)
    (values : List Value) {last : Option Reply} (hl : Behind src start last) {pos : Int}
    (hle : start ≤ pos) (hhi : pos ≤ src.length) :
    C.Rel (fun r r' => r = r' ∧ r.Within src start) (Action.seqFrom values last as src pos)
      (Action.seqFrom values last bs src pos) := by
  induction h generalizing values last pos with
  | nil => exact .pure ⟨rfl, .after (by omega) hl _ hle hhi⟩
  | cons hab _ ih =>
      refine Rel.attemptWithin hab hlo hle hhi hl fun r hr => ?_
      have hs := hr.sound
      cases hr with
      | success lower upper _ => exact ih _ (.some hs) lower upper
      | failure within => exact .pure ⟨rfl, .failure within⟩

theorem Keeps.seq {as bs : List Action} (h : List.Forall₂ (C.Keeps g) as bs) :
    C.Keeps g (.seq as) (.seq bs) :=
  fun _ pos hlo hhi => .seqFromWithin h hlo [] .none (le_refl pos) hhi

theorem Keeps.altFrom {as bs : List Action} (h : List.Forall₂ (C.Keeps g) as bs) {src : Text}
    {pos : Int} (hlo : g.lo ≤ pos) (hhi : pos ≤ src.length) {record : Record}
    (hr : record.Within pos src.length) :
    C.Rel (fun r r' => r = r' ∧ r.Within src pos) (Action.altFrom (.failure record) as src pos)
      (Action.altFrom (.failure record) bs src pos) := by
  induction h generalizing record with
  | nil => exact .pure ⟨rfl, .failure hr⟩
  | cons hab _ ih =>
      have hl : Behind src pos (some (.failure record)) := .some (.inr hr)
      refine Rel.attemptWithin hab hlo (le_refl pos) hhi hl fun r hr => ?_
      cases hr with
      | success lower upper sound => exact .pure ⟨rfl, .success lower upper sound⟩
      | failure within => exact ih within

theorem Keeps.alt {as bs : List Action} (h : C.Keeps g a b)
    (hs : List.Forall₂ (C.Keeps g) as bs) : C.Keeps g (.alt a as) (.alt b bs) := by
  intro src pos hlo hhi
  refine Rel.bind (h src pos hlo hhi) ?_
  rintro _ _ ⟨rfl, hr⟩
  cases hr with
  | success lower upper sound => exact .pure ⟨rfl, .success lower upper sound⟩
  | failure within => exact Keeps.altFrom hs hlo hhi within

/-! #### Repetitions -/

section

variable {src : Text} {start : Int}

/-- A repetition that started at `start` has stayed within bounds. -/
structure Safe (src : Text) (start : Int) (s : Action.Progress) : Prop where
  /-- It has not gone back behind its start. -/
  lower : start ≤ s.pos
  /-- It has not gone beyond the end of the text. -/
  upper : s.pos ≤ src.length
  /-- The failures so far are within bounds. -/
  behind : Behind src start s.last

/-- A repetition that ends is a match. -/
theorem Safe.close {s : Action.Progress} (h : Safe src start s) (hstart : 0 ≤ start) :
    s.close.Within src start :=
  .after hstart h.behind _ h.lower h.upper

/-- A round that matches goes on, and a round that fails adds its failures. -/
theorem Safe.next {s : Action.Progress} {index : Int} {value : Value} {record : Record}
    (hr : (Reply.success index value record).Within src start) :
    Safe src start ⟨value :: s.values, some (.success index value record), index⟩ := by
  have hs := hr.sound
  cases hr with
  | success lower upper _ => exact ⟨lower, upper, .some hs⟩

theorem Safe.failed {s : Action.Progress} (h : Safe src start s) {record : Record}
    (hr : (Reply.failure record).Within src start) :
    Safe src start { s with last := some (.failure record) } :=
  ⟨h.lower, h.upper, .some hr.sound⟩

variable (h : C.Keeps g a b) (hlo : g.lo ≤ start)
include h hlo

theorem Rel.upToWithin (n : Nat) {s : Action.Progress} (hs : Safe src start s) :
    C.Rel (fun r r' => r = r' ∧ r.Within src start) (Action.upTo a src n s)
      (Action.upTo b src n s) := by
  induction n generalizing s with
  | zero => exact .pure ⟨rfl, hs.close (by omega)⟩
  | succ n ih =>
      refine Rel.attemptWithin h hlo hs.lower hs.upper hs.behind fun r hr => ?_
      rcases r with ⟨index, value, record⟩ | record
      · exact ih (.next hr)
      · exact .pure ⟨rfl, (hs.failed hr).close (by omega)⟩

theorem Rel.unboundedWithin (n : Nat) {s : Action.Progress} (hs : Safe src start s) :
    C.Rel (fun r r' => r = r' ∧ r.Within src start) (Action.unbounded a src n s)
      (Action.unbounded b src n s) := by
  induction n generalizing s with
  | zero => exact .stop .exhausted
  | succ n ih =>
      refine Rel.attemptWithin h hlo hs.lower hs.upper hs.behind fun r hr => ?_
      rcases r with ⟨index, value, record⟩ | record
      · have hnext :
            Safe src start ⟨value :: s.values, some (.success index value record), index⟩ :=
          .next hr
        simp only
        split
        · exact .pure ⟨rfl, hnext.close (by omega)⟩
        · exact ih hnext
      · exact .pure ⟨rfl, (hs.failed hr).close (by omega)⟩

theorem Rel.requiredWithin {f f' : Action.Progress → Run Reply}
    (hf : ∀ s, Safe src start s → C.Rel (fun r r' => r = r' ∧ r.Within src start) (f s) (f' s))
    (n : Nat) {s : Action.Progress} (hs : Safe src start s) :
    C.Rel (fun r r' => r = r' ∧ r.Within src start) (Action.required a src f n s)
      (Action.required b src f' n s) := by
  induction n generalizing s with
  | zero => exact hf s hs
  | succ n ih =>
      refine Rel.attemptWithin h hlo hs.lower hs.upper hs.behind fun r hr => ?_
      rcases r with ⟨index, value, record⟩ | record
      · exact ih (.next hr)
      · exact .pure ⟨rfl, hr⟩

end

theorem Keeps.repeated (h : C.Keeps g a b) (rounds least : Nat) (extra : Option Nat) :
    C.Keeps g (.repeated a rounds least extra) (.repeated b rounds least extra) := by
  intro src pos hlo hhi
  refine Rel.requiredWithin h hlo (fun s hs => ?_) least ⟨le_refl pos, hhi, .none⟩
  cases extra with
  | none => exact .unboundedWithin h hlo rounds hs
  | some n => exact .upToWithin h hlo n hs

end Coupling

/-! ### Parsers -/

namespace Parser

/-- The parsers of the library: no node of theirs is custom. -/
def HasNoCustom (p : Parser) : Prop := p.Throughout fun q => ¬ q.IsCustom

end Parser

/-- **A parser stays within the bounds of its run, if its lazy parsers do**, and so does
everything that it runs. -/
theorem Coupling.eval_keeps {C : Coupling} {g : Guard} {rounds : Nat}
    {lazies lazies' : Nat → Action} (hl : ∀ id, C.Keeps g (lazies id) (lazies' id))
    {p : Parser} (hp : p.HasNoCustom) :
    C.Keeps g (p.eval rounds lazies) (p.evalGuarded g rounds lazies') := by
  induction hp with
  | @intro p hcustom _ ih =>
  cases p with
  | literal text => exact (Keeps.literal text).enter
  | regex p group => exact (Keeps.regex p group).enter
  | charTest label test => exact (Keeps.charTest label test).enter
  | takeWhile test => exact (Keeps.takeWhile test).enter
  | succeed value => exact (Keeps.ofReply fun _ pos _ hhi => .matched (le_refl pos) hhi).enter
  | fail label => exact (Keeps.ofReply fun _ _ _ hhi => .mismatch _ hhi).enter
  | eof =>
      refine (Keeps.ofReply fun src pos h₀ hhi => ?_).enter
      split
      · exact .mismatch _ hhi
      · exact .matched (le_refl pos) hhi
  | index => exact (Keeps.ofReply fun _ pos _ hhi => .matched (le_refl pos) hhi).enter
  | anyChar => exact Keeps.anyChar.enter
  | rest => exact (Keeps.ofReply fun _ _ _ hhi => .matched hhi (le_refl _)).enter
  | map p f => exact (Keeps.map (ih p .map) f).enter
  | chain p next => exact (Keeps.chain (ih p .chain) fun v => ih _ (.chainNext v)).enter
  | desc p label => exact (Keeps.desc (ih p .desc) label).enter
  | repeated p least extra => exact (Keeps.repeated (ih p .repeated) rounds least extra).enter
  | seq ps =>
      rw [Parser.eval_seq, Parser.evalGuarded, Parser.evalGuardedAll_eq_map]
      exact (Keeps.seq (forall₂_map_parsers fun p hp => ih p (.seq hp))).enter
  | alt p ps =>
      rw [Parser.eval_alt, Parser.evalGuarded, Parser.evalGuardedAll_eq_map]
      have hothers := forall₂_map_parsers fun q hq => ih q (.altOther hq)
      exact (Keeps.alt (ih p .altFirst) hothers).enter
  | lookahead p => exact (Keeps.lookahead (ih p .lookahead)).enter
  | notFollowedBy p label => exact (Keeps.notFollowedBy (ih p .notFollowedBy) label).enter
  | lazy id => exact (hl id).enter
  | custom act => exact absurd trivial hcustom
  | answer reply => exact absurd trivial hcustom
  | inspect p next => exact absurd trivial hcustom
  | raise fault =>
      refine Keeps.enter ?_
      exact fun _ _ _ _ => .raise fault
  | note n p =>
      refine Keeps.enter ?_
      intro src pos hlo hhi
      refine Rel.bind (.note n) ?_
      rintro _ _ -
      exact ih p .note src pos hlo hhi

namespace Parser

section

variable {φ : Parser → Prop} (hφ : ∀ p, φ p → p.HasNoCustom)
include hφ

/-- A lazy parser stays within the bounds of its run, where no parser that the store leads
to has a custom part. -/
theorem runLazyGuarded_keeps (g : Guard) (rounds depth id : Nat) :
    (Store.admitting φ).Keeps g (runLazy rounds depth id)
      (runLazyGuarded g rounds depth id) := by
  induction depth generalizing id with
  | zero => exact fun _ _ _ _ => .stop .exhausted
  | succ depth ih =>
      intro src pos hlo hhi
      refine Coupling.Rel.bind (Store.force_admits φ id) ?_
      rintro p _ ⟨rfl, hp⟩
      exact Coupling.eval_keeps ih (hφ p hp) src pos hlo hhi

/-- **A run and its guarded form stay side by side within the window.** -/
theorem runGuarded_keeps {p : Parser} (hp : p.HasNoCustom) (g : Guard) (limits : Limits) :
    (Store.admitting φ).Keeps g (p.run limits) (p.runGuarded g limits) :=
  Coupling.eval_keeps (runLazyGuarded_keeps hφ g limits.rounds limits.depth) hp

/-- A run at an offset of a text replies within bounds. -/
theorem within_of_run {p : Parser} (hp : p.HasNoCustom) {s : Store} (hs : s.Admits φ)
    {limits : Limits} {src : Text} {pos : Nat} (hpos : pos ≤ src.length) {r : Reply}
    (h : (p.run limits src pos).outcome s = .ok r) : r.Within src pos := by
  have hkeeps := runGuarded_keeps hφ hp (.strict pos) limits src pos (le_refl _) (by omega)
  exact (hkeeps.exec_eq_of_same hs).2 r h

end

/-- The offset of a failed parse lies in the text, and something was expected there. -/
theorem parse_failure_bounds {p : Parser} (hp : p.HasNoCustom) {s : Store}
    (hs : s.Admits HasNoCustom) (limits : Limits) (src : Text) {f : ParseFailure}
    (h : (p.parse limits src).outcome s = .ok (.failure f)) :
    0 ≤ f.position.offset ∧ f.position.offset ≤ src.length ∧ f.expected ≠ [] := by
  have hskip : (p.skip eof).HasNoCustom := hp.skip (fun _ => IsPlain.not_isCustom)
    (.eof fun _ => IsPlain.not_isCustom)
  simp only [Run.outcome] at h
  cases hrun : ((p.skip eof).run limits src 0).exec s with
  | mk outcome t =>
  cases outcome with
  | error e =>
      rw [parse, Run.exec_bind_of_error hrun] at h
      cases h
  | ok r =>
      rw [parse, Run.exec_bind_of_ok hrun] at h
      have hr : ((p.skip eof).run limits src (0 : Nat)).outcome s = .ok r :=
        congrArg Prod.fst hrun
      cases within_of_run (fun _ => id) hskip hs (Nat.zero_le _) hr with
      | success => cases h
      | failure within =>
          obtain rfl := Parsed.failure.inj (Except.ok.inj h)
          exact ⟨within.lower, within.upper, within.labelled⟩

/-- **Reply bounds.** A run at an offset of a text replies within bounds: the index of a
match lies between the offset and the end of the text, its record is clean or bounded
likewise with a label, and a failed run has such a record. No parser is run and no character
is looked up outside these bounds on the way, as whatever might be done there instead
changes nothing about the run. And a failed parse has an offset in the text and a label. -/
theorem run_bounds {p : Parser} (hp : p.HasNoCustom) {s : Store} (hs : s.Admits HasNoCustom)
    (limits : Limits) {src : Text} {pos : Nat} (hpos : pos ≤ src.length) :
    (∀ r, (p.run limits src pos).outcome s = .ok r → r.Within src pos)
      ∧ (∀ outside absent, (p.runGuarded ⟨pos, outside, absent⟩ limits src pos).exec s
          = (p.run limits src pos).exec s)
      ∧ ∀ f, (p.parse limits src).outcome s = .ok (.failure f) →
          0 ≤ f.position.offset ∧ f.position.offset ≤ src.length ∧ f.expected ≠ [] := by
  have hkeeps (g : Guard) (hg : g.lo = pos) :=
    runGuarded_keeps (fun _ => id) hp g limits src pos (by omega) (by omega)
  refine ⟨?_, ?_, ?_⟩
  · exact fun _ => within_of_run (fun _ => id) hp hs hpos
  · intro outside absent
    exact ((hkeeps ⟨pos, outside, absent⟩ rfl).exec_eq_of_same hs).1.symm
  · exact fun f hf => parse_failure_bounds hp hs limits src hf

/-- The bounds of a list that is not finished, where every offset outside the text would
break off the run. -/
theorem run_bounds_lists :
    let src : Text := "[1,x"
    let r : Record := ⟨3, [.text "'['", .text "/[0-9]/"]⟩
    ((lazy 0).runGuarded (.strict 0) ⟨3, 4⟩ src (0 : Nat)).outcome .lists = .ok (.failure r)
      ∧ (Reply.failure r).Within src (0 : Nat)
      ∧ ∃ f, ((lazy 0).parse ⟨3, 4⟩ src).outcome .lists = .ok (.failure f)
          ∧ 0 ≤ f.position.offset ∧ f.position.offset ≤ 4 ∧ f.expected ≠ [] := by
  intro src r
  have hp : (lazy 0).HasNoCustom := .lazy (fun _ => IsPlain.not_isCustom) 0
  have hs : Store.lists.Admits HasNoCustom :=
    Store.lists_admits (fun _ => IsPlain.not_isCustom) id
  obtain ⟨hwithin, hguard, hparse⟩ := run_bounds hp hs ⟨3, 4⟩ (show 0 ≤ src.length by decide)
  have hrun : ((lazy 0).run ⟨3, 4⟩ src (0 : Nat)).outcome .lists = .ok (.failure r) := rfl
  refine ⟨?_, hwithin _ hrun, _, rfl, hparse _ rfl⟩
  rw [Run.outcome, Guard.strict, hguard]
  exact hrun

end Parser

end Furthest
