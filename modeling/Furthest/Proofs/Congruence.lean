import Furthest.Proofs.Forcing
import Furthest.Parse
import Mathlib.Data.List.Forall2

/-!
# Runs in Coupled Stores

The nodes of a parser treat the store in one way only: through callbacks, which leave notes,
and through the lazy parsers. So a coupling that resolving a lazy parser keeps is kept by
all runs. The proof has one lemma for each node, which says that the node's action preserves
`Coupling.Alike`, and one induction along the parts of a parser.

Limits may differ where the coupling excuses the first run for being exhausted. With the
equality of stores as the coupling this says that limits are scaffolding: a run that is not
exhausted comes to the same at all larger limits, and `Parser.Yields` names what a run comes
to at any limits that suffice.

## Main results

* `Coupling.eval_alike`, `Coupling.run_alike`: a coupling that resolving keeps is kept by
  runs.
* `Parser.exec_run_of_le`: larger limits change nothing about a run that is not exhausted.
* `Parser.Yields.unique`: what a run comes to does not depend on the limits.
-/

namespace Furthest

namespace Coupling

/-- Two actions that stay side by side on all texts and offsets, with equal replies. -/
def Alike (C : Coupling) (a b : Action) : Prop := ∀ src pos, C.Rel Eq (a src pos) (b src pos)

/-- Two bounds on the same thing: they are equal, or the first is not larger and being
exhausted is excused. -/
def Bounds (C : Coupling) (m n : Nat) : Prop := m = n ∨ (C.excused .exhausted ∧ m ≤ n)

/-- Resolving a lazy parser keeps stores coupled and gives equal results. -/
def Forces (C : Coupling) : Prop := ∀ id, C.Rel Eq (Store.force id) (Store.force id)

variable {C : Coupling} {a b : Action}

/-- A bound that is not zero has a partner that is not zero. -/
theorem Bounds.exists_succ {m n : Nat} (h : C.Bounds (m + 1) n) :
    ∃ n', n = n' + 1 ∧ C.Bounds m n' := by
  rcases h with rfl | ⟨he, hle⟩
  · exact ⟨m, rfl, .inl rfl⟩
  · exact ⟨n - 1, by omega, .inr ⟨he, by omega⟩⟩

/-! ### Leaves

A leaf is related to itself by everything that relates each of its replies to itself. -/

/-- An action that leaves the store alone. -/
theorem Alike.ofReply (f : Text → Int → Reply) :
    C.Alike (Action.ofReply f) (Action.ofReply f) :=
  fun _ _ => .pure rfl

theorem Rel.regex {Q : Reply → Reply → Prop} {p : Regex.Pattern} {group : Nat} {src : Text}
    {pos : Int}
    (hm : ∀ (stop : Nat) text, p.matchAt? src pos group = .ok (some (stop, text)) →
      Q (.matched stop (.text text)) (.matched stop (.text text)))
    (hx : Q (.mismatch pos (.text p.label)) (.mismatch pos (.text p.label))) :
    C.Rel Q (Action.regex p group src pos) (Action.regex p group src pos) := by
  refine Rel.bind (Q := fun m m' => m = m' ∧ p.matchAt? src pos group = .ok m)
    (.ofExcept fun m h => ⟨rfl, h⟩) ?_
  rintro (_ | ⟨stop, text⟩) _ ⟨rfl, h⟩
  · exact .pure hx
  · exact .pure (hm stop text h)

theorem Rel.charAt (src : Text) (pos : Int) :
    C.Rel Eq (Action.charAt src pos) (Action.charAt src pos) := .ofExcept fun _ _ => rfl

theorem Rel.charTest {Q : Reply → Reply → Prop} {label label' : Text}
    {test : CodePoint → Effect Bool} {src : Text} {pos : Int}
    (hm : ∀ c,
      pos < src.length → Q (.matched (pos + 1) (.char c)) (.matched (pos + 1) (.char c)))
    (hx : Q (.mismatch pos (.text label)) (.mismatch pos (.text label'))) :
    C.Rel Q (Action.charTest label test src pos) (Action.charTest label' test src pos) := by
  simp only [Action.charTest]
  split
  · next hlt =>
    refine Rel.bind (.charAt src pos) ?_
    rintro c _ rfl
    refine Rel.bind (.perform (test c)) ?_
    rintro (_ | _) _ rfl
    · exact .pure hx
    · exact .pure (hm c hlt)
  · exact .pure hx

/-- A scan ends between the offset it starts from and the end of the text. -/
theorem Rel.scan (test : CodePoint → Effect Bool) (src : Text) (left : Nat) (pos : Int) :
    C.Rel (fun i j => i = j ∧ pos ≤ i ∧ i ≤ pos + left) (Action.scan test src left pos)
      (Action.scan test src left pos) := by
  induction left generalizing pos with
  | zero => exact .pure ⟨rfl, by omega, by omega⟩
  | succ left ih =>
      refine Rel.bind (.charAt src pos) ?_
      rintro c _ rfl
      refine Rel.bind (.perform (test c)) ?_
      rintro (_ | _) _ rfl
      · exact .pure ⟨rfl, by omega, by omega⟩
      · refine (ih (pos + 1)).mono ?_
        rintro i _ ⟨rfl, h₁, h₂⟩
        exact ⟨rfl, by omega, by omega⟩

theorem Rel.takeWhile {Q : Reply → Reply → Prop} {test : CodePoint → Effect Bool} {src : Text}
    {pos : Int}
    (hm : ∀ stop value, pos ≤ stop → Q (.matched stop value) (.matched stop value)) :
    C.Rel Q (Action.takeWhile test src pos) (Action.takeWhile test src pos) := by
  refine Rel.bind (.scan test src _ pos) ?_
  rintro stop _ ⟨rfl, h, -⟩
  exact .pure (hm stop _ h)

theorem Rel.anyChar {Q : Reply → Reply → Prop} {src : Text} {pos : Int}
    (hm : ∀ c,
      pos < src.length → Q (.matched (pos + 1) (.char c)) (.matched (pos + 1) (.char c)))
    (hx : Q (.mismatch pos (.text "any character")) (.mismatch pos (.text "any character"))) :
    C.Rel Q (Action.anyChar src pos) (Action.anyChar src pos) := by
  simp only [Action.anyChar]
  split
  · next hlt =>
    refine Rel.bind (.charAt src pos) ?_
    rintro c _ rfl
    exact .pure (hm c hlt)
  · exact .pure hx

/-! ### One parser -/

theorem Rel.merge (reply : Reply) (last : Option Reply) :
    C.Rel Eq (Run.merge reply last) (Run.merge reply last) := .ofExcept fun _ _ => rfl

theorem Alike.map (h : C.Alike a b) (f : Value → Effect Value) :
    C.Alike (.map a f) (.map b f) := by
  intro src pos
  refine Rel.bind (h src pos) ?_
  rintro (⟨index, value, record⟩ | record) _ rfl
  · refine Rel.bind (.perform (f value)) ?_
    rintro value _ rfl
    exact .pure rfl
  · exact .pure rfl

theorem Alike.chain {next next' : Value → Action} (h : C.Alike a b)
    (hn : ∀ v, C.Alike (next v) (next' v)) : C.Alike (.chain a next) (.chain b next') := by
  intro src pos
  refine Rel.bind (h src pos) ?_
  rintro (⟨index, value, record⟩ | record) _ rfl
  · refine Rel.bind (hn value src index) ?_
    rintro reply _ rfl
    exact .merge reply _
  · exact .pure rfl

theorem Alike.desc (h : C.Alike a b) (label : Text) :
    C.Alike (.desc a label) (.desc b label) := by
  intro src pos
  refine Rel.bind (h src pos) ?_
  rintro (⟨index, value, record⟩ | record) _ rfl
  · exact .pure rfl
  · simp only
    split
    · exact .pure rfl
    · exact .pure rfl

theorem Alike.lookahead (h : C.Alike a b) : C.Alike (.lookahead a) (.lookahead b) := by
  intro src pos
  refine Rel.bind (h src pos) ?_
  rintro (⟨index, value, record⟩ | record) _ rfl
  · exact .pure rfl
  · exact .pure rfl

theorem Alike.notFollowedBy (h : C.Alike a b) (label : Label) :
    C.Alike (.notFollowedBy a label) (.notFollowedBy b label) := by
  intro src pos
  refine Rel.bind (h src pos) ?_
  rintro (⟨index, value, record⟩ | record) _ rfl
  · exact .pure rfl
  · exact .pure rfl

/-! ### Several parsers -/

/-- A step of a sequence, a choice or a repetition: an attempt that is merged onto the reply
before it, and what comes after. -/
theorem Rel.attempt (h : C.Alike a b) {src : Text} {pos : Int} {last : Option Reply}
    {f g : Reply → Run Reply} (hfg : ∀ r, C.Rel Eq (f r) (g r)) :
    C.Rel Eq (a src pos >>= fun r => Run.merge r last >>= f)
      (b src pos >>= fun r => Run.merge r last >>= g) := by
  refine Rel.bind (h src pos) ?_
  rintro r _ rfl
  refine Rel.bind (.merge r last) ?_
  rintro r _ rfl
  exact hfg r

theorem Alike.seqFrom {as bs : List Action} (h : List.Forall₂ C.Alike as bs)
    (values : List Value) (last : Option Reply) :
    C.Alike (.seqFrom values last as) (.seqFrom values last bs) := by
  induction h generalizing values last with
  | nil => exact fun _ _ => .pure rfl
  | cons hab _ ih =>
      intro src pos
      refine Rel.attempt hab fun r => ?_
      rcases r with ⟨index, value, record⟩ | record
      · exact ih _ _ src index
      · exact .pure rfl

theorem Alike.altFrom {as bs : List Action} (h : List.Forall₂ C.Alike as bs) (last : Reply) :
    C.Alike (.altFrom last as) (.altFrom last bs) := by
  induction h generalizing last with
  | nil => exact fun _ _ => .pure rfl
  | cons hab _ ih =>
      intro src pos
      refine Rel.attempt hab fun r => ?_
      rcases r with ⟨index, value, record⟩ | record
      · exact .pure rfl
      · exact ih _ src pos

theorem Alike.alt {as bs : List Action} (h : C.Alike a b) (hs : List.Forall₂ C.Alike as bs) :
    C.Alike (.alt a as) (.alt b bs) := by
  intro src pos
  refine Rel.bind (h src pos) ?_
  rintro (⟨index, value, record⟩ | record) _ rfl
  · exact .pure rfl
  · exact Alike.altFrom hs _ src pos

/-! ### Repetitions -/

theorem Rel.upTo (h : C.Alike a b) (src : Text) (n : Nat) (s : Action.Progress) :
    C.Rel Eq (Action.upTo a src n s) (Action.upTo b src n s) := by
  induction n generalizing s with
  | zero => exact .pure rfl
  | succ n ih =>
      refine Rel.attempt h fun r => ?_
      rcases r with ⟨index, value, record⟩ | record
      · exact ih _
      · exact .pure rfl

theorem Rel.unbounded (h : C.Alike a b) (src : Text) {m n : Nat} (hmn : C.Bounds m n)
    (s : Action.Progress) :
    C.Rel Eq (Action.unbounded a src m s) (Action.unbounded b src n s) := by
  induction m generalizing n s with
  | zero =>
      rcases hmn with rfl | ⟨he, -⟩
      · exact .stop .exhausted
      · exact .excuse he
  | succ m ih =>
      obtain ⟨n, rfl, hn⟩ := hmn.exists_succ
      refine Rel.attempt h fun r => ?_
      rcases r with ⟨index, value, record⟩ | record
      · simp only
        split
        · exact .pure rfl
        · exact ih hn _
      · exact .pure rfl

theorem Rel.required (h : C.Alike a b) (src : Text) {f g : Action.Progress → Run Reply}
    (hfg : ∀ s, C.Rel Eq (f s) (g s)) (n : Nat) (s : Action.Progress) :
    C.Rel Eq (Action.required a src f n s) (Action.required b src g n s) := by
  induction n generalizing s with
  | zero => exact hfg s
  | succ n ih =>
      refine Rel.attempt h fun r => ?_
      rcases r with ⟨index, value, record⟩ | record
      · exact ih _
      · exact .pure rfl

theorem Alike.repeated (h : C.Alike a b) {m n : Nat} (hmn : C.Bounds m n) (least : Nat)
    (extra : Option Nat) :
    C.Alike (.repeated a m least extra) (.repeated b n least extra) := by
  intro src pos
  refine Rel.required h src (fun s => ?_) least _
  cases extra with
  | none => exact .unbounded h src hmn s
  | some k => exact .upTo h src k s

/-! ### Parsers -/

/-- What two functions make of the parsers of a list is related in pairs. -/
theorem forall₂_map_parsers {α β : Type} {R : α → β → Prop} {f : Parser → α} {g : Parser → β}
    {ps : List Parser} (h : ∀ p ∈ ps, R (f p) (g p)) :
    List.Forall₂ R (ps.map f) (ps.map g) := by
  rw [List.forall₂_map_left_iff, List.forall₂_map_right_iff, List.forall₂_same]
  exact h

/-- **A parser runs alike in coupled stores, if its lazy parsers do.** -/
theorem eval_alike {m n : Nat} (hmn : C.Bounds m n) {lazies lazies' : Nat → Action}
    (hl : ∀ id, C.Alike (lazies id) (lazies' id)) (p : Parser) :
    C.Alike (p.eval m lazies) (p.eval n lazies') := by
  induction p using Parser.partRec with
  | step p ih =>
  cases p with
  | literal | succeed | fail | eof | index | rest => exact .ofReply _
  | regex p group => exact fun _ _ => .regex (fun _ _ _ => rfl) rfl
  | charTest label test => exact fun _ _ => .charTest (fun _ _ => rfl) rfl
  | takeWhile test => exact fun _ _ => .takeWhile fun _ _ _ => rfl
  | anyChar => exact fun _ _ => .anyChar (fun _ _ => rfl) rfl
  | map p f => exact .map (ih p .map) f
  | chain p next => exact .chain (ih p .chain) fun v => ih _ (.chainNext v)
  | desc p label => exact .desc (ih p .desc) label
  | repeated p least extra => exact .repeated (ih p .repeated) hmn least extra
  | seq ps =>
      rw [Parser.eval_seq, Parser.eval_seq]
      exact .seqFrom (forall₂_map_parsers fun p hp => ih p (.seq hp)) [] none
  | alt p ps =>
      rw [Parser.eval_alt, Parser.eval_alt]
      exact .alt (ih p .altFirst) (forall₂_map_parsers fun q hq => ih q (.altOther hq))
  | lookahead p => exact .lookahead (ih p .lookahead)
  | notFollowedBy p label => exact .notFollowedBy (ih p .notFollowedBy) label
  | lazy id => exact hl id
  | custom act => exact fun src pos => ih _ (.custom src pos) src pos
  | answer reply => exact fun _ _ => .pure rfl
  | inspect p next =>
      intro src pos
      refine Rel.bind (ih p .inspect src pos) ?_
      rintro r _ rfl
      exact ih _ (.inspectNext r) src pos
  | raise fault => exact fun _ _ => .raise fault
  | note n p =>
      intro src pos
      refine Rel.bind (.note n) ?_
      rintro _ _ -
      exact ih p .note src pos

/-- A lazy parser runs alike in coupled stores, if resolving keeps them coupled. -/
theorem runLazy_alike (hf : C.Forces) {m n : Nat} (hmn : C.Bounds m n) {d d' : Nat}
    (hd : C.Bounds d d') (id : Nat) : C.Alike (runLazy m d id) (runLazy n d' id) := by
  induction d generalizing d' id with
  | zero =>
      rcases hd with rfl | ⟨he, -⟩
      · exact fun _ _ => .stop .exhausted
      · exact fun _ _ => .excuse he
  | succ d ih =>
      obtain ⟨d', rfl, hd'⟩ := hd.exists_succ
      intro src pos
      refine Rel.bind (hf id) ?_
      rintro p _ rfl
      exact eval_alike hmn (ih hd') p src pos

/-- **A run keeps every coupling that resolving keeps.** -/
theorem run_alike (hf : C.Forces) (p : Parser) {limits limits' : Limits}
    (hr : C.Bounds limits.rounds limits'.rounds) (hd : C.Bounds limits.depth limits'.depth) :
    C.Alike (p.run limits) (p.run limits') :=
  eval_alike hr (runLazy_alike hf hr hd) p

/-- A parse keeps every coupling that resolving keeps. -/
theorem Rel.parse (hf : C.Forces) (p : Parser) {limits limits' : Limits}
    (hr : C.Bounds limits.rounds limits'.rounds) (hd : C.Bounds limits.depth limits'.depth)
    (src : Text) : C.Rel Eq (p.parse limits src) (p.parse limits' src) := by
  refine Rel.bind (run_alike hf (p.skip .eof) hr hd src 0) ?_
  rintro (⟨index, value, record⟩ | record) _ rfl
  · exact .pure rfl
  · refine Rel.bind (.report _ _) ?_
    rintro _ _ -
    exact .pure rfl

/-! ### Larger limits -/

/-- The coupling of equal stores, in which the first run may be exhausted. -/
def patient : Coupling where
  related s t := s = t
  excused e := e = .exhausted
  noted := by
    rintro s _ notes rfl
    rfl
  reported := by
    rintro s _ offset expected rfl
    rfl

/-- Resolving a lazy parser does the same in equal stores. -/
theorem patient_forces : patient.Forces := by
  rintro id s _ rfl
  exact .of_outcome_eq rfl rfl

end Coupling

namespace Parser

variable {p : Parser} {src : Text} {pos : Int} {s : Store}

/-- **Larger limits change nothing about a run that is not exhausted**, neither its outcome
nor the store after it. -/
theorem exec_run_of_le {limits limits' : Limits} (hd : limits.depth ≤ limits'.depth)
    (hr : limits.rounds ≤ limits'.rounds)
    (h : (p.run limits src pos).outcome s ≠ .error .exhausted) :
    (p.run limits' src pos).exec s = (p.run limits src pos).exec s := by
  have he := Coupling.run_alike Coupling.patient_forces p (.inr ⟨rfl, hr⟩)
    (.inr ⟨rfl, hd⟩) src pos
    (show Coupling.patient.related s s from rfl)
  simp only [Run.outcome] at h
  generalize (p.run limits src pos).exec s = x at he h ⊢
  generalize (p.run limits' src pos).exec s = y at he ⊢
  cases he with
  | returned hq hs =>
      obtain rfl := hq
      obtain rfl : _ = _ := hs
      rfl
  | stopped hs =>
      obtain rfl : _ = _ := hs
      rfl
  | excused he =>
      obtain rfl : _ = _ := he
      exact absurd rfl h

/-- What a run comes to at all limits that suffice: a reply, or the fault by which it is
broken off. -/
def Yields (p : Parser) (src : Text) (pos : Int) (s : Store) (o : Except Fault Reply) : Prop :=
  ∃ limits, (p.run limits src pos).outcome s = o.mapError Stop.fault

/-- What a run comes to does not depend on the limits. -/
theorem Yields.unique {o o' : Except Fault Reply} (h : p.Yields src pos s o)
    (h' : p.Yields src pos s o') : o = o' := by
  have hne (o : Except Fault Reply) : o.mapError Stop.fault ≠ .error .exhausted := by
    cases o <;> rintro ⟨⟩
  obtain ⟨l, hl⟩ := h
  obtain ⟨l', hl'⟩ := h'
  let m : Limits := ⟨max l.depth l'.depth, max l.rounds l'.rounds⟩
  have hm : (p.run m src pos).exec s = (p.run l src pos).exec s :=
    exec_run_of_le (Nat.le_max_left ..) (Nat.le_max_left ..) (hl ▸ hne o)
  have hm' : (p.run m src pos).exec s = (p.run l' src pos).exec s :=
    exec_run_of_le (Nat.le_max_right ..) (Nat.le_max_right ..) (hl' ▸ hne o')
  have heq : o.mapError Stop.fault = o'.mapError Stop.fault := by
    rw [← hl, ← hl', Run.outcome, Run.outcome, ← hm, ← hm']
  cases o <;> cases o' <;> cases heq <;> rfl

end Parser

end Furthest
