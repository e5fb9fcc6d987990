import Furthest.Proofs.Congruence

/-!
# Runs with Replies that Are Alike

Some properties compare runs whose replies are not equal but alike: up to the labels in
them, say, or up to the place of the text within a larger one. A `Likeness` says which
texts, which offsets and which records are taken for alike. It comes with one clause for
each thing that the inner nodes of a parser do with them: repetitions ask whether two
offsets are equal, and every step joins records or carries them on. Values are not touched,
so alike replies have equal ones.

Whatever the likeness is, actions that mirror each other can be put together: the nodes of a
parser make actions of them that mirror each other again. What is left to each likeness is
what looks into texts and records, the leaves and the descriptions.

## Main results

* `Likeness.Replies.merge`: merging keeps replies alike.
* `Coupling.Mirrors.map`, `Coupling.Mirrors.seq`, `Coupling.Mirrors.repeated` and others:
  the inner nodes keep actions side by side, with replies that are alike.
-/

namespace Furthest

/-- Two results that are related, or the same fault on both sides. -/
inductive Fault.Both {α β : Type} (Q : α → β → Prop) : Except Fault α → Except Fault β → Prop
  | ok {a : α} {b : β} (h : Q a b) : Both Q (.ok a) (.ok b)
  | error (fault : Fault) : Both Q (.error fault) (.error fault)

/-- Which texts, offsets and records are taken for alike. -/
structure Likeness where
  /-- The texts that runs read. -/
  texts : Text → Text → Prop
  /-- The offsets at which parsers are run. -/
  offsets : Int → Int → Prop
  /-- The records of failures. -/
  records : Record → Record → Prop
  /-- Offsets are equal on the one side if they are on the other. -/
  offsets_eq_iff : ∀ {i i' j j' : Int}, offsets i i' → offsets j j' → (i = j ↔ i' = j')
  /-- Nothing has failed on either side. -/
  clean : records .clean .clean
  /-- Records can be carried on. -/
  carried : ∀ {r r' : Record}, records r r' → records r.carried r'.carried
  /-- Records can be joined, or they cannot on either side. -/
  join : ∀ {r r' last last' : Record}, records r r' → records last last' →
    Fault.Both records (r.join last) (r'.join last')

namespace Likeness

variable {L : Likeness}

/-- Replies that are alike: they have the same status, and on success the same value. -/
inductive Replies (L : Likeness) : Reply → Reply → Prop
  | success {index index' : Int} (hi : L.offsets index index') (value : Value) {r r' : Record}
      (hr : L.records r r') : Replies L (.success index value r) (.success index' value r')
  | failure {r r' : Record} (hr : L.records r r') : Replies L (.failure r) (.failure r')

namespace Replies

variable {r r' : Reply} {last last' : Option Reply}

theorem record (h : L.Replies r r') : L.records r.record r'.record := by
  cases h with
  | success _ _ hr => exact hr
  | failure hr => exact hr

theorem matched {index index' : Int} (hi : L.offsets index index') (value : Value) :
    L.Replies (.matched index value) (.matched index' value) := .success hi value L.clean

/-- The same reply with another record. -/
theorem withRecord (h : L.Replies r r') {j j' : Record} (hj : L.records j j') :
    L.Replies (r.withRecord j) (r'.withRecord j') := by
  cases h with
  | success hi value _ => exact .success hi value hj
  | failure _ => exact .failure hj

/-- **Merging keeps replies alike.** -/
theorem merge (h : L.Replies r r') (hl : Option.Rel L.Replies last last') :
    Fault.Both L.Replies (r.merge last) (r'.merge last') := by
  cases hl with
  | none => exact .ok h
  | @some last last' hl =>
      have hj := L.join h.record hl.record
      simp only [Reply.merge, Reply.onto]
      generalize r.record.join last.record = j at hj ⊢
      generalize r'.record.join last'.record = j' at hj ⊢
      cases hj with
      | ok hj => exact .ok (h.withRecord hj)
      | error fault => exact .error fault

/-- A match that follows an earlier reply. -/
theorem after (hl : Option.Rel L.Replies last last') {index index' : Int}
    (hi : L.offsets index index') (value : Value) :
    L.Replies (.after last index value) (.after last' index' value) := by
  cases hl with
  | none => exact .success hi value L.clean
  | some hl => exact .success hi value (L.carried hl.record)

end Replies

end Likeness

namespace Coupling

/-- Two actions mirror each other: at alike offsets of alike texts they stay side by side,
with replies that are alike. -/
def Mirrors (C : Coupling) (L : Likeness) (a b : Action) : Prop :=
  ∀ ⦃src src' : Text⦄, L.texts src src' → ∀ ⦃pos pos' : Int⦄, L.offsets pos pos' →
    C.Rel L.Replies (a src pos) (b src' pos')

variable {C : Coupling} {L : Likeness} {a b : Action}

/-! ### One parser -/

theorem Mirrors.map (h : C.Mirrors L a b) (f : Value → Effect Value) :
    C.Mirrors L (.map a f) (.map b f) := by
  intro src src' hsrc pos pos' hpos
  refine Rel.bind (h hsrc hpos) ?_
  rintro _ _ (⟨hi, value, hr⟩ | ⟨hr⟩)
  · refine Rel.bind (.perform (f value)) ?_
    rintro value _ rfl
    exact .pure (.success hi value (L.carried hr))
  · exact .pure (.failure hr)

/-- A reply that is merged onto the one before it. -/
theorem Rel.mergeAlike {r r' : Reply} {last last' : Option Reply} (h : L.Replies r r')
    (hl : Option.Rel L.Replies last last') :
    C.Rel L.Replies (Run.merge r last) (Run.merge r' last') := by
  have hm := h.merge hl
  simp only [Run.merge]
  generalize r.merge last = j at hm
  generalize r'.merge last' = j' at hm
  cases hm with
  | ok hj => exact .pure hj
  | error fault => exact .raise fault

theorem Mirrors.chain {next next' : Value → Action} (h : C.Mirrors L a b)
    (hn : ∀ v, C.Mirrors L (next v) (next' v)) :
    C.Mirrors L (.chain a next) (.chain b next') := by
  intro src src' hsrc pos pos' hpos
  refine Rel.bind (h hsrc hpos) ?_
  rintro _ _ (⟨hi, value, hr⟩ | ⟨hr⟩)
  · refine Rel.bind (hn value hsrc hi) ?_
    intro r r' hrr
    exact .mergeAlike hrr (.some (.success hi value hr))
  · exact .pure (.failure hr)

theorem Mirrors.lookahead (h : C.Mirrors L a b) :
    C.Mirrors L (.lookahead a) (.lookahead b) := by
  intro src src' hsrc pos pos' hpos
  refine Rel.bind (h hsrc hpos) ?_
  rintro _ _ (⟨_, value, hr⟩ | ⟨hr⟩)
  · exact .pure (.success hpos value (L.carried hr))
  · exact .pure (.failure hr)

theorem Mirrors.notFollowedBy (h : C.Mirrors L a b) {label label' : Label}
    (hl : ∀ pos pos',
      L.offsets pos pos' → L.records (.single pos label) (.single pos' label')) :
    C.Mirrors L (.notFollowedBy a label) (.notFollowedBy b label') := by
  intro src src' hsrc pos pos' hpos
  refine Rel.bind (h hsrc hpos) ?_
  rintro _ _ (_ | _)
  · exact .pure (.failure (hl pos pos' hpos))
  · exact .pure (.matched hpos .none)

/-! ### Several parsers -/

section

variable {src src' : Text} (hsrc : L.texts src src')
include hsrc

/-- A step of a sequence, a choice or a repetition: an attempt that is merged onto the reply
before it, and what comes after. -/
theorem Rel.attemptAlike (h : C.Mirrors L a b) {pos pos' : Int} (hpos : L.offsets pos pos')
    {last last' : Option Reply} (hl : Option.Rel L.Replies last last') {γ δ : Type}
    {Q : γ → δ → Prop} {f : Reply → Run γ} {g : Reply → Run δ}
    (hfg : ∀ r r', L.Replies r r' → C.Rel Q (f r) (g r')) :
    C.Rel Q (a src pos >>= fun r => Run.merge r last >>= f)
      (b src' pos' >>= fun r => Run.merge r last' >>= g) :=
  Rel.bind (h hsrc hpos) fun _ _ hr => Rel.bind (.mergeAlike hr hl) hfg

theorem Rel.seqFromAlike {as bs : List Action} (h : List.Forall₂ (C.Mirrors L) as bs)
    (values : List Value) {last last' : Option Reply} (hl : Option.Rel L.Replies last last')
    {pos pos' : Int} (hpos : L.offsets pos pos') :
    C.Rel L.Replies (Action.seqFrom values last as src pos)
      (Action.seqFrom values last' bs src' pos') := by
  induction h generalizing values last last' pos pos' with
  | nil => exact .pure (.after hl hpos _)
  | cons hab _ ih =>
      refine Rel.attemptAlike hsrc hab hpos hl ?_
      rintro _ _ (⟨hi, value, hr⟩ | ⟨hr⟩)
      · exact ih _ (.some (.success hi value hr)) hi
      · exact .pure (.failure hr)

theorem Rel.altFromAlike {as bs : List Action} (h : List.Forall₂ (C.Mirrors L) as bs)
    {last last' : Reply} (hl : L.Replies last last') {pos pos' : Int}
    (hpos : L.offsets pos pos') :
    C.Rel L.Replies (Action.altFrom last as src pos) (Action.altFrom last' bs src' pos') := by
  induction h generalizing last last' with
  | nil => exact .pure hl
  | cons hab _ ih =>
      refine Rel.attemptAlike hsrc hab hpos (.some hl) ?_
      rintro _ _ (⟨hi, value, hr⟩ | ⟨hr⟩)
      · exact .pure (.success hi value hr)
      · exact ih (.failure hr)

end

theorem Mirrors.seq {as bs : List Action} (h : List.Forall₂ (C.Mirrors L) as bs) :
    C.Mirrors L (.seq as) (.seq bs) :=
  fun _ _ hsrc _ _ hpos => .seqFromAlike hsrc h [] .none hpos

theorem Mirrors.alt {as bs : List Action} (h : C.Mirrors L a b)
    (hs : List.Forall₂ (C.Mirrors L) as bs) : C.Mirrors L (.alt a as) (.alt b bs) := by
  intro src src' hsrc pos pos' hpos
  refine Rel.bind (h hsrc hpos) ?_
  rintro _ _ (⟨hi, value, hr⟩ | ⟨hr⟩)
  · exact .pure (.success hi value hr)
  · exact .altFromAlike hsrc hs (.failure hr) hpos

/-! ### Repetitions -/

section

variable (h : C.Mirrors L a b) {src src' : Text} (hsrc : L.texts src src')
  {values : List Value} {last last' : Option Reply} {pos pos' : Int}
include h hsrc

theorem Rel.upToAlike (n : Nat) (hl : Option.Rel L.Replies last last')
    (hpos : L.offsets pos pos') :
    C.Rel L.Replies (Action.upTo a src n ⟨values, last, pos⟩)
      (Action.upTo b src' n ⟨values, last', pos'⟩) := by
  induction n generalizing values last last' pos pos' with
  | zero => exact .pure (.after hl hpos _)
  | succ n ih =>
      refine Rel.attemptAlike hsrc h hpos hl ?_
      rintro _ _ (⟨hi, value, hr⟩ | ⟨hr⟩)
      · exact ih (.some (.success hi value hr)) hi
      · exact .pure (.after (.some (.failure hr)) hpos _)

theorem Rel.unboundedAlike (n : Nat) (hl : Option.Rel L.Replies last last')
    (hpos : L.offsets pos pos') :
    C.Rel L.Replies (Action.unbounded a src n ⟨values, last, pos⟩)
      (Action.unbounded b src' n ⟨values, last', pos'⟩) := by
  induction n generalizing values last last' pos pos' with
  | zero => exact .stop .exhausted
  | succ n ih =>
      refine Rel.attemptAlike hsrc h hpos hl ?_
      rintro _ _ (⟨hi, value, hr⟩ | ⟨hr⟩)
      · simp only [L.offsets_eq_iff hi hpos]
        split
        · exact .pure (.after (.some (.success hi value hr)) hi _)
        · exact ih (.some (.success hi value hr)) hi
      · exact .pure (.after (.some (.failure hr)) hpos _)

theorem Rel.requiredAlike {f g : Action.Progress → Run Reply}
    (hfg : ∀ values last last' pos pos', Option.Rel L.Replies last last' → L.offsets pos pos' →
      C.Rel L.Replies (f ⟨values, last, pos⟩) (g ⟨values, last', pos'⟩))
    (n : Nat) (hl : Option.Rel L.Replies last last') (hpos : L.offsets pos pos') :
    C.Rel L.Replies (Action.required a src f n ⟨values, last, pos⟩)
      (Action.required b src' g n ⟨values, last', pos'⟩) := by
  induction n generalizing values last last' pos pos' with
  | zero => exact hfg values last last' pos pos' hl hpos
  | succ n ih =>
      refine Rel.attemptAlike hsrc h hpos hl ?_
      rintro _ _ (⟨hi, value, hr⟩ | ⟨hr⟩)
      · exact ih (.some (.success hi value hr)) hi
      · exact .pure (.failure hr)

end

theorem Mirrors.repeated (h : C.Mirrors L a b) (rounds least : Nat) (extra : Option Nat) :
    C.Mirrors L (.repeated a rounds least extra) (.repeated b rounds least extra) := by
  intro src src' hsrc pos pos' hpos
  refine Rel.requiredAlike h hsrc (fun values last last' pos pos' hl hpos => ?_)
    least .none hpos
  cases extra with
  | none => exact .unboundedAlike h hsrc rounds hl hpos
  | some n => exact .upToAlike h hsrc n hl hpos

end Coupling

end Furthest
