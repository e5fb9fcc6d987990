import Furthest.Parser.Eval

/-!
# Computations Side by Side

Most properties of parsers compare two computations on the store: a run with a run that
watches what it does, a run with the same run at larger limits, a run in one store with the
same run in another. This module holds the comparison and its rules.

A `Coupling` says which stores may stand side by side, and for which reasons the first
computation may be broken off before its partner, after which nothing more is asked of the
two. Callbacks leave notes and a failed parse is written to the log; that is all that
happens to a store apart from its lazy parsers, so every coupling is kept by notes and by
such entries on both sides. `C.Rel Q m n` says that `m` and `n`, started in coupled stores,
end in coupled stores, either with results that `Q` relates or for the same reason.

The rules follow the way computations are put together: `Rel.pure` and `Rel.stop` for the
ends, `Rel.bind` for sequencing, `Rel.perform` for callbacks.

## Main results

* `Coupling.Rel.bind`: related computations with related continuations are related.
* `Coupling.Rel.perform`: a callback is related to itself.
* `Coupling.Rel.outcome_eq`: what a comparison in two stores says.
* `Coupling.Rel.exec_of_same`, `Coupling.Rel.exec_eq_of_same`, `Coupling.Rel.inv_of_same`:
  what a comparison in one store says.
-/

namespace Furthest

/-- The store with more notes in its journal. -/
def Store.noted (s : Store) (notes : List Note) : Store :=
  { s with journal := s.journal ++ notes.toArray }

@[simp] theorem Store.noted_nil (s : Store) : s.noted [] = s := by simp [noted]

/-- Notes are left one after the other. -/
theorem Store.noted_append (s : Store) (k l : List Note) :
    s.noted (k ++ l) = (s.noted k).noted l := by simp [noted]

/-- The store with an entry about a failed parse in its log. -/
def Store.reported (s : Store) (offset : Int) (expected : List Value) : Store :=
  { s with log := s.log.push (.parseFailed offset expected) }

namespace Run

/-! ### What a computation comes to -/

/-- What a computation comes to from a store: its outcome and the store after it. -/
def exec (m : Run α) (s : Store) : Except Stop α × Store := m.run.run s

/-- The outcome of a computation from a store. -/
def outcome (m : Run α) (s : Store) : Except Stop α := (m.exec s).1

/-- The store after a computation. -/
def after (m : Run α) (s : Store) : Store := (m.exec s).2

@[simp] theorem exec_pure (a : α) (s : Store) : (pure a : Run α).exec s = (.ok a, s) := rfl

@[simp] theorem exec_throw (e : Stop) (s : Store) :
    (throw e : Run α).exec s = (.error e, s) := rfl

@[simp] theorem exec_raise (fault : Fault) (s : Store) :
    (raise fault : Run α).exec s = (.error (.fault fault), s) := rfl

@[simp] theorem exec_get (s : Store) : (get : Run Store).exec s = (.ok s, s) := rfl

@[simp] theorem exec_modify (f : Store → Store) (s : Store) :
    (modify f : Run Unit).exec s = (.ok (), f s) := rfl

@[simp] theorem exec_log (r : LogRecord) (s : Store) :
    (log r).exec s = (.ok (), { s with log := s.log.push r }) := rfl

@[simp] theorem exec_note (n : Note) (s : Store) :
    (note n).exec s = (.ok (), s.noted [n]) := by
  change (Except.ok (), { s with journal := s.journal.push n }) = _
  rw [Array.push_eq_append]
  rfl

@[simp] theorem exec_ofExcept (e : Except Fault α) (s : Store) :
    (ofExcept e).exec s = (e.mapError Stop.fault, s) := by
  cases e <;> rfl

/-- A computation and a continuation, where the computation returns. -/
theorem exec_bind_of_ok {m : Run α} {f : α → Run β} {s t : Store} {a : α}
    (h : m.exec s = (.ok a, t)) : (m >>= f).exec s = (f a).exec t := by
  have hb : (m >>= f).exec s
      = ((ExceptT.bindCont f (m.exec s).1).run (m.exec s).2 : Except Stop β × Store) := rfl
  rw [hb, h]
  rfl

/-- A computation and a continuation, where the computation is broken off. -/
theorem exec_bind_of_error {m : Run α} {f : α → Run β} {s t : Store} {e : Stop}
    (h : m.exec s = (.error e, t)) : (m >>= f).exec s = (.error e, t) := by
  have hb : (m >>= f).exec s
      = ((ExceptT.bindCont f (m.exec s).1).run (m.exec s).2 : Except Stop β × Store) := rfl
  rw [hb, h]
  rfl

/-- A function of the result. -/
theorem exec_map (f : α → β) (m : Run α) (s : Store) :
    (f <$> m).exec s = ((m.outcome s).map f, m.after s) := by
  rw [← bind_pure_comp, outcome, after]
  rcases h : m.exec s with ⟨e | a, t⟩
  · exact exec_bind_of_error h
  · exact exec_bind_of_ok h

@[simp] theorem exec_perform (e : Effect α) (s : Store) :
    (perform e).exec s = (e.outcome.mapError Stop.fault, s.noted e.notes) := by
  have h :
      (modify fun s => { s with journal := s.journal ++ e.notes.toArray } : Run Unit).exec s
        = (.ok (), s.noted e.notes) := rfl
  rw [perform, exec_bind_of_ok h, exec_ofExcept]

/-- Computations that come to the same from every store are the same. -/
theorem ext {m n : Run α} (h : ∀ s, m.exec s = n.exec s) : m = n := funext h

/-- A callback without effects. -/
theorem perform_pure (a : α) : perform (pure a) = pure a := by
  refine ext fun s => ?_
  rw [exec_perform]
  exact congrArg _ (Store.noted_nil s)

/-- A callback that goes on with another one: their notes are left one after the other. -/
theorem perform_bind (e : Effect α) (f : α → Effect β) :
    perform (e >>= f) = perform e >>= fun a => perform (f a) := by
  refine ext fun s => ?_
  obtain ⟨notes, outcome⟩ := e
  cases outcome with
  | error fault =>
      rw [exec_bind_of_error (exec_perform _ s), exec_perform]
      rfl
  | ok a =>
      rw [exec_bind_of_ok (exec_perform _ s), exec_perform, exec_perform, ← Store.noted_append]
      rfl

end Run

/-- Which stores may stand side by side, and for which reasons the first of two computations
may be broken off before its partner. -/
structure Coupling where
  /-- The stores that may stand side by side. -/
  related : Store → Store → Prop
  /-- The reasons after which nothing more is asked. -/
  excused : Stop → Prop
  /-- Notes on both sides keep the stores side by side. -/
  noted : ∀ {s t : Store} (notes : List Note), related s t →
    related (s.noted notes) (t.noted notes)
  /-- Entries about a failed parse on both sides keep the stores side by side. -/
  reported : ∀ {s t : Store} (offset : Int) (expected : List Value), related s t →
    related (s.reported offset expected) (t.reported offset expected)

namespace Coupling

/-- The coupling of a store with itself, as long as it has a property that depends on
neither the journal nor the entries about failed parses. -/
def same (inv : Store → Prop) (noted : ∀ s notes, inv s → inv (s.noted notes))
    (reported : ∀ s offset expected, inv s → inv (s.reported offset expected)) : Coupling where
  related s t := s = t ∧ inv s
  excused _ := False
  noted := by
    rintro s _ notes ⟨rfl, h⟩
    exact ⟨rfl, noted s notes h⟩
  reported := by
    rintro s _ offset expected ⟨rfl, h⟩
    exact ⟨rfl, reported s offset expected h⟩

/-- What two computations come to, side by side. -/
inductive Ends (C : Coupling) (Q : α → β → Prop) :
    Except Stop α × Store → Except Stop β × Store → Prop
  /-- Both return. -/
  | returned {a : α} {b : β} {s t : Store} (hq : Q a b) (hr : C.related s t) :
      Ends C Q (.ok a, s) (.ok b, t)
  /-- Both are broken off for the same reason. -/
  | stopped {e : Stop} {s t : Store} (hr : C.related s t) :
      Ends C Q (.error e, s) (.error e, t)
  /-- The first one is broken off for a reason after which nothing more is asked. -/
  | excused {e : Stop} {s : Store} {r : Except Stop β × Store} (he : C.excused e) :
      Ends C Q (.error e, s) r

/-- Two computations with equal outcomes end side by side, if their stores do. -/
theorem Ends.of_outcome_eq {C : Coupling} {m n : Run α} {s t : Store}
    (h : m.outcome s = n.outcome t) (hr : C.related (m.after s) (n.after t)) :
    C.Ends Eq (m.exec s) (n.exec t) := by
  simp only [Run.outcome] at h
  simp only [Run.after] at hr
  generalize m.exec s = x at h hr ⊢
  generalize n.exec t = y at h hr ⊢
  obtain ⟨o, s'⟩ := x
  obtain ⟨o', t'⟩ := y
  obtain rfl : o = o' := h
  cases o with
  | ok a => exact .returned rfl hr
  | error e => exact .stopped hr

/-- Two computations stay side by side: from coupled stores they come to coupled stores,
with related results or for the same reason. -/
def Rel (C : Coupling) (Q : α → β → Prop) (m : Run α) (n : Run β) : Prop :=
  ∀ ⦃s t : Store⦄, C.related s t → C.Ends Q (m.exec s) (n.exec t)

namespace Rel

variable {C : Coupling} {Q : α → β → Prop}

/-- Two results. -/
theorem pure {a : α} {b : β} (h : Q a b) : C.Rel Q (pure a) (pure b) :=
  fun _ _ hr => .returned h hr

/-- Two breaks for the same reason. -/
theorem stop (e : Stop) : C.Rel Q (throw e) (throw e) := fun _ _ hr => .stopped hr

/-- The same fault. -/
theorem raise (fault : Fault) : C.Rel Q (Run.raise fault) (Run.raise fault) :=
  fun _ _ hr => .stopped hr

/-- A break for a reason that is excused. -/
theorem excuse {e : Stop} {n : Run β} (he : C.excused e) : C.Rel Q (throw e) n :=
  fun _ _ _ => .excused he

/-- Results may be compared less strictly. -/
theorem mono {Q' : α → β → Prop} {m : Run α} {n : Run β} (h : C.Rel Q m n)
    (hq : ∀ a b, Q a b → Q' a b) : C.Rel Q' m n := by
  intro s t hr
  have he := h hr
  generalize m.exec s = x at he
  generalize n.exec t = y at he
  cases he with
  | returned hab hr' => exact .returned (hq _ _ hab) hr'
  | stopped hr' => exact .stopped hr'
  | excused he => exact .excused he

/-- Related computations with related continuations. -/
theorem bind {P : γ → δ → Prop} {m : Run α} {n : Run β} {f : α → Run γ} {g : β → Run δ}
    (h : C.Rel Q m n) (hfg : ∀ a b, Q a b → C.Rel P (f a) (g b)) :
    C.Rel P (m >>= f) (n >>= g) := by
  intro s t hr
  have he := h hr
  generalize hm : m.exec s = x at he
  generalize hn : n.exec t = y at he
  cases he with
  | returned hab hr' =>
      rw [Run.exec_bind_of_ok hm, Run.exec_bind_of_ok hn]
      exact hfg _ _ hab hr'
  | stopped hr' =>
      rw [Run.exec_bind_of_error hm, Run.exec_bind_of_error hn]
      exact .stopped hr'
  | excused he =>
      rw [Run.exec_bind_of_error hm]
      exact .excused he

/-- A result that may be a fault, on both sides. -/
theorem ofExcept {Q : α → α → Prop} {e : Except Fault α} (h : ∀ a, e = .ok a → Q a a) :
    C.Rel Q (Run.ofExcept e) (Run.ofExcept e) := by
  cases e with
  | ok a => exact pure (h a rfl)
  | error fault => exact raise fault

/-- A callback, on both sides. -/
theorem perform (e : Effect α) : C.Rel Eq (Run.perform e) (Run.perform e) := by
  intro s t hr
  rw [Run.exec_perform, Run.exec_perform]
  cases e.outcome with
  | ok a => exact .returned rfl (C.noted _ hr)
  | error fault => exact .stopped (C.noted _ hr)

/-- A note, on both sides. -/
theorem note (n : Note) : C.Rel Eq (Run.note n) (Run.note n) := by
  intro s t hr
  rw [Run.exec_note, Run.exec_note]
  exact .returned rfl (C.noted _ hr)

/-- An entry about a failed parse, on both sides. -/
theorem report (offset : Int) (expected : List Value) :
    C.Rel Eq (Run.log (.parseFailed offset expected))
      (Run.log (.parseFailed offset expected)) :=
  fun _ _ hr => .returned rfl (C.reported offset expected hr)

/-- Computations that stay side by side have equal outcomes, if no break is excused. -/
theorem outcome_eq {m n : Run α} {s t : Store} (h : C.Rel Eq m n) (hc : ∀ e, ¬ C.excused e)
    (hr : C.related s t) : m.outcome s = n.outcome t := by
  have he := h hr
  simp only [Run.outcome]
  generalize m.exec s = x at he
  generalize n.exec t = y at he
  cases he with
  | returned hq _ => rw [hq]
  | stopped _ => rfl
  | excused he => exact absurd he (hc _)

/-! ### A store beside itself -/

variable {inv : Store → Prop} {noted : ∀ s notes, inv s → inv (s.noted notes)}
  {reported : ∀ s offset expected, inv s → inv (s.reported offset expected)} {s : Store}

/-- In one store, two computations come to the same, if the results of the first are a
function of those of the second. -/
theorem exec_of_same {m : Run α} {n : Run β} {f : β → α}
    (h : (same inv noted reported).Rel (fun a b => a = f b) m n) (hs : inv s) :
    m.exec s = ((n.outcome s).map f, n.after s) := by
  have he := h ⟨rfl, hs⟩
  simp only [Run.outcome, Run.after]
  generalize m.exec s = x at he
  generalize n.exec s = y at he
  cases he with
  | returned hq hr =>
      obtain rfl := hq
      obtain ⟨rfl, -⟩ := hr
      rfl
  | stopped hr =>
      obtain ⟨rfl, -⟩ := hr
      rfl
  | excused he => exact he.elim

/-- In one store, two computations with equal results come to the same, and what is said
about the results holds of theirs. -/
theorem exec_eq_of_same {m n : Run α} {P : α → Prop}
    (h : (same inv noted reported).Rel (fun a b => a = b ∧ P a) m n) (hs : inv s) :
    m.exec s = n.exec s ∧ ∀ a, m.outcome s = .ok a → P a := by
  have he := h ⟨rfl, hs⟩
  simp only [Run.outcome]
  generalize m.exec s = x at he
  generalize n.exec s = y at he
  cases he with
  | returned hq hr =>
      obtain ⟨rfl, hp⟩ := hq
      obtain ⟨rfl, -⟩ := hr
      exact ⟨rfl, fun _ ha => Except.ok.inj ha ▸ hp⟩
  | stopped hr =>
      obtain ⟨rfl, -⟩ := hr
      exact ⟨rfl, fun _ ha => nomatch ha⟩
  | excused he => exact he.elim

/-- The property holds of the store after the first computation. -/
theorem inv_of_same {m : Run α} {n : Run β} {Q : α → β → Prop}
    (h : (same inv noted reported).Rel Q m n) (hs : inv s) : inv (m.after s) := by
  have he := h ⟨rfl, hs⟩
  simp only [Run.after]
  generalize m.exec s = x at he
  generalize n.exec s = y at he
  cases he with
  | returned _ hr => exact hr.2
  | stopped hr => exact hr.2
  | excused he => exact he.elim

end Rel

end Coupling

end Furthest
