import Furthest.Proofs.LedgerAlgebra
import Furthest.Proofs.Resolution

/-!
# Running a Parser Again

A run may change the store, so a second run of the same parser at the same offset could come
to something else. It does not: what a run that returns has resolved stays resolved, and
nothing else in the store has a say in what it returns. The second run finds every lazy
parser as the first one has left it, and changes nothing but the journal, where the
callbacks leave their notes once more.

Two properties of computations carry the argument, and both are passed on by everything that
runs are made of. `Run.Closed` is that principle: a class of computations holds all runs, if
it is closed under sequencing and holds callbacks and attempts at resolving.

## Main results

* `Run.Closed.runLedger`: a closed class holds all runs.
* `Store.SameButNotes.exec_runLedger`: the journal has no say in what a run comes to.
* `Parser.exec_runLedger_again`: **a run that has returned comes to the same again.**
-/

namespace Furthest

/-! ### Closed classes of computations -/

/-- A class of computations that holds what runs are made of: it is closed under sequencing,
and it holds callbacks, attempts at resolving, and the two ways of ending. -/
structure Run.Closed (P : ∀ {α : Type}, Run α → Prop) : Prop where
  /-- It holds results. -/
  pure : ∀ {α : Type} (a : α), P (pure a : Run α)
  /-- It holds breaks. -/
  stop : ∀ {α : Type} (e : Stop), P (throw e : Run α)
  /-- It is closed under sequencing. -/
  bind : ∀ {α β : Type} {m : Run α} {f : α → Run β}, P m → (∀ a, P (f a)) → P (m >>= f)
  /-- It holds callbacks. -/
  perform : ∀ {α : Type} (e : Effect α), P (Run.perform e)
  /-- It holds attempts at resolving. -/
  force : ∀ id, P (Store.force id)

namespace Run.Closed

variable {P : ∀ {α : Type}, Run α → Prop} (h : Closed P)
include h

theorem ofExcept {α : Type} (e : Except Fault α) : P (Run.ofExcept e) := by
  cases e with
  | ok a => exact h.pure a
  | error fault => exact h.stop (.fault fault)

/-- A note is a callback that does nothing else. -/
theorem note (n : Note) : P (Run.note n) := by
  have hnote : Run.note n = Run.perform (Effect.note n) := by
    refine Run.ext fun s => ?_
    rw [exec_note, exec_perform]
    rfl
  exact hnote ▸ h.perform (Effect.note n)

/-! #### Leaves -/

theorem regex (p : Regex.Pattern) (group : Nat) (src : Text) (pos : Int) :
    P (Action.regex p group src pos) := by
  refine h.bind (h.ofExcept _) fun m => ?_
  rcases m with _ | ⟨stop, text⟩
  · exact h.pure _
  · exact h.pure _

theorem charTest (label : Text) (test : CodePoint → Effect Bool) (src : Text) (pos : Int) :
    P (Action.charTest label test src pos) := by
  rw [Action.charTest]
  split
  · refine h.bind (h.ofExcept _) fun c => h.bind (h.perform (test c)) fun b => ?_
    cases b <;> exact h.pure _
  · exact h.pure _

theorem scan (test : CodePoint → Effect Bool) (src : Text) (left : Nat) (pos : Int) :
    P (Action.scan test src left pos) := by
  induction left generalizing pos with
  | zero => exact h.pure _
  | succ left ih =>
      refine h.bind (h.ofExcept _) fun c => h.bind (h.perform (test c)) fun b => ?_
      cases b with
      | false => exact h.pure _
      | true => exact ih (pos + 1)

theorem anyChar (src : Text) (pos : Int) : P (Action.anyChar src pos) := by
  rw [Action.anyChar]
  split
  · exact h.bind (h.ofExcept _) fun c => h.pure _
  · exact h.pure _

theorem leaf {a : Action} (ha : ∀ src pos, P (a src pos)) (src : Text) (pos : Nat) :
    P (LedgerAction.leaf a src pos) := h.bind (ha src pos) fun _ => h.pure _

/-! #### Nodes -/

open LedgerAction

variable {a : LedgerAction} {src : Text}

theorem seqFrom {as : List LedgerAction} (has : ∀ a ∈ as, ∀ src pos, P (a src pos))
    (values : List Value) (l : Ledger) (src : Text) (pos : Nat) :
    P (seqFrom values l as src pos) := by
  induction as generalizing values l pos with
  | nil => exact h.pure _
  | cons a as ih =>
      rw [List.forall_mem_cons] at has
      refine h.bind (has.1 src pos) fun t => ?_
      rcases t with ⟨_ | ⟨index, value⟩, k⟩
      · exact h.pure _
      · exact ih has.2 _ _ index

theorem altFrom {as : List LedgerAction}
    (has : ∀ a ∈ as, ∀ src pos, P (a src pos)) (l : Ledger) (src : Text) (pos : Nat) :
    P (altFrom l as src pos) := by
  induction as generalizing l with
  | nil => exact h.pure _
  | cons a as ih =>
      rw [List.forall_mem_cons] at has
      refine h.bind (has.1 src pos) fun t => ?_
      rcases t with ⟨_ | ⟨index, value⟩, k⟩
      · exact ih has.2 _
      · exact h.pure _

variable (ha : ∀ pos, P (a src pos))
include ha

theorem upTo (n : Nat) (s : Progress) : P (upTo a src n s) := by
  induction n generalizing s with
  | zero => exact h.pure _
  | succ n ih =>
      refine h.bind (ha s.pos) fun t => ?_
      rcases t with ⟨_ | ⟨index, value⟩, k⟩
      · exact h.pure _
      · exact ih _

theorem unbounded (n : Nat) (s : Progress) : P (unbounded a src n s) := by
  induction n generalizing s with
  | zero => exact h.stop .exhausted
  | succ n ih =>
      refine h.bind (ha s.pos) fun t => ?_
      rcases t with ⟨_ | ⟨index, value⟩, k⟩
      · exact h.pure _
      · simp only
        split
        · exact h.pure _
        · exact ih _

theorem required {finish : Progress → Run Attempt} (hf : ∀ s, P (finish s)) (n : Nat)
    (s : Progress) : P (required a src finish n s) := by
  induction n generalizing s with
  | zero => exact hf s
  | succ n ih =>
      refine h.bind (ha s.pos) fun t => ?_
      rcases t with ⟨_ | ⟨index, value⟩, k⟩
      · exact h.pure _
      · exact ih _

theorem repeated (rounds least : Nat) (extra : Option Nat) (pos : Nat) :
    P (repeated a rounds least extra src pos) := by
  refine h.required ha (fun s => ?_) least _
  cases extra with
  | none => exact h.unbounded ha rounds s
  | some n => exact h.upTo ha n s

omit ha

/-- **A closed class holds what a parser does, if it holds what its lazy parsers do.** -/
theorem evalLedger {rounds : Nat} {lazies : Nat → LedgerAction}
    (hl : ∀ id src pos, P (lazies id src pos)) (p : Parser) (src : Text) (pos : Nat) :
    P (p.evalLedger rounds lazies src pos) := by
  induction p using Parser.partRec generalizing src pos with
  | step p ih =>
  cases p with
  | literal | succeed | fail | eof | index | rest => exact h.leaf (fun _ _ => h.pure _) src pos
  | answer reply => exact h.leaf (fun _ _ => h.pure _) src pos
  | regex p group => exact h.leaf (h.regex p group) src pos
  | charTest label test => exact h.leaf (h.charTest label test) src pos
  | takeWhile test =>
      exact h.leaf (fun _ _ => h.bind (h.scan test _ _ _) fun _ => h.pure _) src pos
  | anyChar => exact h.leaf h.anyChar src pos
  | map p f =>
      refine h.bind (ih p .map src pos) fun t => ?_
      rcases t with ⟨_ | ⟨index, value⟩, l⟩
      · exact h.pure _
      · exact h.bind (h.perform (f value)) fun _ => h.pure _
  | chain p next =>
      refine h.bind (ih p .chain src pos) fun t => ?_
      rcases t with ⟨_ | ⟨index, value⟩, l⟩
      · exact h.pure _
      · exact h.bind (ih _ (.chainNext value) src index) fun _ => h.pure _
  | desc p label =>
      refine h.bind (ih p .desc src pos) fun t => ?_
      split <;> exact h.pure _
  | repeated p least extra => exact h.repeated (ih p .repeated src) rounds least extra pos
  | seq ps =>
      rw [Parser.evalLedger, Parser.evalLedgerAll_eq_map]
      exact h.seqFrom (List.forall_mem_map.mpr fun p hp => ih p (.seq hp)) [] [] src pos
  | alt p ps =>
      rw [Parser.evalLedger, Parser.evalLedgerAll_eq_map]
      refine h.altFrom (List.forall_mem_cons.mpr ⟨ih p .altFirst, ?_⟩) [] src pos
      exact List.forall_mem_map.mpr fun q hq => ih q (.altOther hq)
  | lookahead p => exact h.bind (ih p .lookahead src pos) fun _ => h.pure _
  | notFollowedBy p label =>
      refine h.bind (ih p .notFollowedBy src pos) fun t => ?_
      split <;> exact h.pure _
  | lazy id => exact hl id src pos
  | custom act => exact ih _ (.custom src pos) src pos
  | inspect p next =>
      exact h.bind (ih p .inspect src pos) fun t => ih _ (.inspectNext t.reply) src pos
  | raise fault => exact h.stop (.fault fault)
  | note n p => exact h.bind (h.note n) fun _ => ih p .note src pos

/-- **A closed class holds all runs.** -/
theorem runLedger (p : Parser) (limits : Limits) (src : Text) (pos : Nat) :
    P (p.runLedger limits src pos) := by
  have hlazy (depth id : Nat) (src : Text) (pos : Nat) :
      P (runLazyLedger limits.rounds depth id src pos) := by
    induction depth generalizing id src pos with
    | zero => exact h.stop .exhausted
    | succ depth ih => exact h.bind (h.force id) fun p => h.evalLedger ih p src pos
  exact h.evalLedger (hlazy limits.depth) p src pos

end Run.Closed

/-! ### Stores that differ in their journals -/

namespace Store

/-- Two stores differ in their journals at most. -/
structure SameButNotes (s t : Store) : Prop where
  /-- The lazy parsers are the same. -/
  slots : s.slots = t.slots
  /-- The named operands are the same. -/
  scope : s.scope = t.scope
  /-- The log is the same. -/
  log : s.log = t.log

variable {s t u : Store}

theorem SameButNotes.refl (s : Store) : s.SameButNotes s := ⟨rfl, rfl, rfl⟩

theorem SameButNotes.symm (h : s.SameButNotes t) : t.SameButNotes s :=
  ⟨h.slots.symm, h.scope.symm, h.log.symm⟩

theorem SameButNotes.trans (h : s.SameButNotes t) (h' : t.SameButNotes u) : s.SameButNotes u :=
  ⟨h.slots.trans h'.slots, h.scope.trans h'.scope, h.log.trans h'.log⟩

/-- The coupling of stores that differ in their journals at most. -/
def butNotes : Coupling where
  related := SameButNotes
  excused _ := False
  noted := fun _ h => ⟨h.slots, h.scope, h.log⟩
  reported := fun _ _ h => ⟨h.slots, h.scope, congrArg (Array.push · _) h.log⟩

/-- Attempts at resolving do not look at the journal. -/
theorem butNotes_forces : butNotes.Forces := by
  rintro id ⟨slots, scope, journal, log⟩ ⟨_, _, journal', _⟩ ⟨rfl, rfl, rfl⟩
  let s : Store := ⟨slots, scope, journal, log⟩
  let t : Store := ⟨slots, scope, journal', log⟩
  change butNotes.Ends Eq ((force id).exec s) ((force id).exec t)
  cases hs : slots[id]? with
  | none =>
      rw [exec_force_of_unknown (s := s) hs, exec_force_of_unknown (s := t) hs]
      exact .stopped ⟨rfl, rfl, rfl⟩
  | some slot =>
      cases hn : slot.resolved with
      | some p =>
          rw [exec_force_of_resolved (s := s) hs hn, exec_force_of_resolved (s := t) hs hn]
          exact .returned rfl ⟨rfl, rfl, rfl⟩
      | none =>
          have hanswer : s.nextAnswer id slot = t.nextAnswer id slot := rfl
          rw [exec_force_of_unresolved (s := s) hs hn,
            exec_force_of_unresolved (s := t) hs hn, hanswer]
          cases (t.nextAnswer id slot).outcome with
          | error fault => exact .stopped ⟨rfl, rfl, rfl⟩
          | ok r => exact .returned rfl ⟨rfl, rfl, rfl⟩

/-- The journal has no say in what a run comes to. -/
theorem SameButNotes.exec_runLedger (h : s.SameButNotes t) (p : Parser) (limits : Limits)
    (src : Text) (pos : Nat) :
    (p.runLedger limits src pos).outcome s = (p.runLedger limits src pos).outcome t
      ∧ ((p.runLedger limits src pos).after s).SameButNotes
          ((p.runLedger limits src pos).after t) := by
  have hclosed : Run.Closed fun m => butNotes.Rel Eq m m :=
    { pure := fun _ => .pure rfl
      stop := .stop
      bind := fun hm hf => .bind hm fun a _ hab => hab ▸ hf a
      perform := .perform
      force := butNotes_forces }
  have hends := hclosed.runLedger p limits src pos h
  simp only [Run.outcome, Run.after]
  generalize (p.runLedger limits src pos).exec s = x at hends
  generalize (p.runLedger limits src pos).exec t = y at hends
  cases hends with
  | returned hab hr => exact ⟨congrArg Except.ok hab, hr⟩
  | stopped hr => exact ⟨rfl, hr⟩
  | excused he => exact he.elim

/-! ### What is resolved -/

/-- The parser that a lazy parser is resolved to. -/
def resolved? (s : Store) (id : Nat) : Option Parser := s.slots[id]?.bind Slot.resolved

/-- What is resolved in a store is resolved to the same in another one. -/
def ResolvedIn (s t : Store) : Prop :=
  ∀ id p, s.resolved? id = some p → t.resolved? id = some p

theorem ResolvedIn.trans (h : s.ResolvedIn t) (h' : t.ResolvedIn u) : s.ResolvedIn u :=
  fun id p hp => h' id p (h id p hp)

theorem ResolvedIn.of_same (h : s.ResolvedIn t) (h' : t.SameButNotes u) : s.ResolvedIn u := by
  intro id p hp
  rw [resolved?, ← h'.slots]
  exact h id p hp

/-- What is resolved stays resolved. -/
theorem Later.resolvedIn (h : s.Later t) : s.ResolvedIn t := by
  intro id p hp
  obtain ⟨slot, hslot, hresolved⟩ := Option.bind_eq_some_iff.mp hp
  rw [resolved?, h.slots_of_resolved hslot hresolved]
  exact hresolved

/-- Resolving a lazy parser that is resolved changes nothing. -/
theorem exec_force_of_resolved? {id : Nat} {p : Parser} (h : s.resolved? id = some p) :
    (force id).exec s = (.ok p, s) := by
  obtain ⟨slot, hslot, hresolved⟩ := Option.bind_eq_some_iff.mp h
  exact exec_force_of_resolved hslot hresolved

/-- An attempt at resolving that returns a parser has resolved to it. -/
theorem resolved?_of_exec_force {id : Nat} {p : Parser} (h : (force id).exec s = (.ok p, t)) :
    t.resolved? id = some p := by
  have hf := forcing s id
  rw [h] at hf
  cases hf with
  | known hslot hp => rw [resolved?, hslot, Option.bind_some, hp]
  | built hslot _ _ _ => rw [resolved?, slots_completed hslot, Option.bind_some]

end Store

/-! ### Computations that come to the same again -/

/-- A computation that has returned returns the same in all stores in which what is resolved
behind it is resolved to the same, and there it changes nothing but the journal. -/
def Run.Repeats {α : Type} (m : Run α) : Prop :=
  ∀ ⦃s t : Store⦄ ⦃a : α⦄, m.exec s = (.ok a, t) → s.ResolvedIn t
    ∧ ∀ u, t.ResolvedIn u → ∃ u', m.exec u = (.ok a, u') ∧ u.SameButNotes u'

namespace Run.Repeats

variable {α β : Type}

theorem bind {m : Run α} {f : α → Run β} (hm : m.Repeats) (hf : ∀ a, (f a).Repeats) :
    (m >>= f).Repeats := by
  intro s t b h
  rcases hexec : m.exec s with ⟨e | a, r⟩
  · rw [exec_bind_of_error hexec] at h
    cases h
  · rw [exec_bind_of_ok hexec] at h
    obtain ⟨hsr, hagain⟩ := hm hexec
    obtain ⟨hrt, hagain'⟩ := hf a h
    refine ⟨hsr.trans hrt, fun u hu => ?_⟩
    obtain ⟨v, hv, huv⟩ := hagain u (hrt.trans hu)
    obtain ⟨w, hw, hvw⟩ := hagain' v (hu.of_same huv)
    exact ⟨w, by rw [exec_bind_of_ok hv, hw], huv.trans hvw⟩

theorem perform (e : Effect α) : (Run.perform e).Repeats := by
  intro s t a h
  rw [exec_perform] at h
  obtain ⟨notes, outcome⟩ := e
  cases outcome with
  | error fault => cases h
  | ok b =>
      cases h
      refine ⟨fun _ _ hp => hp, fun u _ => ⟨u.noted notes, ?_, ⟨rfl, rfl, rfl⟩⟩⟩
      rw [exec_perform]
      rfl

theorem force (id : Nat) : (Store.force id).Repeats := by
  intro s t p h
  have hlater : s.Later t := by
    have hforced := (Store.Later.start : s.Later s).forced id
    rwa [after, h] at hforced
  refine ⟨hlater.resolvedIn, fun u hu => ⟨u, ?_, .refl u⟩⟩
  exact Store.exec_force_of_resolved? (hu id p (Store.resolved?_of_exec_force h))

/-- The class of these computations is closed. -/
theorem closed : Run.Closed fun m => m.Repeats where
  pure _ _ _ _ := by
    rintro ⟨⟩
    exact ⟨fun _ _ hp => hp, fun u _ => ⟨u, rfl, .refl u⟩⟩
  stop _ _ _ _ := nofun
  bind := bind
  perform := perform
  force := force

end Run.Repeats

namespace Parser

variable {p : Parser} {limits : Limits} {src : Text} {pos : Nat} {s t u : Store} {r : Attempt}

/-- What is resolved stays resolved in a run that returns. -/
theorem resolvedIn_of_exec (h : (p.runLedger limits src pos).exec s = (.ok r, t)) :
    s.ResolvedIn t := (Run.Repeats.closed.runLedger p limits src pos h).1

/-- **A run that has returned comes to the same again**, at any time later, and changes
nothing but the journal. -/
theorem exec_runLedger_again (h : (p.runLedger limits src pos).exec s = (.ok r, t))
    (hu : t.ResolvedIn u) :
    ∃ u', (p.runLedger limits src pos).exec u = (.ok r, u') ∧ u.SameButNotes u' :=
  (Run.Repeats.closed.runLedger p limits src pos h).2 u hu

end Parser

end Furthest
