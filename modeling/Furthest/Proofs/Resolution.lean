import Furthest.Proofs.Congruence

/-!
# The Life of a Lazy Parser

A lazy parser starts out unresolved and becomes resolved once at most. This module follows
one of them through every history of a store: the stores that are `Store.Later` than a given
one are those that runs and parses of any parsers lead to, those in the middle of a run
included, as between two of them there are only notes, entries about failed parses, and
attempts to resolve some lazy parser.

Whether an attempt succeeds is up to the builder. A call of it has one of four answers, and
`Answer.outcome` says what the attempt makes of each: three are faults, and after these the
lazy parser is as unresolved as before, with one more call counted and nothing in the log.

## Main results

* `Store.exec_force_of_unresolved`, `Store.exec_force_of_resolved`: an attempt at resolving.
* `Store.Later.run`, `Store.Later.parse`: runs and parses lead to later stores.
* `Store.Later.account`: the number of calls in every history.
* `Store.lazy_resolves_once`: **a lazy parser is resolved once at most**, all or nothing.
-/

namespace Furthest

/-! ### Answers of builders -/

/-- What a call of a builder comes to, for the lazy parser that it is called for. -/
inductive Answer where
  /-- It raises a fault. -/
  | raises (fault : Fault)
  /-- It returns something that is no parser. -/
  | notParser (o : Operand)
  /-- It returns the lazy parser itself. -/
  | itself
  /-- It returns another parser, and has made further lazy parsers. -/
  | parser (p : Parser) (made : List Builder)

/-- The answer to a call for the lazy parser with number `id`. -/
def Builder.answer (b : Builder) (id attempt : Nat) (scope : Scope) (next : Nat) : Answer :=
  match b.call attempt scope next with
  | .error fault => .raises fault
  | .ok (.parser p, made) => if Store.isLazy id p then .itself else .parser p made
  | .ok (o, _) => .notParser o

/-- What an answer makes of an attempt at resolving: the fault that is raised, or the parser
that is resolved to. -/
def Answer.outcome : Answer → Except Fault (Parser × List Builder)
  | raises fault => .error fault
  | notParser o => .error o.notParser
  | itself => .error .lazyIsItself
  | parser p made => .ok (p, made)

/-- Only another parser is an answer that can be resolved to. -/
theorem Answer.eq_parser_of_outcome {a : Answer} {p : Parser} {made : List Builder}
    (h : a.outcome = .ok (p, made)) : a = .parser p made := by
  cases a with
  | parser p made =>
      obtain ⟨rfl, rfl⟩ := Prod.mk.inj (Except.ok.inj h)
      rfl
  | _ => cases h

namespace Store

variable {g s t : Store} {id j : Nat} {slot : Slot}

/-! ### Attempts at resolving -/

/-- The answer to the next call of a lazy parser's builder. -/
def nextAnswer (s : Store) (id : Nat) (slot : Slot) : Answer :=
  slot.builder.answer id (slot.calls + 1) s.scope s.slots.size

/-- There is no lazy parser with this number. -/
theorem exec_force_of_unknown (h : s.slots[id]? = none) :
    (force id).exec s = (.error (.fault .unknownLazy), s) := by
  have hf := forcing s id
  generalize (force id).exec s = r at hf ⊢
  cases hf with
  | unknown => rfl
  | known hs | raised hs | refused hs | built hs =>
      rw [h] at hs
      cases hs

/-- A lazy parser that is resolved stays as it is. -/
theorem exec_force_of_resolved {p : Parser} (h : s.slots[id]? = some slot)
    (hp : slot.resolved = some p) : (force id).exec s = (.ok p, s) := by
  have hf := forcing s id
  generalize (force id).exec s = r at hf ⊢
  cases hf with
  | unknown hs => rw [h] at hs; cases hs
  | known hs hq =>
      obtain rfl := Option.some.inj (h.symm.trans hs)
      rw [hp] at hq
      rw [Option.some.inj hq]
  | raised hs hn | refused hs hn | built hs hn =>
      obtain rfl := Option.some.inj (h.symm.trans hs)
      rw [hp] at hn
      cases hn

/-- **An attempt at resolving** counts a call. It is completed if the answer is another
parser, and raises a fault otherwise. -/
theorem exec_force_of_unresolved (h : s.slots[id]? = some slot) (hn : slot.resolved = none) :
    (force id).exec s = match (s.nextAnswer id slot).outcome with
      | .error fault => (.error (.fault fault), s.called id slot.builder.name)
      | .ok (p, made) =>
        (.ok p, (s.called id slot.builder.name).completed id slot.builder.name p made) := by
  have hf := forcing s id
  generalize (force id).exec s = r at hf ⊢
  cases hf with
  | unknown hs => rw [h] at hs; cases hs
  | known hs hp =>
      obtain rfl := Option.some.inj (h.symm.trans hs)
      rw [hn] at hp
      cases hp
  | raised hs _ hc =>
      obtain rfl := Option.some.inj (h.symm.trans hs)
      simp only [nextAnswer, Builder.answer, hc, Answer.outcome]
  | @refused _ o made fault hs _ hc hr =>
      obtain rfl := Option.some.inj (h.symm.trans hs)
      cases o with
      | parser p =>
          simp only [resolution] at hr
          split at hr
          · next hi =>
            obtain rfl := Except.error.inj hr
            simp only [nextAnswer, Builder.answer, hc, hi, if_true, Answer.outcome]
          · cases hr
      | _ =>
          obtain rfl := Except.error.inj hr
          simp only [nextAnswer, Builder.answer, hc, Answer.outcome]
  | built hs _ hc hr =>
      obtain rfl := Option.some.inj (h.symm.trans hs)
      obtain rfl := eq_parser_of_resolution hr
      simp only [resolution] at hr
      split at hr
      · cases hr
      · next hi =>
        simp only [nextAnswer, Builder.answer, hc, hi, Bool.false_eq_true, if_false,
          Answer.outcome]

/-- After a call that has been counted. -/
theorem slots_called (h : s.slots[id]? = some slot) (name : Text) :
    (s.called id name).slots[id]? = some { slot with calls := slot.calls + 1 } := by
  rw [called_slots, Array.getElem?_modify, if_pos rfl, h]
  rfl

/-- After an attempt that has been completed. -/
theorem slots_completed (h : s.slots[id]? = some slot) (name : Text) (p : Parser)
    (made : List Builder) :
    ((s.called id name).completed id name p made).slots[id]?
      = some ⟨slot.builder, slot.calls + 1, some p⟩ := by
  have hlt : id < (s.called id name).slots.size :=
    (Array.getElem?_eq_some_iff.mp (slots_called h name)).1
  rw [completed_slots, Array.getElem?_modify, if_pos rfl, Array.getElem?_append_left hlt,
    slots_called h]
  rfl

/-- An attempt at resolving one lazy parser changes no other. -/
theorem slots_after_force_of_ne (hne : id ≠ j) (h : s.slots[j]? = some slot) :
    ((force id).after s).slots[j]? = some slot := by
  have hcalled (name : Text) : (s.called id name).slots[j]? = some slot := by
    rw [called_slots, Array.getElem?_modify, if_neg hne, h]
  have hf := forcing s id
  simp only [Run.after]
  generalize (force id).exec s = r at hf ⊢
  cases hf with
  | unknown | known => exact h
  | raised | refused => exact hcalled _
  | @built slot _ made p =>
      have hlt : j < (s.called id slot.builder.name).slots.size :=
        (Array.getElem?_eq_some_iff.mp (hcalled _)).1
      rw [completed_slots, Array.getElem?_modify, if_neg hne, Array.getElem?_append_left hlt]
      exact hcalled _

/-! ### Histories -/

/-- The stores that a store can become. Between two of them there are notes, entries about
failed parses, and attempts at resolving a lazy parser. -/
inductive Later (g : Store) : Store → Prop
  | start : Later g g
  | noted {s : Store} (h : Later g s) (notes : List Note) : Later g (s.noted notes)
  | reported {s : Store} (h : Later g s) (offset : Int) (expected : List Value) :
      Later g (s.reported offset expected)
  | forced {s : Store} (h : Later g s) (id : Nat) : Later g ((force id).after s)

/-- What comes later than a later store. -/
theorem Later.trans {t : Store} (h : g.Later s) (h' : s.Later t) : g.Later t := by
  induction h' with
  | start => exact h
  | noted _ notes ih => exact ih.noted notes
  | reported _ offset expected ih => exact ih.reported offset expected
  | forced _ id ih => exact ih.forced id

/-- The coupling of a store with itself, as long as it is later than a given one. -/
def laterThan (g : Store) : Coupling :=
  .same (Later g) (fun _ notes h => h.noted notes) fun _ offset expected h =>
    h.reported offset expected

/-- Attempts at resolving lead to later stores. -/
theorem laterThan_forces (g : Store) : (laterThan g).Forces := by
  rintro id s _ ⟨rfl, h⟩
  exact .of_outcome_eq rfl ⟨rfl, h.forced id⟩

/-- **A run leads to a later store**, however it ends. -/
theorem Later.run (h : g.Later s) (p : Parser) (limits : Limits) (src : Text) (pos : Int) :
    g.Later ((p.run limits src pos).after s) :=
  (Coupling.run_alike (laterThan_forces g) p (.inl rfl) (.inl rfl) src pos).inv_of_same h

theorem later_of_exec_run {p : Parser} {limits : Limits} {src : Text} {pos : Int} {t : Store}
    {r : Except Stop Reply} (h : (p.run limits src pos).exec s = (r, t)) : s.Later t := by
  have hlater := (Later.start : s.Later s).run p limits src pos
  rwa [Run.after, h] at hlater

/-- **A parse leads to a later store**, however it ends. -/
theorem Later.parse (h : g.Later s) (p : Parser) (limits : Limits) (src : Text) :
    g.Later ((p.parse limits src).after s) :=
  (Coupling.Rel.parse (laterThan_forces g) p (.inl rfl) (.inl rfl) src).inv_of_same h

/-- A condition on everything that a store leads to holds of later stores. -/
theorem Later.admits {φ : Parser → Prop} (h : g.Later s) (hg : g.Admits φ) : s.Admits φ := by
  induction h with
  | start => exact hg
  | noted _ notes ih => exact ih.noted _ notes
  | reported _ offset expected ih => exact ih.reported _ offset expected
  | forced _ id ih => exact (force_admits φ id).inv_of_same ih

/-- The scope stays the same. -/
theorem Later.scope_eq (h : g.Later s) : s.scope = g.scope := by
  induction h with
  | start => rfl
  | noted _ _ ih | reported _ _ _ ih => exact ih
  | @forced s _ id ih =>
      have hf := forcing s id
      simp only [Run.after]
      generalize (force id).exec s = r at hf ⊢
      cases hf with
      | unknown | known | raised | refused | built => exact ih

/-- A lazy parser that is resolved stays as it is in all later stores. -/
theorem Later.slots_of_resolved (h : s.Later t) {p : Parser} (hs : s.slots[id]? = some slot)
    (hp : slot.resolved = some p) : t.slots[id]? = some slot := by
  induction h with
  | start => exact hs
  | noted _ _ ih | reported _ _ _ ih => exact ih
  | forced _ j ih =>
      by_cases hj : j = id
      · subst hj
        rw [Run.after, exec_force_of_resolved ih hp]
        exact ih
      · exact slots_after_force_of_ne hj ih

/-! ### The account of calls -/

/-- The account of the calls of a lazy parser's builder: `failed` calls have failed, and one
more call was made if and only if the lazy parser is resolved, which is to the parser that
this call returned. The number of lazy parsers there were at a call is that call's own. -/
structure Account (b : Builder) (id : Nat) (scope : Scope) (slot : Slot) (failed : Nat) :
    Prop where
  /-- The builder is still the same. -/
  builder : slot.builder = b
  /-- The number of calls. -/
  calls : slot.calls = failed + if slot.resolved.isSome then 1 else 0
  /-- The calls that have failed. -/
  failures : ∀ k < failed, ∃ next fault,
  (b.answer id (k + 1) scope next).outcome = .error fault
  /-- The call that has not. -/
  success : ∀ p, slot.resolved = some p →
    ∃ next made, b.answer id (failed + 1) scope next = .parser p made

/-- One more call has failed. -/
theorem Account.fail {b : Builder} {scope : Scope} {failed next : Nat} {fault : Fault}
    (h : Account b id scope slot failed) (hn : slot.resolved = none)
    (ha : (b.answer id (slot.calls + 1) scope next).outcome = .error fault) :
    Account b id scope { slot with calls := slot.calls + 1 } (failed + 1) := by
  have hcalls : slot.calls = failed := by simpa [hn] using h.calls
  refine ⟨h.builder, by simp [hn, hcalls], fun k hk => ?_, fun p hp => ?_⟩
  · rcases Nat.lt_succ_iff_lt_or_eq.mp hk with hk | rfl
    · exact h.failures k hk
    · exact ⟨next, fault, hcalls ▸ ha⟩
  · rw [hn] at hp
    cases hp

/-- A call has not failed. -/
theorem Account.succeed {b : Builder} {scope : Scope} {failed next : Nat} {p : Parser}
    {made : List Builder} (h : Account b id scope slot failed) (hn : slot.resolved = none)
    (ha : b.answer id (slot.calls + 1) scope next = .parser p made) :
    Account b id scope ⟨slot.builder, slot.calls + 1, some p⟩ failed := by
  have hcalls : slot.calls = failed := by simpa [hn] using h.calls
  refine ⟨h.builder, by simp [hcalls], h.failures, ?_⟩
  rintro _ ⟨⟩
  exact ⟨next, made, hcalls ▸ ha⟩

/-- **The number of calls in every history.** -/
theorem Later.account (h : g.Later s) {b : Builder} (hg : g.slots[id]? = some ⟨b, 0, none⟩) :
    ∃ slot failed, s.slots[id]? = some slot ∧ Account b id g.scope slot failed := by
  induction h with
  | start =>
      refine ⟨_, 0, hg, rfl, rfl, fun k hk => absurd hk (Nat.not_lt_zero k), ?_⟩
      rintro _ ⟨⟩
  | noted _ _ ih | reported _ _ _ ih => exact ih
  | @forced s h j ih =>
      obtain ⟨slot, failed, hs, hacc⟩ := ih
      by_cases hj : j = id
      · subst hj
        cases hn : slot.resolved with
        | some p =>
            rw [Run.after, exec_force_of_resolved hs hn]
            exact ⟨slot, failed, hs, hacc⟩
        | none =>
            have hanswer : s.nextAnswer j slot
                = b.answer j (slot.calls + 1) g.scope s.slots.size := by
              rw [nextAnswer, hacc.builder, h.scope_eq]
            rw [Run.after, exec_force_of_unresolved hs hn]
            cases ho : (s.nextAnswer j slot).outcome with
            | error fault =>
                exact ⟨_, failed + 1, slots_called hs _, hacc.fail hn (hanswer ▸ ho)⟩
            | ok r =>
                have ha := Answer.eq_parser_of_outcome ho
                exact ⟨_, failed, slots_completed hs _ _ _, hacc.succeed hn (hanswer ▸ ha)⟩
      · exact ⟨slot, failed, slots_after_force_of_ne hj hs, hacc⟩

/-! ### The log -/

end Store

/-- Whether an entry of the log says that a lazy parser was resolved by a builder of this
name. -/
def LogRecord.isResolved (name : Text) : LogRecord → Bool
  | resolved n => n == name
  | parseFailed .. => false

/-- Whether a lazy parser is resolved and has a builder of this name. -/
def Slot.isSettled (name : Text) (slot : Slot) : Bool :=
  slot.builder.name == name && slot.resolved.isSome

namespace Store

variable {g s : Store} {id : Nat} {slot : Slot}

/-- The number of entries of the log about builders of a name. -/
def records (s : Store) (name : Text) : Nat := s.log.countP (LogRecord.isResolved name)

/-- The number of resolved lazy parsers with builders of a name. -/
def settled (s : Store) (name : Text) : Nat := s.slots.countP (Slot.isSettled name)

/-- What changing one element of an array does to a number of elements. -/
theorem countP_modify {α : Type} {xs : Array α} {i : Nat} {a : α} (h : xs[i]? = some a)
    (f : α → α) (p : α → Bool) :
    (xs.modify i f).countP p + (if p a then 1 else 0)
      = xs.countP p + if p (f a) then 1 else 0 := by
  have hlist : xs.toList[i]? = some a := by rw [Array.getElem?_toList, h]
  obtain ⟨l₁, a', l₂, hl, hi, hm⟩ :=
    List.exists_of_modify f (List.getElem?_eq_some_iff.mp hlist).1
  have ha : a' = a := by
    rw [hl, ← hi, List.getElem?_append_right (Nat.le_refl _), Nat.sub_self] at hlist
    exact Option.some.inj hlist
  subst ha
  rw [← Array.countP_toList, ← Array.countP_toList, Array.toList_modify, hm, hl]
  simp only [List.countP_append, List.countP_cons]
  omega

/-- A call that has been counted settles nothing. -/
theorem settled_called (h : s.slots[id]? = some slot) (name name' : Text) :
    (s.called id name).settled name' = s.settled name' := by
  have hcount := countP_modify h (fun slot => { slot with calls := slot.calls + 1 })
    (Slot.isSettled name')
  have hsame : Slot.isSettled name' { slot with calls := slot.calls + 1 }
      = Slot.isSettled name' slot := rfl
  rw [hsame] at hcount
  exact Nat.add_right_cancel hcount

/-- An attempt that has been completed settles one lazy parser more. -/
theorem settled_completed (h : s.slots[id]? = some slot)
    (hn : slot.resolved = none) (p : Parser) (made : List Builder) (name : Text) :
    (s.completed id slot.builder.name p made).settled name
      = s.settled name + if slot.builder.name == name then 1 else 0 := by
  have hlt : id < s.slots.size := (Array.getElem?_eq_some_iff.mp h).1
  have happend : (s.slots ++ (made.map fun b => (⟨b, 0, none⟩ : Slot)).toArray)[id]?
    = some slot := by
    rw [Array.getElem?_append_left hlt, h]
  have hcount := countP_modify happend (fun slot => { slot with resolved := some p })
    (Slot.isSettled name)
  have hnew : (made.map fun b => (⟨b, 0, none⟩ : Slot)).toArray.countP
    (Slot.isSettled name) = 0 := by
    simp [Slot.isSettled]
  rw [Array.countP_append, hnew] at hcount
  simpa [settled, Slot.isSettled, hn] using hcount

/-- **One entry of the log for every lazy parser that is resolved**, and none for any other
attempt. -/
theorem Later.records_add_settled (h : g.Later s) (name : Text) :
    s.records name + g.settled name = g.records name + s.settled name := by
  induction h with
  | start => rfl
  | noted _ _ ih => exact ih
  | @reported s _ offset expected ih =>
      have hrecords : (s.reported offset expected).records name = s.records name := by
        rw [records, Store.reported, Array.countP_push]
        rfl
      rw [hrecords]
      exact ih
  | @forced s h id ih =>
      have hf := forcing s id
      simp only [Run.after]
      generalize (force id).exec s = r at hf ⊢
      cases hf with
      | unknown | known => exact ih
      | raised hs | refused hs =>
          rw [settled_called hs]
          exact ih
      | @built slot _ made p hs hn =>
          have hcalled := slots_called hs slot.builder.name
          have hrecords : ((s.called id slot.builder.name).completed id slot.builder.name p
              made).records name
              = s.records name + if slot.builder.name == name then 1 else 0 := by
            rw [records, completed_log, Array.countP_push]
            rfl
          have hsettled : ((s.called id slot.builder.name).completed id slot.builder.name p
              made).settled name
              = s.settled name + if slot.builder.name == name then 1 else 0 := by
            rw [← settled_called hs slot.builder.name]
            exact settled_completed hcalled hn p made name
          rw [hrecords, hsettled]
          omega

end Store

/-! ### Runs that avoid a lazy parser -/

/-- The action of a lazy parser, where something else is done instead of running the one
with number `id`. -/
def runLazyInstead (id : Nat) (instead : Action) (rounds : Nat) :
    (depth : Nat) → (j : Nat) → Action
  | 0, j => if j = id then instead else fun _ _ => throw .exhausted
  | depth + 1, j =>
    if j = id then instead
    else fun src pos => do
      let p ← Store.force j
      p.eval rounds (runLazyInstead id instead rounds depth) src pos

namespace Parser

/-- A run in which something else is done instead of running the lazy parser with number
`id`. -/
def runInstead (p : Parser) (id : Nat) (instead : Action) (limits : Limits) : Action :=
  p.eval limits.rounds (runLazyInstead id instead limits.rounds limits.depth)

/-- A run never runs a lazy parser: it does not matter what would be done instead. -/
def Avoids (p : Parser) (id : Nat) (limits : Limits) (src : Text) (pos : Int) (s : Store) :
    Prop :=
  ∀ instead, (p.runInstead id instead limits src pos).exec s = (p.run limits src pos).exec s

end Parser

namespace Store

variable {g s : Store} {id : Nat} {slot : Slot}

/-- The coupling of a store with itself, as long as one of its lazy parsers stays as it
is. -/
def keeping (id : Nat) (slot : Slot) : Coupling :=
  .same (fun s => s.slots[id]? = some slot) (fun _ _ h => h) fun _ _ _ h => h

/-- Without running a lazy parser all others can be run, and it stays as it is. -/
theorem runLazyInstead_keeping (rounds depth j : Nat) :
    (keeping id slot).Alike (runLazyInstead id (fun _ _ => throw .exhausted) rounds depth j)
      (runLazyInstead id (fun _ _ => throw .exhausted) rounds depth j) := by
  induction depth generalizing j with
  | zero =>
      simp only [runLazyInstead]
      split
      · exact fun _ _ => .stop .exhausted
      · exact fun _ _ => .stop .exhausted
  | succ depth ih =>
      simp only [runLazyInstead]
      split
      · exact fun _ _ => .stop .exhausted
      · next hne =>
        have hforce : (keeping id slot).Rel Eq (force j) (force j) := by
          rintro s _ ⟨rfl, h⟩
          exact .of_outcome_eq rfl ⟨rfl, slots_after_force_of_ne hne h⟩
        intro src pos
        refine Coupling.Rel.bind hforce ?_
        rintro p _ rfl
        exact Coupling.eval_alike (.inl rfl) ih p src pos

/-- **A lazy parser that is never run stays as it is**: its builder is not called. -/
theorem slots_after_run_of_avoids (h : s.slots[id]? = some slot) {p : Parser} {limits : Limits}
    {src : Text} {pos : Int} (ha : p.Avoids id limits src pos s) :
    ((p.run limits src pos).after s).slots[id]? = some slot := by
  let instead : Action := fun _ _ => throw .exhausted
  have halike : (keeping id slot).Alike (p.runInstead id instead limits)
      (p.runInstead id instead limits) :=
    Coupling.eval_alike (.inl rfl) (runLazyInstead_keeping limits.rounds limits.depth) p
  have hafter := (halike src pos).inv_of_same h
  rw [Run.after, ha instead] at hafter
  exact hafter

/-! ### The state machine -/

/-- A run of a lazy parser is broken off by a fault. It has counted a call of the builder,
and left the lazy parser unresolved and the log as it was. -/
def FailsWith (s : Store) (id : Nat) (slot : Slot) (r : Except Stop Reply × Store)
    (fault : Fault) : Prop :=
  ∃ t, r = (.error (.fault fault), t)
    ∧ t.slots[id]? = some ⟨slot.builder, slot.calls + 1, none⟩ ∧ t.log = s.log

/-- What the next run of a lazy parser does. If it is resolved, the parser it is resolved to
is run, and there is no call. Otherwise the answer to a call of the builder decides: another
parser is what the lazy parser is resolved to, with one entry of the log, before it is run;
every other answer is a fault. -/
def NextRun (s : Store) (id : Nat) (slot : Slot) : Prop :=
  ∀ (limits : Limits) (src : Text) (pos : Int),
    let r := ((Parser.lazy id).run ⟨limits.depth + 1, limits.rounds⟩ src pos).exec s
    match slot.resolved, s.nextAnswer id slot with
    | some p, _ => r = (p.run limits src pos).exec s
    | none, .parser p _ =>
      ∃ t, r = (p.run limits src pos).exec t
        ∧ t.slots[id]? = some ⟨slot.builder, slot.calls + 1, some p⟩
        ∧ t.log = s.log.push (.resolved slot.builder.name)
    | none, .raises fault => s.FailsWith id slot r fault
    | none, .notParser o => o.notParser.kind = .type ∧ s.FailsWith id slot r o.notParser
    | none, .itself =>
      Fault.lazyIsItself.kind = .value ∧ s.FailsWith id slot r .lazyIsItself

/-- The next run of a lazy parser. -/
theorem nextRun (h : s.slots[id]? = some slot) : s.NextRun id slot := by
  intro limits src pos
  have hcalled := slots_called h slot.builder.name
  cases hn : slot.resolved with
  | some p => exact Run.exec_bind_of_ok (exec_force_of_resolved h hn)
  | none =>
      have hforce := exec_force_of_unresolved h hn
      rw [hn] at hcalled
      have hfails {fault : Fault} (ho : (s.nextAnswer id slot).outcome = .error fault) :
          s.FailsWith id slot (((Parser.lazy id).run ⟨limits.depth + 1, limits.rounds⟩ src
            pos).exec s) fault := by
        rw [ho] at hforce
        exact ⟨_, Run.exec_bind_of_error hforce, hcalled, rfl⟩
      cases ha : s.nextAnswer id slot with
      | parser p made =>
          rw [ha] at hforce
          exact ⟨_, Run.exec_bind_of_ok hforce, slots_completed h _ _ _, rfl⟩
      | raises fault => exact hfails (ha ▸ rfl)
      | notParser o => exact ⟨rfl, hfails (ha ▸ rfl)⟩
      | itself => exact ⟨rfl, hfails (ha ▸ rfl)⟩

/-- Where the life of a lazy parser, which began unresolved in the store `g`, has come to in
a later store `s`, and how it goes on from there. -/
structure Life (g s : Store) (id : Nat) (b : Builder) (slot : Slot) (failed : Nat) : Prop where
  /-- How it is now. -/
  now : s.slots[id]? = some slot
  /-- The number of calls of its builder is that of the calls that have failed, and one more
  if it is resolved. -/
  account : Account b id g.scope slot failed
  /-- What its next run does. -/
  next : s.NextRun id slot
  /-- Once it is resolved it stays as it is: the builder is not called again. -/
  forever : slot.resolved.isSome → ∀ t, s.Later t → t.slots[id]? = some slot
  /-- A run that never runs it does not call its builder either. -/
  avoided : ∀ (p : Parser) (limits : Limits) (src : Text) (pos : Int),
    p.Avoids id limits src pos s →
    ((p.run limits src pos).after s).slots[id]? = some slot
  /-- There is one entry of the log for every lazy parser that has been resolved. -/
  recorded : ∀ name, s.records name + g.settled name = g.records name + s.settled name
  /-- Every run leads on, whatever is run and however it ends. -/
  run : ∀ (p : Parser) (limits : Limits) (src : Text) (pos : Int),
    g.Later ((p.run limits src pos).after s)
  /-- Every parse leads on. -/
  parse : ∀ (p : Parser) (limits : Limits) (src : Text), g.Later ((p.parse limits src).after s)

/-- **A lazy parser is resolved all or nothing, and once at most.** This holds of every lazy
parser that is unresolved and has not been called, in all stores that any history of runs
leads to. -/
theorem lazy_resolves_once {b : Builder} (hg : g.slots[id]? = some ⟨b, 0, none⟩)
    (hs : g.Later s) : ∃ slot failed, Life g s id b slot failed := by
  obtain ⟨slot, failed, hslot, hacc⟩ := hs.account hg
  refine ⟨slot, failed, ?_⟩
  exact
    { now := hslot
      account := hacc
      next := nextRun hslot
      forever := by
        intro hsome t ht
        obtain ⟨p, hp⟩ := Option.isSome_iff_exists.mp hsome
        exact ht.slots_of_resolved hslot hp
      avoided := fun _ _ _ _ ha => slots_after_run_of_avoids hslot ha
      recorded := hs.records_add_settled
      run := hs.run
      parse := hs.parse }

/-- A builder whose calls fail in all three ways before they succeed, for the lazy parser
with number zero. -/
def hesitant : Builder := .mk "hesitant" fun attempt _ _ =>
  match attempt with
  | 1 => .error (.raised "not yet")
  | 2 => .ok (.value (.text "x"), [])
  | 3 => .ok (.parser (.lazy 0), [])
  | _ => .ok (.parser (.literal "x"), [])

/-- The store of such a lazy parser after a number of calls. -/
def hesitating (calls : Nat) (resolved : Option Parser) (log : Array LogRecord) : Store :=
  { slots := #[⟨hesitant, calls, resolved⟩], scope := [], log := log
    journal :=
      (List.replicate calls { tag := buildTag, items := [.text "hesitant"] }).toArray }

/-- After five runs there have been four calls, of which three have failed. -/
theorem hesitant_resolves_once :
    let run (s : Store) : Store := ((Parser.lazy 0).run ⟨1, 1⟩ "x" 0).after s
    let g := hesitating 0 none #[]
    let s := run (run (run (run (run g))))
    s.records "hesitant" = 1
      ∧ Life g s 0 hesitant ⟨hesitant, 4, some (.literal "x")⟩ 3 := by
  intro run g s
  have hrun {t : Store} (h : g.Later t) : g.Later (run t) := h.run (.lazy 0) ⟨1, 1⟩ "x" 0
  have hlater : g.Later s := hrun (hrun (hrun (hrun (hrun .start))))
  have hs : s = hesitating 4 (some (.literal "x")) #[.resolved "hesitant"] := by
    have h₁ : run g = hesitating 1 none #[] := rfl
    have h₂ : run (hesitating 1 none #[]) = hesitating 2 none #[] := rfl
    have h₃ : run (hesitating 2 none #[]) = hesitating 3 none #[] := rfl
    have h₄ : run (hesitating 3 none #[])
        = hesitating 4 (some (.literal "x")) #[.resolved "hesitant"] := rfl
    have h₅ : run (hesitating 4 (some (.literal "x")) #[.resolved "hesitant"])
        = hesitating 4 (some (.literal "x")) #[.resolved "hesitant"] := rfl
    change run (run (run (run (run g)))) = _
    rw [h₁, h₂, h₃, h₄, h₅]
  have hg : g.slots[0]? = some ⟨hesitant, 0, none⟩ := rfl
  obtain ⟨slot, failed, hlife⟩ := lazy_resolves_once hg hlater
  have hslot : some slot = some ⟨hesitant, 4, some (.literal "x")⟩ := by
    rw [← hlife.now, hs]
    rfl
  obtain rfl := Option.some.inj hslot
  have hfailed : failed = 3 := (Nat.succ.inj hlife.account.calls).symm
  refine ⟨?_, hfailed ▸ hlife⟩
  rw [hs]
  rfl

end Store

end Furthest
