import Furthest.Proofs.Ledger

/-!
# The Algebra of Runs with a Ledger

Records are merged in a different order by every combinator: a sequence merges forward, from
one part to the next, and nested chains merge backward, from the inside out. Ledgers are put
one behind the other instead, and that is associative, with the empty ledger as its unit. So
runs with a ledger obey the laws of a monad as equations of functions, with
`LedgerAction.chain` for going on and `LedgerAction.succeed` for a value alone, and every
way of sequencing is written with these two.

What holds of ledgers holds of replies: parsers of the library that act alike with a ledger
have runs that come to the same in every respect, the record of failures included.
`Parser.RunsAs` names that relation, and `Parser.RunsAs.of_evalLedger` is how it is proved.

## Main results

* `LedgerAction.chain_assoc`, `LedgerAction.succeed_chain`, `LedgerAction.chain_succeed`:
  the laws of a monad.
* `LedgerAction.map_eq_chain`, `LedgerAction.seqFrom_eq_chainAll`: functions and sequences
  in terms of going on.
* `Parser.RunsAs.of_evalLedger`: **equal ledgers give equal runs.**
-/

namespace Furthest

namespace Attempt

/-- Earlier failures stay in order. -/
@[simp] theorem behind_behind (t : Attempt) (k l : Ledger) :
    (t.behind k).behind l = t.behind (l ++ k) := by
  simp only [behind, List.append_assoc]

@[simp] theorem behind_result (t : Attempt) (l : Ledger) : (t.behind l).result = t.result :=
  rfl

/-- Putting an attempt behind no failures at the end of a computation changes nothing. -/
@[simp] theorem bind_behind_nil (m : Run Attempt) : (m >>= fun t => pure (t.behind [])) = m :=
  bind_pure m

end Attempt

namespace LedgerAction

/-- Matches the empty text, with a value. -/
def succeed (value : Value) : LedgerAction := fun _ pos => return ⟨some (pos, value), []⟩

/-- Matches the empty text, with the value that a callback returns. -/
def perform (e : Effect Value) : LedgerAction := fun _ pos => do
  return ⟨some (pos, ← Run.perform e), []⟩

/-- Goes on with all actions, one after the other, and then with what a function makes of
their values. -/
def chainAll : List LedgerAction → (List Value → LedgerAction) → LedgerAction
  | [], finish => finish []
  | a :: as, finish => chain a fun v => chainAll as fun vs => finish (v :: vs)

variable {a : LedgerAction} {as : List LedgerAction}

/-! ### The laws of a monad -/

/-- A value alone leaves nothing behind but itself. -/
@[simp] theorem succeed_chain (v : Value) (next : Value → LedgerAction) :
    chain (succeed v) next = next v := by
  funext src pos
  simp only [chain, succeed, pure_bind, Attempt.bind_behind_nil]

/-- Going on with the value alone changes nothing. -/
@[simp] theorem chain_succeed : chain a succeed = a := by
  funext src pos
  simp only [chain]
  conv_rhs => rw [← bind_pure (a src pos)]
  refine bind_congr fun t => ?_
  rcases t with ⟨_ | ⟨index, value⟩, l⟩
  · rfl
  · simp only [succeed, pure_bind, Attempt.behind, List.append_nil]

/-- Only the value that an action produces matters for how it goes on. -/
theorem exec_chain_congr {f g : Value → LedgerAction} {src : Text} {pos : Nat} {s : Store}
    (h : ∀ t i v, (a src pos).outcome s = .ok t → t.result = some (i, v) → f v = g v) :
    (chain a f src pos).exec s = (chain a g src pos).exec s := by
  rw [chain, chain]
  simp only [Run.outcome] at h
  rcases hm : (a src pos).exec s with ⟨e | t, s'⟩
  · rw [Run.exec_bind_of_error hm, Run.exec_bind_of_error hm]
  · rw [Run.exec_bind_of_ok hm, Run.exec_bind_of_ok hm]
    cases hr : t.result with
    | none => rfl
    | some r => simp only [h t r.1 r.2 (by rw [hm]) hr]

/-- **Going on is associative**, as it puts the failures of three actions in one order. -/
theorem chain_assoc (f g : Value → LedgerAction) :
    chain (chain a f) g = chain a fun v => chain (f v) g := by
  funext src pos
  simp only [chain, bind_assoc]
  refine bind_congr fun t => ?_
  rcases t with ⟨_ | ⟨index, value⟩, l⟩
  · simp only [pure_bind]
  · simp only [bind_assoc, pure_bind, Attempt.behind_result]
    refine bind_congr fun u => ?_
    rcases u with ⟨_ | ⟨index, value⟩, k⟩
    · simp only [pure_bind]
    · simp only [bind_assoc, pure_bind, Attempt.behind, List.append_assoc]

/-! ### Callbacks -/

@[simp] theorem perform_pure (v : Value) : perform (pure v) = succeed v := by
  funext src pos
  simp only [perform, succeed, Run.perform_pure, pure_bind]

/-- One callback and then another, which is given its value. -/
@[simp] theorem perform_chain (e : Effect Value) (f : Value → Effect Value) :
    chain (perform e) (fun v => perform (f v)) = perform (e >>= f) := by
  funext src pos
  simp only [chain, perform, Run.perform_bind, bind_assoc, pure_bind]
  rfl

/-- Applying a function is going on with what it returns. -/
theorem map_eq_chain (f : Value → Effect Value) :
    map a f = chain a fun v => perform (f v) := by
  funext src pos
  simp only [map, chain, perform]
  refine bind_congr fun t => ?_
  rcases t with ⟨_ | ⟨index, value⟩, l⟩
  · rfl
  · simp only [bind_assoc, pure_bind, Attempt.behind, List.append_nil]

/-! ### Sequences -/

/-- Going on after several actions. -/
theorem chainAll_chain (finish : List Value → LedgerAction) (next : Value → LedgerAction) :
    chain (chainAll as finish) next = chainAll as fun vs => chain (finish vs) next := by
  induction as generalizing finish with
  | nil => rfl
  | cons a as ih =>
      simp only [chainAll, chain_assoc]
      exact congrArg (chain a) (funext fun v => ih _)

/-- **A sequence that is under way goes on with the rest of its actions**: what has failed
so far stands in front of what fails later, and the values so far in front of the later
ones. -/
theorem seqFrom_eq_chainAll (values : List Value) (l : Ledger) (src : Text) (pos : Nat) :
    seqFrom values l as src pos
      = (do
          let t ← chainAll as (fun vs => succeed (.list (values.reverse ++ vs))) src pos
          return t.behind l) := by
  induction as generalizing values l pos with
  | nil => simp only [seqFrom, chainAll, succeed, pure_bind, Attempt.behind, List.append_nil]
  | cons a as ih =>
      simp only [seqFrom, chainAll, chain, bind_assoc]
      refine bind_congr fun t => ?_
      rcases t with ⟨_ | ⟨index, value⟩, k⟩
      · simp only [pure_bind]
      · simp only [ih, bind_assoc, pure_bind, Attempt.behind_behind, List.reverse_cons,
          List.append_assoc, List.singleton_append]

/-- A whole sequence. -/
theorem seqFrom_nil_nil : seqFrom [] [] as = chainAll as fun vs => succeed (.list vs) := by
  funext src pos
  simp only [seqFrom_eq_chainAll, Attempt.bind_behind_nil, List.reverse_nil, List.nil_append]

end LedgerAction

namespace Parser

/-- Goes on with all parsers, one after the other, and then with what a function makes of
their values. -/
def chainAll : List Parser → (List Value → Parser) → Parser
  | [], finish => finish []
  | p :: ps, finish => p.chain fun v => chainAll ps fun vs => finish (v :: vs)

/-- Matches the empty text, with the value that a callback returns. What the callback does,
the parser does when it is run. -/
def returning (e : Effect Value) : Parser :=
  e.notes.foldr .note (.ofExcept (e.outcome.map .succeed))

/-! ### Parsers with a ledger -/

section

variable (rounds : Nat) (lazies : Nat → LedgerAction)

theorem evalLedger_succeed (v : Value) :
    (succeed v).evalLedger rounds lazies = .succeed v := rfl

theorem evalLedger_returning (e : Effect Value) :
    (returning e).evalLedger rounds lazies = .perform e := by
  obtain ⟨notes, outcome⟩ := e
  funext src pos
  refine Run.ext fun s => ?_
  simp only [returning, LedgerAction.perform]
  induction notes generalizing s with
  | nil =>
      rw [List.foldr_nil]
      cases outcome with
      | ok v =>
          rw [Run.exec_bind_of_ok (Run.exec_perform _ s), Store.noted_nil]
          rfl
      | error fault =>
          rw [Run.exec_bind_of_error (Run.exec_perform _ s), Store.noted_nil]
          rfl
  | cons n notes ih =>
      rw [List.foldr_cons, evalLedger, Run.exec_bind_of_ok (Run.exec_note n s), ih]
      cases outcome with
      | ok v =>
          rw [Run.exec_bind_of_ok (Run.exec_perform _ _),
            Run.exec_bind_of_ok (Run.exec_perform _ s), ← Store.noted_append]
          rfl
      | error fault =>
          rw [Run.exec_bind_of_error (Run.exec_perform _ _),
            Run.exec_bind_of_error (Run.exec_perform _ s), ← Store.noted_append]
          rfl

theorem evalLedger_chainAll (ps : List Parser) (finish : List Value → Parser) :
    (chainAll ps finish).evalLedger rounds lazies
      = .chainAll (ps.map fun p => p.evalLedger rounds lazies) fun vs =>
          (finish vs).evalLedger rounds lazies := by
  induction ps generalizing finish with
  | nil => rfl
  | cons p ps ih => simp only [chainAll, LedgerAction.chainAll, evalLedger, List.map_cons, ih]

theorem evalLedger_map (p : Parser) (f : Value → Effect Value) :
    (p.map f).evalLedger rounds lazies
      = .chain (p.evalLedger rounds lazies) fun v => .perform (f v) :=
  LedgerAction.map_eq_chain f

theorem evalLedger_seq (ps : List Parser) :
    (seq ps).evalLedger rounds lazies
      = .chainAll (ps.map fun p => p.evalLedger rounds lazies) fun vs =>
          .succeed (.list vs) := by
  rw [evalLedger, evalLedgerAll_eq_map, LedgerAction.seqFrom_nil_nil]

/-- A function of the values of a sequence is called behind its last part. -/
theorem evalLedger_map_seq (ps : List Parser) (f : Value → Effect Value) :
    ((seq ps).map f).evalLedger rounds lazies
      = .chainAll (ps.map fun p => p.evalLedger rounds lazies) fun vs =>
          .perform (f (.list vs)) := by
  simp only [evalLedger_map, evalLedger_seq, LedgerAction.chainAll_chain,
    LedgerAction.succeed_chain]

end

/-! ### Parsers that run alike -/

/-- A parser runs as another one does, in every store that leads to parsers of the library
only, at all limits and at every offset of every text: both runs are broken off for the same
reason, or they give the same reply, with the same status, index, value, furthest failure
and labels, and they change the store in the same way. -/
def RunsAs (p q : Parser) : Prop :=
  ∀ s : Store, s.Admits IsLibrary → ∀ (limits : Limits) (src : Text) (pos : Nat),
    (p.run limits src pos).exec s = (q.run limits src pos).exec s

theorem runLedger_chain (p : Parser) (next : Value → Parser) (limits : Limits) :
    (p.chain next).runLedger limits
      = .chain (p.runLedger limits) fun v => (next v).runLedger limits := rfl

section

variable {p : Parser} (hp : p.IsLibrary) {s : Store} (hs : s.Admits IsLibrary)
  (limits : Limits) (src : Text) (pos : Nat)
include hp hs

/-- A run is told by the run with a ledger. -/
theorem exec_run : (p.run limits src pos).exec s
    = (((p.runLedger limits src pos).outcome s).map Attempt.reply,
        (p.runLedger limits src pos).after s) :=
  (runLedger_follows hp limits src pos).exec_of_same hs

theorem exec_run_of_ledger {limits : Limits} {src : Text} {pos : Nat} {r : Except Stop Attempt}
    {t : Store} (h : (p.runLedger limits src pos).exec s = (r, t)) :
    (p.run limits src pos).exec s = (r.map Attempt.reply, t) := by
  rw [exec_run hp hs, Run.outcome, Run.after, h]

/-- A reply stands for an attempt of the run with a ledger. -/
theorem exists_ledger_of_run {limits : Limits} {src : Text} {pos : Nat} {r : Reply} {t : Store}
    (h : (p.run limits src pos).exec s = (.ok r, t)) :
    ∃ a : Attempt, (p.runLedger limits src pos).exec s = (.ok a, t) ∧ r = a.reply := by
  rw [exec_run hp hs, Run.outcome, Run.after] at h
  rcases hl : (p.runLedger limits src pos).exec s with ⟨e | a, u⟩
  all_goals
    rw [hl] at h
    cases h
  exact ⟨a, rfl, rfl⟩

theorem outcome_run : (p.run limits src pos).outcome s
    = ((p.runLedger limits src pos).outcome s).map Attempt.reply :=
  congrArg Prod.fst (exec_run hp hs limits src pos)

theorem after_run : (p.run limits src pos).after s = (p.runLedger limits src pos).after s :=
  congrArg Prod.snd (exec_run hp hs limits src pos)

end

/-- **Equal ledgers give equal runs.** -/
theorem RunsAs.of_evalLedger {p q : Parser} (hp : p.IsLibrary) (hq : q.IsLibrary)
    (h : ∀ rounds lazies, p.evalLedger rounds lazies = q.evalLedger rounds lazies) :
    p.RunsAs q := by
  intro s hs limits src pos
  have hledger : p.runLedger limits = q.runLedger limits := h _ _
  rw [exec_run hp hs, exec_run hq hs, hledger]

end Parser

end Furthest
