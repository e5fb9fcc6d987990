import Furthest.Proofs.Rerun
import Furthest.Proofs.Sequencing

/-!
# Laws of Choice

A choice can be flattened, factored and freed of what is tried twice, and no reply changes.
Flattening is a matter of the order in which failures are merged, and holds of whole runs.
Trying a parser once instead of twice is not: the callbacks leave fewer notes. But the
second run would have found the same failures as the first, and a record only depends on
which failures there are, and not on how often they have occurred. `Parser.RepliesAs` is the
relation of two parsers that can be told apart by these notes only.

## Main results

* `Ledger.record_congr`: a record depends on which failures there are.
* `LedgerAction.altFrom_first`, `LedgerAction.altFrom_last`: choices inside choices.
* `Parser.choice_chain_repliesAs`: **left factoring**, whatever comes behind the common
  parser.
* `Parser.choices_refactor`: **refactoring choices changes no reply.**
-/

namespace Furthest

/-! ### Records and what they are about -/

namespace Ledger

variable {k l : Ledger}

/-- The greatest offset depends on which failures there are, and not on their order or
number. -/
theorem furthest_le_of_subset (h : ∀ m ∈ k, m ∈ l) : k.furthest ≤ l.furthest := by
  by_cases hk : k = []
  · subst hk
    exact neg_one_le_furthest l
  · obtain ⟨m, hm, hoffset⟩ := exists_furthest hk
    rw [← hoffset]
    exact le_furthest (h m hm)

/-- **The record depends on which failures there are**, and not on their order or number. -/
theorem record_congr (h : ∀ m, m ∈ k ↔ m ∈ l) : k.record = l.record := by
  have hfurthest : k.furthest = l.furthest :=
    le_antisymm (furthest_le_of_subset fun m => (h m).mp)
      (furthest_le_of_subset fun m => (h m).mpr)
  have hlabels : Text.sortedDistinct (k.labelsAt l.furthest)
      = Text.sortedDistinct (l.labelsAt l.furthest) :=
    Text.sortedDistinct_congr fun label => by simp only [mem_labelsAt, h]
  rw [record, record, hfurthest, hlabels]

end Ledger

/-- Attempts with the same result and the same failures stand for the same reply. -/
theorem Attempt.reply_congr {t u : Attempt} (hr : t.result = u.result)
    (hl : ∀ m, m ∈ t.ledger ↔ m ∈ u.ledger) : t.reply = u.reply := by
  rw [reply, reply, hr, Ledger.record_congr hl]

namespace LedgerAction

variable {a b : LedgerAction} {as bs : List LedgerAction}
  {next : Value → LedgerAction} {src : Text} {pos i : Nat} {v : Value} {l : Ledger}
  {s t u : Store} {e : Stop} {o : Except Stop Attempt}

/-! ### Choices inside choices -/

/-- Choices after earlier failures. -/
theorem altFrom_eq (l : Ledger) (as : List LedgerAction) (src : Text) (pos : Nat) :
    altFrom l as src pos = (do
      let t ← altFrom [] as src pos
      return t.behind l) := by
  induction as generalizing l with
  | nil => simp [altFrom, Attempt.behind]
  | cons a as ih =>
      simp only [altFrom, bind_assoc]
      refine bind_congr fun t => ?_
      rcases t with ⟨_ | r, k⟩
      · simp [ih (l ++ k), ih k]
      · simp [Attempt.behind]

/-- The first choices, and then the others, if none of the first matches. -/
theorem altFrom_append (l : Ledger) (as bs : List LedgerAction) (src : Text) (pos : Nat) :
    altFrom l (as ++ bs) src pos = (do
      let t ← altFrom l as src pos
      if t.result.isSome then return t else altFrom t.ledger bs src pos) := by
  induction as generalizing l with
  | nil => simp [altFrom]
  | cons a as ih =>
      simp only [List.cons_append, altFrom, bind_assoc]
      refine bind_congr fun t => ?_
      rcases t with ⟨_ | r, k⟩
      · simp [ih]
      · simp [Attempt.behind]

/-- A single choice. -/
theorem altFrom_single (l : Ledger) (a : LedgerAction) (src : Text) (pos : Nat) :
    altFrom l [a] src pos = (do
      let t ← a src pos
      return t.behind l) := by
  simp only [altFrom]
  refine bind_congr fun t => ?_
  rcases t with ⟨_ | r, k⟩ <;> simp [Attempt.behind]

/-- **A choice that comes first in a choice can be flattened.** -/
theorem altFrom_first (as bs : List LedgerAction) :
    altFrom [] (altFrom [] as :: bs) = altFrom [] (as ++ bs) := by
  funext src pos
  rw [altFrom_append]
  simp only [altFrom]
  refine bind_congr fun t => ?_
  simp [Attempt.behind]

/-- **A choice that comes last in a choice can be flattened.** -/
theorem altFrom_last (as bs : List LedgerAction) :
    altFrom [] (as ++ [altFrom [] bs]) = altFrom [] (as ++ bs) := by
  funext src pos
  simp only [altFrom_append, altFrom_single]
  refine bind_congr fun t => ?_
  rw [← altFrom_eq]

/-- The second choice, behind the failures of the first. -/
theorem altFrom_pair (a b : LedgerAction) (src : Text) (pos : Nat) :
    altFrom [] [a, b] src pos = (do
      let t ← a src pos
      if t.result.isSome then return t else do
        let u ← b src pos
        return u.behind t.ledger) := by
  rw [← List.singleton_append, altFrom_append]
  simp only [altFrom_single, Attempt.bind_behind_nil]

/-- A function of the value of a choice. -/
theorem altFrom_chain_succeed (f : Value → Value) :
    altFrom [] [chain a fun v => succeed (f v), chain b fun v => succeed (f v)]
      = chain (altFrom [] [a, b]) fun v => succeed (f v) := by
  funext src pos
  simp only [altFrom_pair, chain, bind_assoc]
  refine bind_congr fun t => ?_
  rcases t with ⟨_ | ⟨i, v⟩, k⟩
  · simp only [pure_bind, Option.isSome_none, Bool.false_eq_true, if_false, bind_assoc]
    refine bind_congr fun u => ?_
    rcases u with ⟨_ | ⟨j, w⟩, m⟩ <;> simp [succeed, Attempt.behind]
  · simp [succeed, Attempt.behind]

/-! ### What pairs of choices come to -/

theorem exec_pair_of_error (h : (a src pos).exec s = (.error e, t)) :
    (altFrom [] [a, b] src pos).exec s = (.error e, t) := Run.exec_bind_of_error h

theorem exec_pair_of_some (h : (a src pos).exec s = (.ok ⟨some (i, v), l⟩, t)) :
    (altFrom [] [a, b] src pos).exec s = (.ok ⟨some (i, v), l⟩, t) := Run.exec_bind_of_ok h

/-- The second choice, behind the failures of the first. -/
theorem exec_pair_of_none (h : (a src pos).exec s = (.ok ⟨none, l⟩, t))
    (hb : (b src pos).exec t = (o, u)) :
    (altFrom [] [a, b] src pos).exec s = (o.map fun t => t.behind l, u) := by
  have hmap := Run.exec_map (fun t => Attempt.behind t l) (b src pos) t
  rw [Run.outcome, Run.after, hb] at hmap
  rw [altFrom_pair, Run.exec_bind_of_ok h]
  exact hmap

theorem exec_chain_of_error (h : (a src pos).exec s = (.error e, t)) :
    (chain a next src pos).exec s = (.error e, t) := Run.exec_bind_of_error h

theorem exec_chain_of_none (h : (a src pos).exec s = (.ok ⟨none, l⟩, t)) :
    (chain a next src pos).exec s = (.ok ⟨none, l⟩, t) := Run.exec_bind_of_ok h

/-- What comes next, behind the failures of what comes first. -/
theorem exec_chain_of_some (h : (a src pos).exec s = (.ok ⟨some (i, v), l⟩, t))
    (hn : (next v src i).exec t = (o, u)) :
    (chain a next src pos).exec s = (o.map fun t => t.behind l, u) := by
  have hmap := Run.exec_map (fun t => Attempt.behind t l) (next v src i) t
  rw [Run.outcome, Run.after, hn] at hmap
  rw [chain, Run.exec_bind_of_ok h]
  exact hmap

end LedgerAction

namespace Parser

variable {p q r : Parser} {f g : Value → Parser}

/-! ### Parsers that reply alike -/

/-- A parser replies as another one does, in every store that leads to parsers of the
library only, at all limits and at every offset of every text: both runs are broken off for
the same reason, or they give the same reply, with the same status, index, value, furthest
failure and labels. They change the store in the same way, but for the notes of
callbacks. -/
def RepliesAs (p q : Parser) : Prop :=
  ∀ s : Store, s.Admits IsLibrary → ∀ (limits : Limits) (src : Text) (pos : Nat),
    (p.run limits src pos).outcome s = (q.run limits src pos).outcome s
      ∧ ((p.run limits src pos).after s).SameButNotes ((q.run limits src pos).after s)

theorem RunsAs.repliesAs (h : p.RunsAs q) : p.RepliesAs q := by
  intro s hs limits src pos
  rw [Run.outcome, Run.after, h s hs limits src pos]
  exact ⟨rfl, .refl _⟩

theorem RepliesAs.trans (h : p.RepliesAs q) (h' : q.RepliesAs r) : p.RepliesAs r := by
  intro s hs limits src pos
  obtain ⟨ho, ht⟩ := h s hs limits src pos
  obtain ⟨ho', ht'⟩ := h' s hs limits src pos
  exact ⟨ho.trans ho', ht.trans ht'⟩

/-- Runs with a ledger that stand for the same reply. -/
theorem RepliesAs.of_runLedger (hp : p.IsLibrary) (hq : q.IsLibrary)
    (h : ∀ (s : Store) (limits : Limits) (src : Text) (pos : Nat), ∃ o t o' t',
      (p.runLedger limits src pos).exec s = (o, t)
      ∧ (q.runLedger limits src pos).exec s = (o', t')
        ∧ o.map Attempt.reply = o'.map Attempt.reply ∧ t.SameButNotes t') :
    p.RepliesAs q := by
  intro s hs limits src pos
  obtain ⟨o, t, o', t', hexec, hexec', ho, ht⟩ := h s limits src pos
  rw [outcome_run hp hs, outcome_run hq hs, after_run hp hs, after_run hq hs,
    Run.outcome, Run.outcome, Run.after, Run.after, hexec, hexec']
  exact ⟨ho, ht⟩

/-! ### Choices -/

theorem IsLibrary.choice (hp : p.IsLibrary) (hq : q.IsLibrary) :
    (alternatives [p, q]).IsLibrary :=
  Throughout.orElse (fun _ => IsPlain.isLibrary) hp hq

theorem IsLibrary.pair (hp : p.IsLibrary) (hq : q.IsLibrary) : (Parser.seq [p, q]).IsLibrary :=
  .seq (List.forall_mem_cons.mpr ⟨hp, List.forall_mem_singleton.mpr hq⟩)

/-- A choice does what the actions of its parts do in the order of preference. -/
theorem evalLedger_alternatives (rounds : Nat) (lazies : Nat → LedgerAction) (p : Parser)
    (ps : List Parser) :
    (alternatives (p :: ps)).evalLedger rounds lazies
      = .altFrom [] ((p :: ps).map fun p => p.evalLedger rounds lazies) := by
  rw [alternatives, evalLedger, evalLedgerAll_eq_map]
  rfl

theorem runLedger_choice (p q : Parser) (limits : Limits) :
    (alternatives [p, q]).runLedger limits
      = .altFrom [] [p.runLedger limits, q.runLedger limits] :=
  evalLedger_alternatives _ _ p [q]

/-- Failures that have occurred twice are the same failures. -/
theorem reply_behind_self (l : Ledger) :
    (Attempt.behind ⟨none, l⟩ l).reply = (Attempt.mk none l).reply :=
  Attempt.reply_congr rfl fun m => by simp [Attempt.behind]

/-- **The same choice twice.** What fails once fails again in the same way. -/
theorem choice_twice_repliesAs (hp : p.IsLibrary) : (alternatives [p, p]).RepliesAs p := by
  refine .of_runLedger (hp.choice hp) hp fun s limits src pos => ?_
  rw [runLedger_choice]
  rcases hexec : (p.runLedger limits src pos).exec s with ⟨e | ⟨_ | ⟨i, v⟩, l⟩, t⟩
  · exact ⟨_, t, _, t, LedgerAction.exec_pair_of_error hexec, rfl, rfl, .refl t⟩
  · obtain ⟨u, hagain, hu⟩ := exec_runLedger_again hexec fun _ _ h => h
    exact ⟨_, u, _, t, LedgerAction.exec_pair_of_none hexec hagain, rfl,
      congrArg Except.ok (reply_behind_self l), hu.symm⟩
  · exact ⟨_, t, _, t, LedgerAction.exec_pair_of_some hexec, rfl, rfl, .refl t⟩

/-- Where a parser has matched before, a chain that starts with it does what comes next. -/
theorem exec_chain_again {limits : Limits} {src : Text} {pos i : Nat} {v : Value} {l : Ledger}
    {s t u : Store} (h : (p.runLedger limits src pos).exec s = (.ok ⟨some (i, v), l⟩, t))
    (hu : t.ResolvedIn u) (f : Value → Parser) :
    ∃ o w w', ((f v).runLedger limits src i).exec u = (o, w)
      ∧ ((p.runLedger limits).chain (fun v => (f v).runLedger limits) src pos).exec u
          = (o.map fun r => r.behind l, w')
      ∧ w'.SameButNotes w := by
  obtain ⟨u', hagain, hnotes⟩ := exec_runLedger_again h hu
  obtain ⟨ho, hafter⟩ := hnotes.exec_runLedger (f v) limits src i
  rcases hnext : ((f v).runLedger limits src i).exec u with ⟨o, w⟩
  rcases hnext' : ((f v).runLedger limits src i).exec u' with ⟨o', w'⟩
  rw [Run.outcome, Run.outcome, hnext, hnext'] at ho
  rw [Run.after, Run.after, hnext, hnext'] at hafter
  obtain rfl : o = o' := ho
  exact ⟨o, w, w', rfl, LedgerAction.exec_chain_of_some hagain hnext', hafter.symm⟩

/-- **Left factoring.** A parser with which two choices start can be run before the choice:
the second run of it, which is saved, would have come to the same as the first one. -/
theorem choice_chain_repliesAs (hp : p.IsLibrary) (hf : ∀ v, (f v).IsLibrary)
    (hg : ∀ v, (g v).IsLibrary) :
    (alternatives [p.chain f, p.chain g]).RepliesAs
      (p.chain fun v => alternatives [f v, g v]) := by
  have hleft := (hp.chain hf).choice (hp.chain hg)
  have hright := hp.chain fun v => (hf v).choice (hg v)
  refine .of_runLedger hleft hright fun s limits src pos => ?_
  simp only [runLedger_choice, runLedger_chain]
  rcases hexec : (p.runLedger limits src pos).exec s with ⟨e | ⟨_ | ⟨i, v⟩, l⟩, t⟩
  · exact ⟨_, t, _, t, LedgerAction.exec_pair_of_error
      (LedgerAction.exec_chain_of_error hexec),
      LedgerAction.exec_chain_of_error hexec, rfl, .refl t⟩
  · -- the parser fails, and fails again in front of the second choice
    obtain ⟨u, hagain, hu⟩ := exec_runLedger_again hexec fun _ _ h => h
    exact ⟨_, u, _, t, LedgerAction.exec_pair_of_none (LedgerAction.exec_chain_of_none hexec)
      (LedgerAction.exec_chain_of_none hagain), LedgerAction.exec_chain_of_none hexec,
      congrArg Except.ok (reply_behind_self l), hu.symm⟩
  · have hchain {o : Except Stop Attempt} {u : Store}
        (h : ((f v).runLedger limits src i).exec t = (o, u)) :
        ((p.runLedger limits).chain (fun v => (f v).runLedger limits) src pos).exec s
          = (o.map fun r => r.behind l, u) := LedgerAction.exec_chain_of_some hexec h
    rcases hfirst : ((f v).runLedger limits src i).exec t with ⟨e | ⟨_ | ⟨j, w⟩, k⟩, u⟩
    · exact ⟨_, u, _, u, LedgerAction.exec_pair_of_error (hchain hfirst),
        LedgerAction.exec_chain_of_some hexec (LedgerAction.exec_pair_of_error hfirst),
        rfl, .refl u⟩
    · -- the parser matches again, as what it has resolved is still resolved behind the
      -- first choice
      obtain ⟨o, w, w', hsecond, hagain, hnotes⟩ :=
        exec_chain_again hexec (resolvedIn_of_exec hfirst) g
      refine ⟨_, w', _, w, LedgerAction.exec_pair_of_none (hchain hfirst) hagain,
        LedgerAction.exec_chain_of_some hexec (LedgerAction.exec_pair_of_none hfirst hsecond),
        ?_, hnotes⟩
      cases o with
      | error e => rfl
      | ok r =>
          refine congrArg Except.ok (Attempt.reply_congr rfl fun m => ?_)
          simp only [Attempt.behind, List.mem_append]
          tauto
    · exact ⟨_, u, _, u, LedgerAction.exec_pair_of_some (hchain hfirst),
        LedgerAction.exec_chain_of_some hexec (LedgerAction.exec_pair_of_some hfirst),
        rfl, .refl u⟩

/-- A pair is a chain. -/
theorem evalLedger_pair (rounds : Nat) (lazies : Nat → LedgerAction) (p q : Parser) :
    (seq [p, q]).evalLedger rounds lazies
      = (p.chain fun v => q.chain fun w => succeed (.list [v, w])).evalLedger rounds lazies :=
  evalLedger_seq rounds lazies [p, q]

/-- Left factoring, for sequences. -/
theorem choice_pair_repliesAs (hp : p.IsLibrary) (hq : q.IsLibrary) (hr : r.IsLibrary) :
    (alternatives [seq [p, q], seq [p, r]]).RepliesAs (seq [p, alternatives [q, r]]) := by
  have hnext {q : Parser} (hq : q.IsLibrary) (v : Value) :
      (q.chain fun w => succeed (.list [v, w])).IsLibrary :=
    hq.chain fun w => isLibrary_succeed _
  have hleft : (alternatives [seq [p, q], seq [p, r]]).RunsAs _ :=
    .of_evalLedger ((hp.pair hq).choice (hp.pair hr))
      ((hp.chain (hnext hq)).choice (hp.chain (hnext hr))) fun rounds lazies => by
        simp only [evalLedger_alternatives, List.map_cons, List.map_nil, evalLedger_pair]
  have hright : (p.chain fun v => alternatives [q.chain fun w => succeed (.list [v, w]),
      r.chain fun w => succeed (.list [v, w])]).RunsAs (seq [p, alternatives [q, r]]) :=
    .of_evalLedger (hp.chain fun v => (hnext hq v).choice (hnext hr v))
      (hp.pair (hq.choice hr))
      fun rounds lazies => by
        rw [evalLedger_pair, evalLedger, evalLedger]
        refine congrArg (LedgerAction.chain _) (funext fun v => ?_)
        exact LedgerAction.altFrom_chain_succeed fun w => .list [v, w]
  have hchoice := choice_chain_repliesAs hp (hnext hq) (hnext hr)
  exact hleft.repliesAs.trans (hchoice.trans hright.repliesAs)

/-- **Refactoring choices changes no reply.** Choices inside choices can be flattened, and a
single choice can be left out. The same choice twice is that choice, and a parser with which
both choices start can be factored out: these two save a run, which would have come to the
same as the one before it. -/
theorem choices_refactor (hp : p.IsLibrary) (hq : q.IsLibrary) (hr : r.IsLibrary) :
    (alternatives [alternatives [p, q], r]).RunsAs (alternatives [p, q, r])
      ∧ (alternatives [p, alternatives [q, r]]).RunsAs (alternatives [p, q, r])
      ∧ (alternatives [p]).RunsAs p
      ∧ (alternatives [p, p]).RepliesAs p
      ∧ (alternatives [seq [p, q], seq [p, r]]).RepliesAs (seq [p, alternatives [q, r]]) := by
  have hall : (alternatives [p, q, r]).IsLibrary := by
    refine Throughout.alternatives (fun _ => IsPlain.isLibrary) ?_
    simp only [List.forall_mem_cons]
    exact ⟨hp, hq, hr, List.forall_mem_nil _⟩
  refine ⟨?_, ?_, ?_, choice_twice_repliesAs hp, choice_pair_repliesAs hp hq hr⟩
  · refine .of_evalLedger ((hp.choice hq).choice hr) hall fun rounds lazies => ?_
    simp only [evalLedger_alternatives, List.map_cons, List.map_nil]
    exact LedgerAction.altFrom_first _ _
  · refine .of_evalLedger (hp.choice (hq.choice hr)) hall fun rounds lazies => ?_
    simp only [evalLedger_alternatives, List.map_cons, List.map_nil]
    exact LedgerAction.altFrom_last [_] _
  · have hsingle : (alternatives [p]).IsLibrary :=
      Throughout.alternatives (fun _ => IsPlain.isLibrary) (List.forall_mem_singleton.mpr hp)
    refine .of_evalLedger hsingle hp fun rounds lazies => ?_
    funext src pos
    simp only [evalLedger_alternatives, List.map_cons, List.map_nil,
      LedgerAction.altFrom_single, Attempt.bind_behind_nil]

/-- A list in front of two marks. It is read twice if both choices start with it, which
resolves two lazy parsers the first time and none the second. -/
theorem choices_refactor_lists :
    let p := lazy 0
    let q := literal "!"
    let r := literal "?"
    let reply := Reply.success 4 (.list [.list [.text "1"], .text "?"]) ⟨3, [.text "'!'"]⟩
    p.IsLibrary ∧ q.IsLibrary ∧ r.IsLibrary
      ∧ ((alternatives [seq [p, q], seq [p, r]]).run ⟨3, 4⟩ "[1]?" (0 : Nat)).outcome .lists
          = .ok reply
      ∧ ((seq [p, alternatives [q, r]]).run ⟨3, 4⟩ "[1]?" (0 : Nat)).outcome .lists
          = .ok reply := by
  intro p q r reply
  have hp : p.IsLibrary := .lazy (fun _ => IsPlain.isLibrary) 0
  have hq : q.IsLibrary := .literal (fun _ => IsPlain.isLibrary) "!"
  have hr : r.IsLibrary := .literal (fun _ => IsPlain.isLibrary) "?"
  have hs : Store.lists.Admits IsLibrary :=
    Store.lists_admits (fun _ => IsPlain.isLibrary) ⟨id, trivial⟩
  have hrun :
      ((alternatives [seq [p, q], seq [p, r]]).run ⟨3, 4⟩ "[1]?" (0 : Nat)).outcome .lists
        = .ok reply := rfl
  obtain ⟨-, -, -, -, hfactor⟩ := choices_refactor hp hq hr
  obtain ⟨hreply, -⟩ := hfactor _ hs ⟨3, 4⟩ "[1]?" 0
  exact ⟨hp, hq, hr, hrun, hreply.symm.trans hrun⟩

end Parser

end Furthest
