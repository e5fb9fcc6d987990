import Furthest.Checked.Parser
import Furthest.Proofs.LedgerAlgebra

/-!
# Laws of Sequencing

Parsers with `chain` and `succeed` are a monad and with `map` a functor, not only in what
they match but in the whole reply: where they fail, what they expected there, and what they
have tried on the way. All other ways of sequencing are derived from `chain`. A sequence
runs as the nested chain over its parts does, for any number of parts, and whatever keeps a
part of the values or calls a function with them runs as that chain with another end.

One function is not known before the run: that of `ap` is a value. Going on with `map`
checks that it is a function before the next parser is run, which `ap` only finds out when
it calls it. So `ap` is a chain where the value is a function, and another value tells the
two apart.

## Main results

* `Parser.chain_map_laws`: the laws of a monad and of a functor.
* `Parser.sequences_as_chains`: the sequencing combinators in terms of `chain`.
* `Parser.ap_unlike_chain`: a value that is no function, called and gone on with.
-/

namespace Furthest

/-- The reply with the positions around the match added to its value. -/
def Reply.marked (src : Text) (pos : Int) : Reply → Reply
  | success index value record =>
    success index (.mark (.ofOffset src pos) value (.ofOffset src index)) record
  | failure record => failure record

/-- The attempt with the positions around the match added to its value. -/
def Attempt.marked (src : Text) (pos : Nat) (t : Attempt) : Attempt :=
  { t with result := t.result.map fun r =>
      (r.1, .mark (.ofOffset src pos) r.2 (.ofOffset src r.1)) }

namespace Parser

/-- Applies a value to the value, which has to be a function. That is checked before the
parser is run. -/
def mapValue (p : Parser) (f : Value) : Parser := ofExcept (Checked.map p (.value f))

variable {p q u : Parser} {ps : List Parser}

/-! ### Parsers of the library -/

theorem IsLibrary.map (hp : p.IsLibrary) (f : Value → Effect Value) : (p.map f).IsLibrary :=
  Throughout.map (fun _ => IsPlain.isLibrary) hp f

theorem IsLibrary.chain (hp : p.IsLibrary) {next : Value → Parser}
    (hn : ∀ v, (next v).IsLibrary) : (p.chain next).IsLibrary :=
  Throughout.chain (fun _ => IsPlain.isLibrary) hp hn

theorem IsLibrary.seq (hps : ∀ p ∈ ps, p.IsLibrary) : (seq ps).IsLibrary :=
  Throughout.seq (fun _ => IsPlain.isLibrary) hps

theorem isLibrary_succeed (v : Value) : (succeed v).IsLibrary :=
  Throughout.succeed (fun _ => IsPlain.isLibrary) v

theorem isLibrary_raise (fault : Fault) : (raise fault).IsLibrary :=
  Throughout.raise (fun _ => IsPlain.isLibrary) fault

theorem isLibrary_returning (e : Effect Value) : (returning e).IsLibrary := by
  obtain ⟨notes, outcome⟩ := e
  simp only [returning]
  induction notes with
  | nil =>
      cases outcome with
      | ok v => exact isLibrary_succeed v
      | error fault => exact isLibrary_raise fault
  | cons n notes ih => exact Throughout.note (fun _ => IsPlain.isLibrary) n ih

theorem IsLibrary.chainAll (hps : ∀ p ∈ ps, p.IsLibrary) {finish : List Value → Parser}
    (hf : ∀ vs, (finish vs).IsLibrary) : (chainAll ps finish).IsLibrary := by
  induction ps generalizing finish with
  | nil => exact hf []
  | cons p ps ih =>
      rw [List.forall_mem_cons] at hps
      exact hps.1.chain fun v => ih hps.2 fun vs => hf (v :: vs)

/-! ### The laws of a monad and of a functor -/

/-- **The laws of a monad and of a functor, on whole replies.** A value alone goes on as the
function says, going on with the value alone changes nothing, and going on is associative.
Applying the function that returns its argument changes nothing, and applying two functions
is applying one after the other, whatever notes they leave and whether or not they raise a
fault. -/
theorem chain_map_laws (hp : p.IsLibrary) {f g : Value → Parser} (hf : ∀ v, (f v).IsLibrary)
    (hg : ∀ v, (g v).IsLibrary) (x : Value) (h k : Value → Effect Value) :
    ((succeed x).chain f).RunsAs (f x)
      ∧ (p.chain succeed).RunsAs p
      ∧ ((p.chain f).chain g).RunsAs (p.chain fun v => (f v).chain g)
      ∧ (p.map pure).RunsAs p
      ∧ ((p.map h).map k).RunsAs (p.map fun v => h v >>= k) := by
  refine ⟨?_, ?_, ?_, ?_, ?_⟩
  · refine .of_evalLedger ((isLibrary_succeed x).chain hf) (hf x) fun rounds lazies => ?_
    rw [evalLedger, evalLedger_succeed, LedgerAction.succeed_chain]
  · refine .of_evalLedger (hp.chain isLibrary_succeed) hp fun rounds lazies => ?_
    rw [evalLedger]
    exact LedgerAction.chain_succeed
  · have hright : ∀ v, ((f v).chain g).IsLibrary := fun v => (hf v).chain hg
    refine .of_evalLedger ((hp.chain hf).chain hg) (hp.chain hright) fun rounds lazies => ?_
    simp only [evalLedger]
    exact LedgerAction.chain_assoc _ _
  · refine .of_evalLedger (hp.map pure) hp fun rounds lazies => ?_
    simp only [evalLedger_map, LedgerAction.perform_pure]
    exact LedgerAction.chain_succeed
  · refine .of_evalLedger ((hp.map h).map k) (hp.map _) fun rounds lazies => ?_
    simp only [evalLedger_map, LedgerAction.chain_assoc, LedgerAction.perform_chain]

/-- A list, then a mark that is tried and given up, then a mark that is missing. The two
ways of going on merge the failures in different orders and expect the same two marks. -/
theorem chain_map_laws_lists :
    let p := lazy 0
    let f : Value → Parser := fun v => (literal "!").optional v
    let g : Value → Parser := fun _ => literal "?"
    let r : Record := ⟨3, [.text "'!'", .text "'?'"]⟩
    p.IsLibrary ∧ (∀ v, (f v).IsLibrary) ∧ (∀ v, (g v).IsLibrary)
      ∧ (((p.chain f).chain g).run ⟨3, 4⟩ "[1]" (0 : Nat)).outcome .lists = .ok (.failure r)
      ∧ ((p.chain fun v => (f v).chain g).run ⟨3, 4⟩ "[1]" (0 : Nat)).outcome .lists
          = .ok (.failure r) := by
  intro p f g r
  have hp : p.IsLibrary := .lazy (fun _ => IsPlain.isLibrary) 0
  have hf (v : Value) : (f v).IsLibrary :=
    .optional (fun _ => IsPlain.isLibrary) (.literal (fun _ => IsPlain.isLibrary) "!") v
  have hg (_ : Value) : (literal "?").IsLibrary := .literal (fun _ => IsPlain.isLibrary) "?"
  have hs : Store.lists.Admits IsLibrary :=
    Store.lists_admits (fun _ => IsPlain.isLibrary) ⟨id, trivial⟩
  have hrun : (((p.chain f).chain g).run ⟨3, 4⟩ "[1]" (0 : Nat)).outcome .lists
      = .ok (.failure r) := rfl
  obtain ⟨-, -, hassoc, -⟩ := chain_map_laws hp hf hg .none pure pure
  refine ⟨hp, hf, hg, hrun, ?_⟩
  rw [← hrun, Run.outcome, Run.outcome, hassoc _ hs]

/-! ### Sequences as chains -/

/-- Applying a function is going on with the value that it returns. -/
theorem map_runsAs (hp : p.IsLibrary) (f : Value → Effect Value) :
    (p.map f).RunsAs (p.chain fun v => returning (f v)) := by
  refine .of_evalLedger (hp.map f) (hp.chain fun v => isLibrary_returning _)
    fun rounds lazies => ?_
  rw [evalLedger_map, evalLedger]
  simp only [evalLedger_returning]

/-- A sequence is the chain over its parts. -/
theorem seq_runsAs (hps : ∀ p ∈ ps, p.IsLibrary) :
    (seq ps).RunsAs (chainAll ps fun vs => succeed (.list vs)) := by
  have hright := IsLibrary.chainAll hps fun vs => isLibrary_succeed (.list vs)
  refine .of_evalLedger (.seq hps) hright fun rounds lazies => ?_
  rw [evalLedger_seq, evalLedger_chainAll]
  rfl

/-- A sequence whose values a function is called with is the same chain with another end. -/
theorem seqMap_runsAs (hps : ∀ p ∈ ps, p.IsLibrary) (f : List Value → Effect Value) :
    (seqMap ps f).RunsAs (chainAll ps fun vs => returning (f vs)) := by
  have hleft : (seqMap ps f).IsLibrary := (IsLibrary.seq hps).map _
  refine .of_evalLedger hleft (.chainAll hps fun vs => isLibrary_returning _)
    fun rounds lazies => ?_
  simp only [seqMap, evalLedger_map_seq, evalLedger_chainAll, evalLedger_returning]
  rfl

theorem IsLibrary.andThen (hp : p.IsLibrary) (hq : q.IsLibrary) : (p.andThen q).IsLibrary :=
  Throughout.andThen (fun _ => IsPlain.isLibrary) hp hq

/-- Both, of which the second one's value is kept. -/
theorem andThen_runsAs (hp : p.IsLibrary) (hq : q.IsLibrary) :
    (p.andThen q).RunsAs (p.chain fun _ => q) := by
  refine .of_evalLedger (hp.andThen hq) (hp.chain fun _ => hq) fun rounds lazies => ?_
  rw [andThen, evalLedger_map_seq, evalLedger]
  simp only [List.map_cons, List.map_nil, LedgerAction.chainAll, Value.items,
    List.getD_cons_succ, List.getD_cons_zero, LedgerAction.perform_pure,
    LedgerAction.chain_succeed]

/-- Both, of which the first one's value is kept. -/
theorem skip_runsAs (hp : p.IsLibrary) (hq : q.IsLibrary) :
    (p.skip q).RunsAs (p.chain fun v => q.map fun _ => pure v) := by
  have hleft : (p.skip q).IsLibrary := Throughout.skip (fun _ => IsPlain.isLibrary) hp hq
  refine .of_evalLedger hleft (hp.chain fun v => hq.map _) fun rounds lazies => ?_
  rw [skip, evalLedger_map_seq, evalLedger]
  simp only [List.map_cons, List.map_nil, LedgerAction.chainAll, Value.items,
    List.getD_cons_zero, evalLedger_map]

/-! ### Functions that are values -/

theorem isLibrary_mapValue (hp : p.IsLibrary) (f : Value) : (p.mapValue f).IsLibrary := by
  cases f with
  | function f => exact hp.map _
  | _ => exact isLibrary_raise _

/-- A function that is a value is called with the value. -/
theorem mapValue_function (p : Parser) (f : Callback) :
    p.mapValue (.function f) = p.map fun v => f.call [v] := rfl

/-- A value that is no function is refused. -/
theorem mapValue_of_ne (p : Parser) {v : Value} (hv : ∀ f, v ≠ .function f) :
    p.mapValue v = raise (.notFunction (some v.render)) := by
  cases v with
  | function f => exact absurd rfl (hv f)
  | _ => rfl

/-- What `ap` does, with a ledger. -/
theorem evalLedger_ap (rounds : Nat) (lazies : Nat → LedgerAction) (u p : Parser) :
    (u.ap p).evalLedger rounds lazies
      = .chain (u.evalLedger rounds lazies) fun f =>
          (p.map fun v => f.call [v]).evalLedger rounds lazies := by
  rw [ap, seqMap, evalLedger_map_seq]
  simp only [List.map_cons, List.map_nil, LedgerAction.chainAll, Value.items,
    List.getD_cons_zero, List.getD_cons_succ, evalLedger_map]

/-- **Calling a function that a parser produces** is going on with the next parser under
that function. -/
theorem exec_run_ap (hu : u.IsLibrary) (hp : p.IsLibrary) {s : Store} (hs : s.Admits IsLibrary)
    {limits : Limits} {src : Text} {pos : Nat}
    (hfun : ∀ i v record, (u.run limits src pos).outcome s = .ok (.success i v record) →
      ∃ f, v = .function f) :
    ((u.ap p).run limits src pos).exec s
      = ((u.chain p.mapValue).run limits src pos).exec s := by
  have hap : (u.ap p).IsLibrary := Throughout.ap (fun _ => IsPlain.isLibrary) hu hp
  have hchain : (u.chain p.mapValue).IsLibrary := hu.chain (isLibrary_mapValue hp)
  have hexec : ((u.ap p).runLedger limits src pos).exec s
      = ((u.chain p.mapValue).runLedger limits src pos).exec s := by
    rw [runLedger, evalLedger_ap]
    refine LedgerAction.exec_chain_congr fun t i v ht hr => ?_
    obtain ⟨_, l⟩ := t
    obtain rfl := hr
    have hrun : (u.run limits src pos).outcome s = .ok (.success i v l.record) := by
      rw [outcome_run hu hs]
      exact congrArg (Except.map Attempt.reply) ht
    obtain ⟨f, rfl⟩ := hfun _ _ _ hrun
    rw [mapValue_function]
    simp only [Value.call]
  rw [exec_run hap hs, exec_run hchain hs, Run.outcome, Run.after, hexec]
  rfl

/-- A value that is no function is refused before the next parser is run. -/
theorem outcome_chain_mapValue_of_ne (hu : u.IsLibrary) (hp : p.IsLibrary) {s : Store}
    (hs : s.Admits IsLibrary) {limits : Limits} {src : Text} {pos : Nat} {i : Int} {v : Value}
    {record : Record} (h : (u.run limits src pos).outcome s = .ok (.success i v record))
    (hv : ∀ f, v ≠ .function f) :
    ((u.chain p.mapValue).run limits src pos).outcome s
      = .error (.fault (.notFunction (some v.render))) := by
  have hchain : (u.chain p.mapValue).IsLibrary := hu.chain (isLibrary_mapValue hp)
  rw [outcome_run hu hs, Run.outcome] at h
  rcases hl : (u.runLedger limits src pos).exec s with ⟨e | ⟨_ | ⟨j, w⟩, l⟩, t⟩
  all_goals
    rw [hl] at h
    cases h
  have hraise : ((p.mapValue v).runLedger limits src j).exec t
      = (.error (.fault (.notFunction (some v.render))), t) := by
    rw [mapValue_of_ne p hv]
    rfl
  have hledger : ((u.chain p.mapValue).runLedger limits src pos).outcome s
      = .error (.fault (.notFunction (some v.render))) := by
    rw [runLedger_chain, LedgerAction.chain, Run.outcome, Run.exec_bind_of_ok hl]
    exact congrArg Prod.fst (Run.exec_bind_of_error hraise)
  rw [outcome_run hchain hs, hledger]
  rfl

/-- At the end of the text, where the parser fails, `ap` has called nothing yet, and fails
like it. Going on has refused the value before. -/
theorem ap_unlike_chain :
    let u := succeed .none
    let p := fail "x"
    u.IsLibrary ∧ p.IsLibrary
      ∧ ((u.ap p).run ⟨0, 0⟩ "" (0 : Nat)).outcome .lists = .ok (.mismatch 0 (.text "x"))
      ∧ ((u.chain p.mapValue).run ⟨0, 0⟩ "" (0 : Nat)).outcome .lists
          = .error (.fault (.notFunction (some "None")))
      ∧ ¬ (u.ap p).RunsAs (u.chain p.mapValue) := by
  intro u p
  have hu : u.IsLibrary := isLibrary_succeed _
  have hp : p.IsLibrary := .fail (fun _ => IsPlain.isLibrary) "x"
  have hs : Store.lists.Admits IsLibrary :=
    Store.lists_admits (fun _ => IsPlain.isLibrary) ⟨id, trivial⟩
  have hap : ((u.ap p).run ⟨0, 0⟩ "" (0 : Nat)).outcome .lists
      = .ok (.mismatch 0 (.text "x")) :=
    rfl
  have hchain : ((u.chain p.mapValue).run ⟨0, 0⟩ "" (0 : Nat)).outcome .lists
      = .error (.fault (.notFunction (some "None"))) :=
    outcome_chain_mapValue_of_ne hu hp hs rfl nofun
  refine ⟨hu, hp, hap, hchain, fun h => ?_⟩
  rw [Run.outcome, h _ hs, ← Run.outcome, hchain] at hap
  cases hap

/-! ### Marks -/

/-- A mark adds the positions and no failures. -/
theorem evalLedger_mark (rounds : Nat) (lazies : Nat → LedgerAction) (p : Parser) (src : Text)
    (pos : Nat) :
    p.mark.evalLedger rounds lazies src pos
      = Attempt.marked src pos <$> p.evalLedger rounds lazies src pos := by
  have hindex (src : Text) (pos : Nat) : index.evalLedger rounds lazies src pos
      = pure ⟨some (pos, .position (.ofOffset src pos)), []⟩ := rfl
  rw [mark, seqMap, evalLedger_map_seq, ← bind_pure_comp]
  simp only [List.map_cons, List.map_nil, LedgerAction.chainAll, LedgerAction.chain,
    hindex, pure_bind, Attempt.bind_behind_nil]
  refine bind_congr fun t => ?_
  rcases t with ⟨_ | ⟨i, v⟩, l⟩
  · rfl
  · simp only [Value.items, markOf, LedgerAction.perform_pure, LedgerAction.succeed, pure_bind,
      Attempt.behind, List.append_nil]
    rfl

/-- The reply of a mark is that of the parser, but for the value. -/
theorem exec_run_mark (hp : p.IsLibrary) {s : Store} (hs : s.Admits IsLibrary)
    (limits : Limits) (src : Text) (pos : Nat) :
    (p.mark.run limits src pos).exec s
      = (((p.run limits src pos).outcome s).map (Reply.marked src pos),
          (p.run limits src pos).after s) := by
  have hmark : p.mark.IsLibrary := Throughout.mark (fun _ => IsPlain.isLibrary) hp
  have hledger : (p.mark.runLedger limits src pos).exec s
      = (((p.runLedger limits src pos).outcome s).map (Attempt.marked src pos),
          (p.runLedger limits src pos).after s) := by
    rw [runLedger, evalLedger_mark]
    exact Run.exec_map _ _ s
  have hreply (t : Attempt) : (t.marked src pos).reply = t.reply.marked src pos := by
    rcases t with ⟨_ | ⟨i, v⟩, l⟩ <;> rfl
  rw [exec_run hmark hs, outcome_run hp hs, after_run hp hs, Run.outcome, Run.after, hledger]
  cases (p.runLedger limits src pos).outcome s with
  | error e => rfl
  | ok t => exact Prod.ext (congrArg Except.ok (hreply t)) rfl

/-! ### All sequencing combinators -/

/-- **The sequencing combinators are chains.** -/
theorem sequences_as_chains (hp : p.IsLibrary) (hq : q.IsLibrary) (hu : u.IsLibrary)
    (hps : ∀ p ∈ ps, p.IsLibrary) (f : Value → Effect Value) (g : List Value → Effect Value) :
    (p.map f).RunsAs (p.chain fun v => returning (f v))
      ∧ (p.andThen q).RunsAs (p.chain fun _ => q)
      ∧ (p.skip q).RunsAs (p.chain fun v => q.map fun _ => pure v)
      ∧ (seq ps).RunsAs (chainAll ps fun vs => succeed (.list vs))
      ∧ (seqMap ps g).RunsAs (chainAll ps fun vs => returning (g vs))
      ∧ ∀ s : Store, s.Admits IsLibrary → ∀ (limits : Limits) (src : Text) (pos : Nat),
          ((∀ i v record, (u.run limits src pos).outcome s = .ok (.success i v record) →
              ∃ f, v = .function f) →
            ((u.ap p).run limits src pos).exec s
              = ((u.chain p.mapValue).run limits src pos).exec s)
          ∧ (p.mark.run limits src pos).exec s
              = (((p.run limits src pos).outcome s).map (Reply.marked src pos),
                  (p.run limits src pos).after s) :=
  ⟨map_runsAs hp f, andThen_runsAs hp hq, skip_runsAs hp hq, seq_runsAs hps,
    seqMap_runsAs hps g, fun _ hs limits src pos =>
      ⟨exec_run_ap hu hp hs, exec_run_mark hp hs limits src pos⟩⟩

/-- The same list and marks as a sequence, which merges forward, and as a nested chain. The
mark in front is missing, and the function that stands for it is called with the list. -/
theorem sequences_as_chains_lists :
    let p := lazy 0
    let q := literal "?"
    let u := (literal "!").optional (.function .id)
    let r : Record := ⟨3, [.text "'!'", .text "'?'"]⟩
    let list : Reply := .success 3 (.list [.text "1"]) ⟨2, [.text "','"]⟩
    p.IsLibrary ∧ q.IsLibrary ∧ u.IsLibrary ∧ (∀ p' ∈ [p, u, q], p'.IsLibrary)
      ∧ ((seq [p, u, q]).run ⟨3, 4⟩ "[1]" (0 : Nat)).outcome .lists = .ok (.failure r)
      ∧ ((chainAll [p, u, q] fun vs => succeed (.list vs)).run
            ⟨3, 4⟩ "[1]" (0 : Nat)).outcome .lists
          = .ok (.failure r)
      ∧ (u.run ⟨3, 4⟩ "[1]" (0 : Nat)).outcome .lists
          = .ok (.success 0 (.function .id) ⟨0, [.text "'!'"]⟩)
      ∧ ((u.ap p).run ⟨3, 4⟩ "[1]" (0 : Nat)).outcome .lists = .ok list
      ∧ ((u.chain p.mapValue).run ⟨3, 4⟩ "[1]" (0 : Nat)).outcome .lists = .ok list := by
  intro p q u r list
  have hp : p.IsLibrary := .lazy (fun _ => IsPlain.isLibrary) 0
  have hq : q.IsLibrary := .literal (fun _ => IsPlain.isLibrary) "?"
  have hu : u.IsLibrary :=
    .optional (fun _ => IsPlain.isLibrary) (.literal (fun _ => IsPlain.isLibrary) "!") _
  have hps : ∀ p' ∈ [p, u, q], p'.IsLibrary := by
    rw [List.forall_mem_cons, List.forall_mem_cons, List.forall_mem_singleton]
    exact ⟨hp, hu, hq⟩
  have hs : Store.lists.Admits IsLibrary :=
    Store.lists_admits (fun _ => IsPlain.isLibrary) ⟨id, trivial⟩
  have hrun : ((seq [p, u, q]).run ⟨3, 4⟩ "[1]" (0 : Nat)).outcome .lists
      = .ok (.failure r) := rfl
  have hmark : (u.run ⟨3, 4⟩ "[1]" (0 : Nat)).outcome .lists
      = .ok (.success 0 (.function .id) ⟨0, [.text "'!'"]⟩) := rfl
  have happlied : ((u.ap p).run ⟨3, 4⟩ "[1]" (0 : Nat)).outcome .lists = .ok list := rfl
  obtain ⟨-, -, -, hseq, -, hlast⟩ := sequences_as_chains hp hq hu hps pure fun _ => pure .none
  obtain ⟨hap, -⟩ := hlast _ hs ⟨3, 4⟩ "[1]" 0
  refine ⟨hp, hq, hu, hps, hrun, ?_, hmark, happlied, ?_⟩
  · rw [← hrun, Run.outcome, Run.outcome, hseq _ hs]
  · rw [← happlied, Run.outcome, Run.outcome, hap]
    rintro i v record h
    cases hmark.symm.trans h
    exact ⟨.id, rfl⟩

end Parser

end Furthest
