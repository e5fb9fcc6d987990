import Furthest.Proofs.Sequencing

/-!
# Laws of Repetition

A repetition is a loop that carries its values, its failures and its offset from round to
round. The loop can be taken apart at any round: what comes before is a sequence of as many
copies of the parser, and what comes behind is a repetition of its own, which starts from
nothing. So repetitions decompose into sequences and choices of shorter repetitions, with
equal replies at every point at which a round may fail, and a round that matches the empty
text is no exception.

All laws are about whole runs. The main step is that a loop with something behind it is the
loop from nothing, with that put in front of its result.

## Main results

* `LedgerAction.repeated_eq_chainAll`: a repetition is a sequence and the rounds that are
  optional.
* `LedgerAction.repeated_add`: a repetition can be cut behind any of its required rounds.
* `LedgerAction.atMost_succ`: an optional round is a choice between going on and ending
  here.
* `Parser.repetitions_decompose`: **repetitions decompose.**
-/

namespace Furthest

namespace LedgerAction

variable {a b : LedgerAction} {src : Text} {rounds : Nat}

/-! ### Loops with something behind them -/

/-- The attempt of a repetition that goes on: the values so far stand in front of the later
ones, and so do the failures. -/
def Progress.resume (s : Progress) (t : Attempt) : Attempt :=
  ⟨t.result.map fun r => (r.1, .list (s.values.reverse ++ r.2.items)), s.ledger ++ t.ledger⟩

/-- Going on after a round, and then after what came before it. -/
theorem Progress.resume_next (s : Progress) (index : Nat) (value : Value) (l : Ledger)
    (t : Attempt) :
    s.resume ((Progress.next ⟨[], [], s.pos⟩ index value l).resume t)
      = (s.next index value l).resume t := by
  rcases t with ⟨_ | ⟨i, v⟩, k⟩ <;> simp [resume, next, Value.items]

/-- Ending is going on with nothing. -/
theorem Progress.resume_close (s : Progress) (l : Ledger) :
    s.resume (Progress.close ⟨[], l, s.pos⟩)
      = Progress.close { s with ledger := s.ledger ++ l } := by
  simp [resume, close, Value.items]

theorem upTo_eq_resume (n : Nat) (s : Progress) :
    upTo a src n s = s.resume <$> upTo a src n ⟨[], [], s.pos⟩ := by
  induction n generalizing s with
  | zero => simp only [upTo, map_pure, Progress.resume_close, List.append_nil]
  | succ n ih =>
      simp only [upTo, map_bind]
      refine bind_congr fun t => ?_
      rcases t with ⟨_ | ⟨index, value⟩, l⟩
      · simp only [map_pure, List.nil_append, Progress.resume_close]
      · simp only [ih (s.next index value l), ih (Progress.next ⟨[], [], s.pos⟩ index value l),
          Functor.map_map, Progress.resume_next]
        rfl

theorem unbounded_eq_resume (n : Nat) (s : Progress) :
    unbounded a src n s = s.resume <$> unbounded a src n ⟨[], [], s.pos⟩ := by
  induction n generalizing s with
  | zero => rfl
  | succ n ih =>
      simp only [unbounded, map_bind]
      refine bind_congr fun t => ?_
      rcases t with ⟨_ | ⟨index, value⟩, l⟩
      · simp only [map_pure, List.nil_append, Progress.resume_close]
      · by_cases hindex : index = s.pos
        · simp only [hindex, if_true, map_pure]
          congr 1
          simp [Progress.resume, Progress.next, Progress.close, Value.items]
        · simp only [if_neg hindex, ih (s.next index value l),
            ih (Progress.next ⟨[], [], s.pos⟩ index value l), Functor.map_map,
            Progress.resume_next]
          rfl

/-- The optional rounds of a repetition, with something behind them, are those of a
repetition without required rounds. -/
theorem further_eq_resume (extra : Option Nat) (s : Progress) :
    further a rounds extra src s = s.resume <$> repeated a rounds 0 extra src s.pos := by
  cases extra with
  | none => exact unbounded_eq_resume rounds s
  | some n => exact upTo_eq_resume n s

/-! ### Required rounds -/

/-- Required rounds and what comes behind them are a sequence of as many copies of the
action, if what comes behind is an action of its own. -/
theorem required_eq_chainAll {finish : Progress → Run Attempt}
    (hf : ∀ s, finish s = s.resume <$> b src s.pos) (n : Nat) (s : Progress) :
    required a src finish n s
      = (do
          let t ← chainAll (List.replicate n a)
            (fun vs => chain b fun w => succeed (.list (s.values.reverse ++ (vs ++ w.items))))
            src s.pos
          return t.behind s.ledger) := by
  induction n generalizing s with
  | zero =>
      simp only [required, hf, List.replicate_zero, chainAll, chain, List.nil_append,
        ← bind_pure_comp, bind_assoc]
      refine bind_congr fun t => ?_
      rcases t with ⟨_ | ⟨index, value⟩, l⟩
      · simp only [Progress.resume, pure_bind, Attempt.behind, Option.map_none]
      · simp only [Progress.resume, succeed, pure_bind, Attempt.behind, Option.map_some,
          List.append_nil]
  | succ n ih =>
      simp only [required, List.replicate_succ, chainAll, chain, bind_assoc]
      refine bind_congr fun t => ?_
      rcases t with ⟨_ | ⟨index, value⟩, l⟩
      · simp only [pure_bind]
      · simp only [ih, Progress.next, bind_assoc, pure_bind, Attempt.behind_behind,
          List.reverse_cons, List.append_assoc, List.cons_append]
        rfl

/-- **A repetition is a sequence of its required rounds, and then the optional ones.** -/
theorem repeated_eq_chainAll (least : Nat) (extra : Option Nat) :
    repeated a rounds least extra
      = chainAll (List.replicate least a) fun vs =>
          chain (repeated a rounds 0 extra) fun w => succeed (.list (vs ++ w.items)) := by
  funext src pos
  rw [repeated, required_eq_chainAll (further_eq_resume extra), Attempt.bind_behind_nil]
  rfl

/-- Without optional rounds there is nothing behind the required ones. -/
theorem repeated_zero_zero : repeated a rounds 0 (some 0) = succeed (.list []) := rfl

/-- A fixed number of rounds is a sequence. -/
theorem repeated_exactly (least : Nat) :
    repeated a rounds least (some 0)
      = chainAll (List.replicate least a) fun vs => succeed (.list vs) := by
  simp only [repeated_eq_chainAll least, repeated_zero_zero, succeed_chain, Value.items,
    List.append_nil]

/-- Two sequences, one behind the other. -/
theorem chainAll_append (as bs : List LedgerAction) (finish : List Value → LedgerAction) :
    chainAll (as ++ bs) finish
      = chainAll as fun vs => chainAll bs fun ws => finish (vs ++ ws) := by
  induction as generalizing finish with
  | nil => rfl
  | cons a as ih =>
      simp only [List.cons_append, chainAll, ih]

/-- **A repetition can be cut behind any of its required rounds.** What comes behind the cut
is a repetition as well, with the optional rounds of the whole. -/
theorem repeated_add (m k : Nat) (extra : Option Nat) :
    repeated a rounds (m + k) extra
      = chain (repeated a rounds m (some 0)) fun v =>
          chain (repeated a rounds k extra) fun w => succeed (.list (v.items ++ w.items)) := by
  rw [repeated_exactly, repeated_eq_chainAll (m + k), List.replicate_add, chainAll_append,
    chainAll_chain]
  simp only [succeed_chain, repeated_eq_chainAll k, chainAll_chain, chain_assoc, Value.items,
    List.append_assoc]

/-! ### Optional rounds -/

/-- Optional rounds match at any rate, so that only matches matter for what comes behind
them. -/
theorem upTo_bind_congr {f g : Attempt → Run Attempt}
    (h : ∀ i v l, f ⟨some (i, v), l⟩ = g ⟨some (i, v), l⟩) (n : Nat) (s : Progress) :
    (upTo a src n s >>= f) = (upTo a src n s >>= g) := by
  induction n generalizing s with
  | zero => simp only [upTo, pure_bind, Progress.close, h]
  | succ n ih =>
      simp only [upTo, bind_assoc]
      refine bind_congr fun t => ?_
      rcases t with ⟨_ | ⟨index, value⟩, l⟩
      · simp only [pure_bind, Progress.close, h]
      · exact ih _

/-- A round that is optional comes before the rest of them, or else the repetition ends
where the round has been tried. -/
theorem atMost_succ (n : Nat) :
    repeated a rounds 0 (some (n + 1))
      = altFrom [] [chain a fun v =>
            chain (repeated a rounds 0 (some n)) fun w => succeed (.list (v :: w.items)),
          succeed (.list [])] := by
  funext src pos
  have hloop : repeated a rounds 0 (some (n + 1)) src pos = upTo a src (n + 1) ⟨[], [], pos⟩ :=
    rfl
  simp only [hloop, upTo, altFrom, chain, bind_assoc]
  refine bind_congr fun t => ?_
  rcases t with ⟨_ | ⟨index, value⟩, l⟩
  · simp [succeed, Attempt.behind, Progress.close]
  · have hrounds : repeated a rounds 0 (some n) src index = upTo a src n ⟨[], [], index⟩ := rfl
    simp only [hrounds, bind_assoc]
    rw [upTo_eq_resume, ← bind_pure_comp]
    -- the second alternative is never tried behind a first round that matches
    refine upTo_bind_congr (fun i v k => ?_) n _
    simp [succeed, Attempt.behind, Progress.resume, Progress.next]

end LedgerAction

namespace Parser

/-- Puts a list of values in front of another one. -/
def appendValues : List Value → Effect Value
  | [front, back] => pure (.list (front.items ++ back.items))
  | _ => Effect.raise .badArguments

variable {p q : Parser}

theorem IsLibrary.times (hp : p.IsLibrary) (least : Nat) (most : Option Nat) :
    (p.times least most).IsLibrary :=
  Throughout.times (fun _ => IsPlain.isLibrary) hp least most

theorem IsLibrary.seqMapPair (hp : p.IsLibrary) (hq : q.IsLibrary)
    (f : List Value → Effect Value) :
    (seqMap [p, q] f).IsLibrary := by
  refine Throughout.seqMap (fun _ => IsPlain.isLibrary) ?_ f
  rw [List.forall_mem_cons, List.forall_mem_singleton]
  exact ⟨hp, hq⟩

section

variable (rounds : Nat) (lazies : Nat → LedgerAction)

theorem evalLedger_times (p : Parser) (least : Nat) (most : Option Nat) :
    (p.times least most).evalLedger rounds lazies
      = .repeated (p.evalLedger rounds lazies) rounds least (most.map (· - least)) := rfl

/-- Two parsers whose values a function is called with. -/
theorem evalLedger_seqMap_pair (p q : Parser) (f : List Value → Effect Value) :
    (seqMap [p, q] f).evalLedger rounds lazies
      = .chain (p.evalLedger rounds lazies) fun v =>
          .chain (q.evalLedger rounds lazies) fun w => .perform (f [v, w]) := by
  rw [seqMap, evalLedger_map_seq]
  rfl

end

/-- A repetition with required rounds, cut behind some of them. -/
theorem times_runsAs (hp : p.IsLibrary) (m k : Nat) (extra : Option Nat) :
    (repeated p (m + k) extra).RunsAs
      (seqMap [p.times m (some m), repeated p k extra] appendValues) := by
  have hrepeated (least : Nat) (extra : Option Nat) : (repeated p least extra).IsLibrary := by
    refine .intro ⟨fun h => h, trivial⟩ ?_
    rintro _ ⟨⟩
    exact hp
  have hright := (hp.times m (some m)).seqMapPair (hrepeated k extra) appendValues
  refine .of_evalLedger (hrepeated _ _) hright fun rounds lazies => ?_
  rw [evalLedger_seqMap_pair]
  simp only [evalLedger, evalLedger_times, appendValues, LedgerAction.perform_pure,
    Option.map_some, Nat.sub_self]
  exact LedgerAction.repeated_add m k extra

/-- A fixed number of rounds is a sequence of copies. -/
theorem times_exactly_runsAs (hp : p.IsLibrary) (m : Nat) :
    (p.times m (some m)).RunsAs (seq (List.replicate m p)) := by
  have hright : (seq (List.replicate m p)).IsLibrary :=
    .seq fun q hq => List.eq_of_mem_replicate hq ▸ hp
  refine .of_evalLedger (hp.times m (some m)) hright fun rounds lazies => ?_
  simp only [evalLedger_times, evalLedger_seq, List.map_replicate,
    Option.map_some, Nat.sub_self, LedgerAction.repeated_exactly]

/-- An optional round is a choice between going on and ending here. -/
theorem atMost_succ_runsAs (hp : p.IsLibrary) (n : Nat) :
    (p.atMost (n + 1)).RunsAs
      (alternatives [seqMap [p, p.atMost n] consValues, succeed (.list [])]) := by
  have hmost (n : Nat) : (p.atMost n).IsLibrary := hp.times 0 (some n)
  have hround : (seqMap [p, p.atMost n] consValues).IsLibrary := hp.seqMapPair (hmost n) _
  have hright :
      (alternatives [seqMap [p, p.atMost n] consValues, succeed (.list [])]).IsLibrary :=
    .orElse (fun _ => IsPlain.isLibrary) hround (isLibrary_succeed _)
  refine .of_evalLedger (hmost (n + 1)) hright fun rounds lazies => ?_
  simp only [atMost, evalLedger_times, alternatives, evalLedger, evalLedgerAll,
    evalLedger_seqMap_pair, consValues, LedgerAction.perform_pure,
    Option.map_some, Nat.sub_zero]
  exact LedgerAction.atMost_succ n

/-- **Repetitions decompose**, with equal replies. A repetition can be cut behind a number
of its required rounds, and what comes behind may have more required rounds, or optional
ones up to a number or without end. A fixed number of rounds is a sequence, and an optional
round is a choice between going on and ending here. -/
theorem repetitions_decompose (hp : p.IsLibrary) (m k n : Nat) :
    (p.times (m + k) (some (m + k))).RunsAs
        (seqMap [p.times m (some m), p.times k (some k)] appendValues)
      ∧ (p.times m (some n)).RunsAs
        (seqMap [p.times m (some m), p.atMost (n - m)] appendValues)
      ∧ (p.atLeast m).RunsAs (seqMap [p.times m (some m), p.many] appendValues)
      ∧ (p.times m (some m)).RunsAs (seq (List.replicate m p))
      ∧ (p.atMost (n + 1)).RunsAs
          (alternatives [seqMap [p, p.atMost n] consValues, succeed (.list [])]) := by
  refine ⟨?_, times_runsAs hp m 0 (some (n - m)), times_runsAs hp m 0 none,
    times_exactly_runsAs hp m, atMost_succ_runsAs hp n⟩
  have hcut := times_runsAs hp m k (some 0)
  simpa only [times, Option.map_some, Nat.sub_self] using hcut

/-- A list or nothing, at least once. The round that matches the empty text keeps its value
and ends the repetition, behind the cut as well as without it. -/
theorem repetitions_decompose_lists :
    let p := (lazy 0).optional .none
    let src : Text := "[1]x"
    let r := Reply.success 3 (.list [.list [.text "1"], .none]) ⟨3, [.text "'['"]⟩
    p.IsLibrary
      ∧ ((p.atLeast 1).run ⟨3, 4⟩ src (0 : Nat)).outcome .lists = .ok r
      ∧ ((seqMap [p.times 1 (some 1), p.many] appendValues).run
            ⟨3, 4⟩ src (0 : Nat)).outcome .lists
          = .ok r := by
  intro p src r
  have hp : p.IsLibrary :=
    .optional (fun _ => IsPlain.isLibrary) (.lazy (fun _ => IsPlain.isLibrary) 0) .none
  have hs : Store.lists.Admits IsLibrary :=
    Store.lists_admits (fun _ => IsPlain.isLibrary) ⟨id, trivial⟩
  have hrun : ((p.atLeast 1).run ⟨3, 4⟩ src (0 : Nat)).outcome .lists = .ok r := rfl
  obtain ⟨-, -, hleast, -⟩ := repetitions_decompose hp 1 0 0
  refine ⟨hp, hrun, ?_⟩
  rw [← hrun, Run.outcome, Run.outcome, hleast _ hs]

end Parser

end Furthest
