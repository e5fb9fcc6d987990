import Furthest.Proofs.Choices
import Furthest.Proofs.Repetition

/-!
# Elements and Separators

A list of elements with separators between them is an element and then a repetition of
pairs, each of a separator and an element behind it. The repetition takes a pair as a whole
or not at all: where a separator matches and no element follows it, the list ends in front
of the separator. And it stops at a pair that has taken no character, as every repetition
does.

The pair is a chain, whose two runs are told apart by `Parser.exec_chain_cases`. With it the
matches of pairs become matches of separators and elements in turn
(`Parser.pairs_of_matches`), and what is known of repetitions becomes what is known of
lists.

## Main results

* `Parser.exec_chain_cases`: what a chain comes to.
* `Parser.exists_limits_chain`: a chain terminates if its parts do.
* `Parser.sepBy1_refuses_iff`: a list fails if and only if its first element does.
* `Parser.separated_of_sepBy1`: what a list that matches consists of, and why it ends.
* `Parser.sepBy_elements`: **lists of elements with separators between them.**
-/

namespace Furthest

/-- What a reply says without its record: the index and the value of a match. -/
def Reply.result : Reply → Option (Int × Value)
  | success index value _ => some (index, value)
  | failure _ => none

namespace Parser

variable {p q : Parser} {f : Value → Parser} {limits : Limits} {src : Text} {s t u : Store}
  {pos i index : Nat} {v : Value} {ms : List Match}

/-! ### What a chain comes to -/

theorem exec_chain_of_failure {record : Record}
    (h : (p.run limits src pos).exec s = (.ok (.failure record), t)) :
    ((p.chain f).run limits src pos).exec s = (.ok (.failure record), t) :=
  Run.exec_bind_of_ok h

section

variable (hp : p.IsLibrary) (hf : ∀ v, (f v).IsLibrary) (hs : s.Admits IsLibrary)
include hp hf hs

/-- What a chain comes to where its first parser matches, but for the record. -/
theorem exec_chain_of_success {record : Record}
    (h : (p.run limits src pos).exec s = (.ok (.success i v record), t))
    {r : Except Stop Reply} (hn : ((f v).run limits src i).exec t = (r, u)) :
    ∃ r', ((p.chain f).run limits src pos).exec s = (r', u)
      ∧ r'.map Reply.result = r.map Reply.result := by
  obtain ⟨l, hl⟩ := exec_ledger_of_success hp hs h
  have ht := (Store.later_of_exec_run h).admits hs
  rcases hk : ((f v).runLedger limits src i).exec t with ⟨o, u'⟩
  have hchain : ((p.chain f).runLedger limits src pos).exec s = _ :=
    LedgerAction.exec_chain_of_some hl hk
  cases hn.symm.trans (exec_run_of_ledger (hf v) ht hk)
  refine ⟨_, exec_run_of_ledger (hp.chain hf) hs hchain, ?_⟩
  rcases o with e | ⟨_ | ⟨j, w⟩, k⟩
  all_goals rfl

/-- **What a chain comes to.** Either its first parser is broken off or does not match, and
so does the chain, or it matches, and then the chain comes to what the second one comes to,
but for the record. -/
theorem exec_chain_cases (limits : Limits) (src : Text) (pos : Nat) :
    (∃ e t, (p.run limits src pos).exec s = (.error e, t)
        ∧ ((p.chain f).run limits src pos).exec s = (.error e, t))
      ∨ (∃ record t, (p.run limits src pos).exec s = (.ok (.failure record), t)
        ∧ ((p.chain f).run limits src pos).exec s = (.ok (.failure record), t))
      ∨ ∃ (i : Nat) (v : Value) (record : Record) (t u : Store) (r r' : Except Stop Reply),
        (p.run limits src pos).exec s = (.ok (.success i v record), t)
          ∧ ((f v).run limits src i).exec t = (r, u)
          ∧ ((p.chain f).run limits src pos).exec s = (r', u)
          ∧ r'.map Reply.result = r.map Reply.result := by
  rcases h : (p.run limits src pos).exec s with ⟨e | ⟨j, v, record⟩ | record, t⟩
  · exact .inl ⟨e, t, rfl, Run.exec_bind_of_error h⟩
  · obtain ⟨⟨_ | ⟨i, w⟩, l⟩, -, hr⟩ := exists_ledger_of_run hp hs h
    all_goals cases hr
    obtain ⟨r', hchain, hresult⟩ := exec_chain_of_success hp hf hs h rfl
    exact .inr (.inr ⟨i, v, _, t, _, _, r', rfl, rfl, hchain, hresult⟩)
  · exact .inr (.inl ⟨record, t, rfl, exec_chain_of_failure h⟩)

/-- A chain that matches. -/
theorem exists_of_chain_success {j : Int} {w : Value} {record : Record}
    (h : ((p.chain f).run limits src pos).exec s = (.ok (.success j w record), u)) :
    ∃ (i : Nat) (v : Value) (first second : Record) (t : Store),
      (p.run limits src pos).exec s = (.ok (.success i v first), t)
        ∧ ((f v).run limits src i).exec t = (.ok (.success j w second), u) := by
  obtain ⟨e, t, -, hchain⟩ | ⟨r, t, -, hchain⟩ |
      ⟨i, v, first, t, u', r, r', hfirst, hnext, hchain, hr⟩ :=
    exec_chain_cases hp hf hs limits src pos
  · cases h.symm.trans hchain
  · cases h.symm.trans hchain
  · cases h.symm.trans hchain
    rcases r with e | ⟨k, x, second⟩ | r
    all_goals cases hr
    exact ⟨i, v, first, second, t, hfirst, hnext⟩

/-- A chain that does not match. -/
theorem chain_refuses_iff :
    (p.chain f).Refuses limits src pos s ↔ p.Refuses limits src pos s
      ∨ ∃ (i : Nat) (v : Value) (record : Record) (t : Store),
        (p.run limits src pos).exec s = (.ok (.success i v record), t)
          ∧ (f v).Refuses limits src i t := by
  simp only [Refuses, Run.outcome]
  obtain ⟨e, t, hfirst, hchain⟩ | ⟨r, t, hfirst, hchain⟩ |
      ⟨i, v, first, t, u, r, r', hfirst, hnext, hchain, hr⟩ :=
    exec_chain_cases hp hf hs limits src pos
  · simp [hfirst, hchain]
  · simp [hfirst, hchain]
  · rw [hchain, hfirst]
    constructor
    · rintro ⟨record, rfl⟩
      rcases r with e | ⟨k, x, second⟩ | second
      all_goals cases hr
      exact .inr ⟨i, v, first, t, rfl, second, congrArg Prod.fst hnext⟩
    · rintro (⟨record, ⟨⟩⟩ | ⟨j, w, record, t', heq, second, hsecond⟩)
      obtain ⟨rfl, rfl⟩ : w = v ∧ t' = t := by cases heq; exact ⟨rfl, rfl⟩
      obtain rfl : i = j := by cases heq; rfl
      rw [hnext] at hsecond
      subst hsecond
      rcases r' with e | ⟨k, x, third⟩ | third
      all_goals cases hr
      exact ⟨third, rfl⟩

/-- A chain that is broken off. -/
theorem chain_broken {e : Stop} (h : ((p.chain f).run limits src pos).outcome s = .error e) :
    (p.run limits src pos).outcome s = .error e
      ∨ ∃ (i : Nat) (v : Value) (record : Record) (t : Store),
        (p.run limits src pos).exec s = (.ok (.success i v record), t)
          ∧ ((f v).run limits src i).outcome t = .error e := by
  rw [Run.outcome] at h
  obtain ⟨e, t, hfirst, hchain⟩ | ⟨r, t, -, hchain⟩ |
      ⟨i, v, first, t, u, r, r', hfirst, hnext, hchain, hr⟩ :=
    exec_chain_cases hp hf hs limits src pos
  · rw [hchain] at h
    exact .inl ((congrArg Prod.fst hfirst).trans h)
  · rw [hchain] at h
    cases h
  · rw [hchain] at h
    obtain rfl : r' = .error e := h
    rcases r with e | r
    all_goals cases hr
    exact .inr ⟨i, v, first, t, hfirst, congrArg Prod.fst hnext⟩

/-- **A chain terminates** if its first parser does, and the second one where the first one
has matched. -/
theorem exists_limits_chain
    (h : ∃ limits, (p.run limits src pos).outcome s ≠ .error .exhausted)
    (hnext : ∀ limits (i : Nat) v record t,
      (p.run limits src pos).exec s = (.ok (.success i v record), t) →
        ∃ limits, ((f v).run limits src i).outcome t ≠ .error .exhausted) :
    ∃ limits, ((p.chain f).run limits src pos).outcome s ≠ .error .exhausted := by
  obtain ⟨first, hfirst⟩ := h
  by_cases hmatch : ∃ (i : Nat) (v : Value) (record : Record) (t : Store),
      (p.run first src pos).exec s = (.ok (.success i v record), t)
  · obtain ⟨i, v, record, t, hexec⟩ := hmatch
    obtain ⟨second, hsecond⟩ := hnext first i v record t hexec
    let limits : Limits := ⟨max first.depth second.depth, max first.rounds second.rounds⟩
    have hexec' : (p.run limits src pos).exec s = (.ok (.success i v record), t) :=
      (exec_run_of_le (Nat.le_max_left ..) (Nat.le_max_left ..) hfirst).trans hexec
    refine ⟨limits, fun hbroken => ?_⟩
    obtain hp' | ⟨j, w, record', t', hexec'', hf'⟩ := chain_broken hp hf hs hbroken
    · rw [Run.outcome, hexec'] at hp'
      cases hp'
    · cases hexec'.symm.trans hexec''
      rw [Run.outcome,
        exec_run_of_le (Nat.le_max_right ..) (Nat.le_max_right ..) hsecond] at hf'
      exact hsecond hf'
  · refine ⟨first, fun hbroken => ?_⟩
    obtain hp' | ⟨j, w, record', t', hexec, -⟩ := chain_broken hp hf hs hbroken
    · exact hfirst hp'
    · exact hmatch ⟨j, w, record', t', hexec⟩

end

/-! ### Separators and elements in turn -/

/-- What a list does behind its first element: the pairs, whose values are put behind its
value. -/
def others (p q : Parser) (v : Value) : Parser :=
  (q.andThen p).many.chain fun w => succeed (.list (v :: w.items))

theorem IsLibrary.others (hp : p.IsLibrary) (hq : q.IsLibrary) (v : Value) :
    (others p q v).IsLibrary :=
  ((hq.andThen hp).times 0 none).chain fun _ => isLibrary_succeed _

/-- A list is its first element and then the others. -/
theorem sepBy1_runsAs (hp : p.IsLibrary) (hq : q.IsLibrary) :
    (p.sepBy1 q).RunsAs (p.chain (others p q)) := by
  refine .of_evalLedger (hp.seqMapPair ((hq.andThen hp).times 0 none) _)
    (hp.chain (hp.others hq))
    fun rounds lazies => ?_
  rw [sepBy1, evalLedger_seqMap_pair]
  simp only [others, evalLedger, consValues, LedgerAction.perform_pure]
  rfl

/-- A separator and an element behind it match again and again, from an offset to an index.
Each match starts where the separator does; its value is that of the element. -/
inductive Pairs (p q : Parser) (limits : Limits) (src : Text) :
    Store → Nat → List Match → Nat → Store → Prop
  | nil (s : Store) (pos : Nat) : Pairs p q limits src s pos [] pos s
  | cons {s t u w : Store} {pos j i index : Nat} {separator v : Value} {first second : Record}
      {ms : List Match}
      (hq : (q.run limits src pos).exec s = (.ok (.success j separator first), t))
      (hp : (p.run limits src j).exec t = (.ok (.success i v second), u))
      (hs : Pairs p q limits src u i ms index w) :
      Pairs p q limits src s pos (⟨pos, v, i⟩ :: ms) index w

/-- A separator matches at an offset, and no element behind it. -/
def Dangles (p q : Parser) (limits : Limits) (src : Text) (pos : Nat) (s : Store) : Prop :=
  ∃ (j : Nat) (separator : Value) (record : Record) (t : Store),
    (q.run limits src pos).exec s = (.ok (.success j separator record), t)
      ∧ p.Refuses limits src j t

/-- Elements with separators between them, from an offset to an index: the first element,
the pairs behind it, and the reason why there are no more. -/
structure Separated (p q : Parser) (limits : Limits) (src : Text) (s : Store)
    (pos : Nat) (v : Value) (start : Nat) (ms : List Match) (index : Nat) (t u : Store) :
    Prop where
  /-- The first element matches at the offset. -/
  first : ∃ record, (p.run limits src pos).exec s = (.ok (.success start v record), t)
  /-- The others follow it, each behind a separator. -/
  others : Pairs p q limits src t start ms index u
  /-- At the index there is no separator, or one without an element behind it, or the last
  pair has taken no character. -/
  stopped : q.Refuses limits src index u ∨ Dangles p q limits src index u
    ∨ ∃ m, ms.getLast? = some m ∧ m.start = m.stop
  /-- All pairs before the last one have taken characters. -/
  advances : ∀ m ∈ ms.dropLast, m.start ≠ m.stop

/-- A fault on the way through a list: that of its first element, or, behind pairs that
match, that of a separator or of an element behind one. -/
inductive FaultsOnTheWay (p q : Parser) (limits : Limits) (src : Text) (s : Store) (pos : Nat)
    (fault : Fault) : Prop
  | first (h : (p.run limits src pos).outcome s = .error (.fault fault))
  | separator {start i : Nat} {v : Value} {record : Record} {t u : Store} {ms : List Match}
      (hfirst : (p.run limits src pos).exec s = (.ok (.success start v record), t))
      (hothers : Pairs p q limits src t start ms i u)
      (h : (q.run limits src i).outcome u = .error (.fault fault))
  | element {start i j : Nat} {v separator : Value} {record record' : Record} {t u w : Store}
      {ms : List Match}
      (hfirst : (p.run limits src pos).exec s = (.ok (.success start v record), t))
      (hothers : Pairs p q limits src t start ms i u)
      (hq : (q.run limits src i).exec u = (.ok (.success j separator record'), w))
      (h : (p.run limits src j).outcome w = .error (.fault fault))

section

variable (hp : p.IsLibrary) (hq : q.IsLibrary) (hs : s.Admits IsLibrary)
include hp hq hs

/-- Pairs that match are separators and elements that match in turn. -/
theorem pairs_of_matches (h : (q.andThen p).Matches limits src s pos ms index t) :
    Pairs p q limits src s pos ms index t := by
  induction h with
  | nil => exact .nil _ _
  | @cons s t u pos i index v record ms h _ ih =>
      have ht := (Store.later_of_exec_run h).admits hs
      rw [andThen_runsAs hq hp s hs] at h
      obtain ⟨j, w, first, second, t', hfirst, hsecond⟩ :=
        exists_of_chain_success hq (fun _ => hp) hs h
      exact .cons hfirst hsecond (ih ht)

/-- Where no pair matches, there is no separator, or one without an element behind it. -/
theorem refuses_or_dangles (h : (q.andThen p).Refuses limits src pos s) :
    q.Refuses limits src pos s ∨ Dangles p q limits src pos s := by
  rw [Refuses, Run.outcome, andThen_runsAs hq hp s hs] at h
  exact (chain_refuses_iff hq (fun _ => hp) hs).mp h

/-! ### Lists -/

/-- The others never fail. -/
theorem not_refuses_others (v : Value) : ¬ (others p q v).Refuses limits src pos s := by
  have hpair := hq.andThen hp
  intro h
  obtain hr | ⟨i, w, record, t, -, record', ⟨⟩⟩ :=
    (chain_refuses_iff (hpair.times 0 none) (fun _ => isLibrary_succeed _) hs).mp h
  obtain ⟨ms, i, t, -, hlt, -⟩ := (times_refuses_iff hpair hs 0 none).mp hr
  exact Nat.not_lt_zero _ hlt

/-- **A list fails if and only if its first element does.** -/
theorem sepBy1_refuses_iff :
    (p.sepBy1 q).Refuses limits src pos s ↔ p.Refuses limits src pos s := by
  rw [Refuses, Run.outcome, sepBy1_runsAs hp hq s hs]
  refine (chain_refuses_iff hp (hp.others hq) hs).trans (or_iff_left ?_)
  rintro ⟨i, v, record, t, h, hr⟩
  exact not_refuses_others hp hq ((Store.later_of_exec_run h).admits hs) v hr

/-- **A list that matches** is an element and pairs behind it, and ends for a reason. -/
theorem separated_of_sepBy1 {j : Int} {w : Value} {record : Record}
    (h : ((p.sepBy1 q).run limits src pos).outcome s = .ok (.success j w record)) :
    ∃ v start ms index t u, j = (index : Nat) ∧ w = .list (v :: ms.map Match.value)
      ∧ Separated p q limits src s pos v start ms index t u := by
  have hpair := hq.andThen hp
  rw [Run.outcome, sepBy1_runsAs hp hq s hs] at h
  obtain ⟨start, v, first, second, t, hfirst, hsecond⟩ :=
    exists_of_chain_success hp (hp.others hq) hs (Prod.ext h rfl)
  have ht := (Store.later_of_exec_run hfirst).admits hs
  obtain ⟨i, x, third, fourth, t', hmany, hlist⟩ :=
    exists_of_chain_success (hpair.times 0 none) (fun _ => isLibrary_succeed _) ht hsecond
  have hle : ∀ n, (none : Option Nat) = some n → 0 ≤ n := fun _ _ => Nat.zero_le _
  obtain ⟨ms, index, hi, rfl, hrep, -⟩ :=
    repetition_of_times hpair ht hle (congrArg Prod.fst hmany)
  obtain rfl : i = index := Int.ofNat_inj.mp hi
  cases hlist
  obtain ⟨u, hms, hstop⟩ := hrep.stopped
  refine ⟨v, start, ms, i, t, u, rfl, rfl, ⟨first, hfirst⟩, pairs_of_matches hp hq ht hms, ?_,
    hrep.advances rfl⟩
  obtain hfull | hrefuses | ⟨-, -, hidle⟩ := hstop
  · cases hfull
  · exact or_assoc.mp (.inl (refuses_or_dangles hp hq (hms.later.admits ht) hrefuses))
  · exact .inr (.inr hidle)

/-- **A fault of a list** is that of a run on the way. -/
theorem fault_of_sepBy1 {fault : Fault}
    (h : ((p.sepBy1 q).run limits src pos).outcome s = .error (.fault fault)) :
    FaultsOnTheWay p q limits src s pos fault := by
  have hpair := hq.andThen hp
  rw [Run.outcome, sepBy1_runsAs hp hq s hs] at h
  obtain hfault | ⟨start, v, record, t, hfirst, hothers⟩ := chain_broken hp (hp.others hq) hs h
  · exact .first hfault
  have ht := (Store.later_of_exec_run hfirst).admits hs
  obtain hmany | ⟨i, w, record', t', -, ⟨⟩⟩ :=
    chain_broken (hpair.times 0 none) (fun _ => isLibrary_succeed _) ht hothers
  obtain ⟨ms, j, t', ns, i, u, hms, hns, -, -, -, hend⟩ := broken_of_times hpair ht hmany
  have hrun := hms.append hns
  have hpairs := pairs_of_matches hp hq ht hrun
  obtain hend | ⟨⟨⟩, -⟩ := hend
  rw [Run.outcome, andThen_runsAs hq hp u (hrun.later.admits ht)] at hend
  obtain hfault | ⟨j, w, record', u', hseparator, hfault⟩ :=
    chain_broken hq (fun _ => hp) (hrun.later.admits ht) hend
  · exact .separator hfirst hpairs hfault
  · exact .element hfirst hpairs hseparator hfault

/-- A list that may be missing and is not there. -/
theorem exec_sepBy_of_failure {record : Record}
    (h : (p.run limits src pos).exec s = (.ok (.failure record), t)) :
    ((p.sepBy q).run limits src pos).exec s = (.ok (.success pos (.list []) record), t) := by
  have hlist : (p.sepBy1 q).IsLibrary := hp.seqMapPair ((hq.andThen hp).times 0 none) _
  have hempty : ((succeed .none).map fun _ => pure (Value.list [])).IsLibrary :=
    (isLibrary_succeed _).map _
  have hexec := sepBy1_runsAs hp hq s hs limits src pos
  rw [exec_chain_of_failure h] at hexec
  obtain ⟨⟨_ | ⟨i, v⟩, l⟩, hl, hr⟩ := exists_ledger_of_run hlist hs hexec
  all_goals cases hr
  have hchoice : ((p.sepBy q).runLedger limits src pos).exec s
      = (.ok (.behind ⟨some (pos, .list []), []⟩ l), t) := by
    rw [sepBy, runLedger_choice]
    have hnone :
        (((succeed .none).map fun _ => pure (.list [])).runLedger limits src pos).exec t
          = (.ok ⟨some (pos, .list []), []⟩, t) := rfl
    exact LedgerAction.exec_pair_of_none hl hnone
  have hrun := exec_run_of_ledger (hlist.choice hempty) hs hchoice
  rwa [Attempt.behind, List.append_nil] at hrun

end

/-- A list that is there. -/
theorem exec_sepBy_of_not_refuses (h : ¬ (p.sepBy1 q).Refuses limits src pos s) :
    ((p.sepBy q).run limits src pos).exec s = ((p.sepBy1 q).run limits src pos).exec s := by
  rcases hexec : ((p.sepBy1 q).run limits src pos).exec s with ⟨e | ⟨j, v, record⟩ | record, t⟩
  · exact Run.exec_bind_of_error hexec
  · exact Run.exec_bind_of_ok hexec
  · exact absurd ⟨record, congrArg Prod.fst hexec⟩ h

/-! ### Termination -/

theorem Terminates.of_later (h : p.Terminates src pos s) (ht : s.Later t) (hi : pos ≤ i) :
    p.Terminates src i t := fun _ hu _ hj => h _ (ht.trans hu) _ (hi.trans hj)

/-- Two parsers in a row terminate if both do. -/
theorem Terminates.andThen (hp : p.IsLibrary) (hq : q.IsLibrary) (hs : s.Admits IsLibrary)
    (h : p.Terminates src pos s) (h' : q.Terminates src pos s) :
    (q.andThen p).Terminates src pos s := by
  intro t ht i hi hle
  simp only [Run.outcome, andThen_runsAs hq hp t (ht.admits hs)]
  refine exists_limits_chain hq (fun _ => hp) (ht.admits hs) (h' t ht i hi hle) ?_
  intro limits j v record u hexec
  obtain ⟨k, hk, lower, upper⟩ :=
    exists_index_of_run hq (ht.admits hs) hle (congrArg Prod.fst hexec)
  obtain rfl : j = k := Int.ofNat_inj.mp hk
  exact h u (ht.trans (Store.later_of_exec_run hexec)) j (hi.trans lower) upper

/-- **A list terminates** if its elements and separators do. -/
theorem sepBy1_terminates (hp : p.IsLibrary) (hq : q.IsLibrary) (hs : s.Admits IsLibrary)
    (hpos : pos ≤ src.length) (hpt : p.Terminates src pos s) (hqt : q.Terminates src pos s) :
    ∃ limits, ((p.sepBy1 q).run limits src pos).outcome s ≠ .error .exhausted := by
  have hpair := hq.andThen hp
  simp only [Run.outcome, sepBy1_runsAs hp hq s hs]
  refine exists_limits_chain hp (hp.others hq) hs (hpt s .start pos (le_refl _) hpos) ?_
  intro limits i v record t hexec
  have hlater := Store.later_of_exec_run hexec
  obtain ⟨k, hk, lower, upper⟩ := exists_index_of_run hp hs hpos (congrArg Prod.fst hexec)
  obtain rfl : i = k := Int.ofNat_inj.mp hk
  have hpairt := (hpt.andThen hp hq hs hqt).of_later hlater lower
  refine exists_limits_chain (hpair.times 0 none) (fun _ => isLibrary_succeed _)
    (hlater.admits hs)
    (times_terminates hpair (hlater.admits hs) upper hpairt 0 none) ?_
  rintro - j w record t -
  refine ⟨⟨0, 0⟩, ?_⟩
  rintro ⟨⟩

/-! ### Elements and separators -/

/-- **Lists of elements with separators between them.** If the runs of elements and
separators terminate, so do those of the lists. A list of at least one element fails if and
only if there is no element at its offset. Otherwise its value is the list of the values of
the elements, which match in turn with the separators, and its index is where the last
element ends: behind it there is no separator, or there is one with no element behind it, or
the last separator and element have taken no character. The only other way in which it can
end is a fault on the way. A list that may be empty does the same where there is an element,
and else it is empty, at the same offset and with the record of the element that has
failed. -/
theorem sepBy_elements (hp : p.IsLibrary) (hq : q.IsLibrary) (hs : s.Admits IsLibrary) :
    (pos ≤ src.length → p.Terminates src pos s → q.Terminates src pos s →
        ∃ limits, ((p.sepBy1 q).run limits src pos).outcome s ≠ .error .exhausted)
      ∧ ∀ limits,
        ((p.sepBy1 q).Refuses limits src pos s ↔ p.Refuses limits src pos s)
        ∧ (∀ j w record,
          ((p.sepBy1 q).run limits src pos).outcome s = .ok (.success j w record) →
            ∃ v start ms index t u, j = (index : Nat) ∧ w = .list (v :: ms.map Match.value)
              ∧ Separated p q limits src s pos v start ms index t u)
        ∧ (∀ fault, ((p.sepBy1 q).run limits src pos).outcome s = .error (.fault fault) →
          FaultsOnTheWay p q limits src s pos fault)
        ∧ (¬ p.Refuses limits src pos s →
          ((p.sepBy q).run limits src pos).exec s = ((p.sepBy1 q).run limits src pos).exec s)
        ∧ ∀ record t, (p.run limits src pos).exec s = (.ok (.failure record), t) →
          ((p.sepBy q).run limits src pos).exec s
            = (.ok (.success pos (.list []) record), t) := by
  refine ⟨sepBy1_terminates hp hq hs, fun limits => ⟨?_, ?_, ?_, ?_, ?_⟩⟩
  · exact sepBy1_refuses_iff hp hq hs
  · exact fun _ _ _ => separated_of_sepBy1 hp hq hs
  · exact fun _ => fault_of_sepBy1 hp hq hs
  · exact fun h => exec_sepBy_of_not_refuses ((sepBy1_refuses_iff hp hq hs).not.mpr h)
  · exact fun _ _ => exec_sepBy_of_failure hp hq hs

/-- Digits and commas. The last comma has no digit behind it, and the list ends in front of
it. At a comma there is no list, or an empty one. -/
theorem sepBy_elements_digits :
    let p := alternatives [literal "1", literal "2"]
    let q := literal ","
    let src : Text := "1,2,"
    let limits : Limits := ⟨0, 5⟩
    let v := Value.list [.text "1", .text "2"]
    (p.Terminates src 0 .lists ∧ q.Terminates src 0 .lists)
      ∧ (∃ limits, ((p.sepBy1 q).run limits src (0 : Nat)).outcome .lists ≠ .error .exhausted)
      ∧ ((p.sepBy1 q).run limits src (0 : Nat)).outcome .lists
          = .ok (.success 3 v ⟨4, [.text "'1'", .text "'2'"]⟩)
      ∧ (∃ w start ms t u, v = .list (w :: ms.map Match.value)
          ∧ Separated p q limits src .lists 0 w start ms 3 t u)
      ∧ (p.Refuses limits src 1 .lists ∧ (p.sepBy1 q).Refuses limits src 1 .lists)
      ∧ ((p.sepBy q).run limits src (1 : Nat)).exec .lists
          = (.ok (.success 1 (.list []) ⟨1, [.text "'1'", .text "'2'"]⟩), .lists) := by
  intro p q src limits v
  have hp : p.IsLibrary :=
    .orElse (fun _ => IsPlain.isLibrary) (.literal (fun _ => IsPlain.isLibrary) "1")
      (.literal (fun _ => IsPlain.isLibrary) "2")
  have hq : q.IsLibrary := .literal (fun _ => IsPlain.isLibrary) ","
  have hs : Store.lists.Admits IsLibrary :=
    Store.lists_admits (fun _ => IsPlain.isLibrary) ⟨id, trivial⟩
  have hoffset (i : Nat) (hi : i ≤ src.length) : i = 0 ∨ i = 1 ∨ i = 2 ∨ i = 3 ∨ i = 4 := by
    have hlength : src.length = 4 := rfl
    omega
  have hpt : p.Terminates src 0 .lists := by
    intro t _ i _ hi
    refine ⟨limits, ?_⟩
    obtain rfl | rfl | rfl | rfl | rfl := hoffset i hi
    all_goals rintro ⟨⟩
  have hqt : q.Terminates src 0 .lists := by
    intro t _ i _ hi
    refine ⟨limits, ?_⟩
    obtain rfl | rfl | rfl | rfl | rfl := hoffset i hi
    all_goals rintro ⟨⟩
  have hrun : ((p.sepBy1 q).run limits src (0 : Nat)).outcome .lists
      = .ok (.success 3 v ⟨4, [.text "'1'", .text "'2'"]⟩) := rfl
  have hfail : (p.run limits src (1 : Nat)).exec .lists
      = (.ok (.failure ⟨1, [.text "'1'", .text "'2'"]⟩), .lists) := rfl
  obtain ⟨hterm, hstart⟩ := @sepBy_elements p q src .lists 0 hp hq hs
  obtain ⟨-, hmatch, -⟩ := hstart limits
  obtain ⟨w, start, ms, index, t, u, hindex, hv, hsep⟩ := hmatch 3 v _ hrun
  obtain rfl : 3 = index := Int.ofNat_inj.mp hindex
  obtain ⟨-, hbehind⟩ := @sepBy_elements p q src .lists 1 hp hq hs
  obtain ⟨hrefuses, -, -, -, hempty⟩ := hbehind limits
  have hno : p.Refuses limits src 1 .lists := ⟨_, congrArg Prod.fst hfail⟩
  exact ⟨⟨hpt, hqt⟩, hterm (Nat.zero_le _) hpt hqt, hrun,
    ⟨w, start, ms, t, u, hv, hsep⟩, ⟨hno, hrefuses.mpr hno⟩, hempty _ _ hfail⟩

end Parser

end Furthest
