import Furthest.Proofs.Bounds
import Furthest.Proofs.Resolution
import Furthest.Proofs.Rounds

/-!
# Repetition

What a repetition does, in terms of the runs of its parser. `Parser.Matches` lists runs that
match, each where the one before it has ended and in the store that it has left. A
repetition fails where such runs are too few and the next one fails. Otherwise they are its
values, and `Parser.Repetition` says how many there are and why there are no more.

That a repetition without an upper limit terminates has two reasons. A parser of the library
goes forward, and cannot match anything but the empty text more often than there are
characters left, and the first match of the empty text that is not required ends the
repetition. The limits of the repetition are put together from those of the runs on the way,
which are finitely many.

## Main results

* `Parser.Matches.tile`: runs that follow each other tile the text.
* `Parser.times_terminates`: a repetition terminates if its parser does.
* `Parser.times_refuses_iff`: a repetition fails if and only if a required run does.
* `Parser.times_repeats`: **repetition**, whatever it comes to.
-/

namespace Furthest

namespace Parser

variable {p : Parser} {limits : Limits} {src : Text} {g s t u : Store}
  {pos i index least : Nat} {most : Option Nat} {ms : List Match}

theorem IsLibrary.hasNoCustom (h : p.IsLibrary) : p.HasNoCustom := h.mono fun _ => And.left

/-- A match at an offset ends between the offset and the end of the text. -/
theorem exists_index_of_run (hp : p.IsLibrary) (hs : s.Admits IsLibrary)
    (hpos : pos ≤ src.length) {j : Int} {v : Value} {record : Record}
    (h : (p.run limits src pos).outcome s = .ok (.success j v record)) :
    ∃ i : Nat, j = i ∧ pos ≤ i ∧ i ≤ src.length := by
  cases within_of_run (fun _ => IsLibrary.hasNoCustom) hp.hasNoCustom hs hpos h with
  | success lower upper _ =>
      obtain ⟨i, rfl⟩ := Int.eq_ofNat_of_zero_le (le_trans (Int.natCast_nonneg pos) lower)
      exact ⟨i, rfl, Int.ofNat_le.mp lower, Int.ofNat_le.mp upper⟩

/-! ### Runs that follow each other -/

/-- A parser matches again and again, each time where the match before has ended and in the
store that it has left: from an offset to an index, with these matches. -/
inductive Matches (p : Parser) (limits : Limits) (src : Text) :
    Store → Nat → List Match → Nat → Store → Prop
  | nil (s : Store) (pos : Nat) : Matches p limits src s pos [] pos s
  | cons {s t u : Store} {pos i index : Nat} {v : Value} {record : Record} {ms : List Match}
      (h : (p.run limits src pos).exec s = (.ok (.success i v record), t))
      (hs : Matches p limits src t i ms index u) :
      Matches p limits src s pos (⟨pos, v, i⟩ :: ms) index u

/-- A parser does not match at an offset, in a store. -/
def Refuses (p : Parser) (limits : Limits) (src : Text) (pos : Nat) (s : Store) : Prop :=
  ∃ record, (p.run limits src pos).outcome s = .ok (.failure record)

theorem Matches.later (h : p.Matches limits src s pos ms i t) : s.Later t := by
  induction h with
  | nil s pos => exact .start
  | @cons s t u pos i index v record ms h _ ih =>
      exact (Store.later_of_exec_run h).trans ih

theorem Matches.append {ns : List Match} (h : p.Matches limits src s pos ms i t)
    (h' : p.Matches limits src t i ns index u) :
    p.Matches limits src s pos (ms ++ ns) index u := by
  induction h with
  | nil => exact h'
  | cons h _ ih => exact .cons h (ih h')

/-- **Matches of a parser of the library tile the text** between the offset and the index,
which does not lie behind the end. -/
theorem Matches.tile (h : p.Matches limits src s pos ms index t) (hp : p.IsLibrary)
    (hs : s.Admits IsLibrary) (hpos : pos ≤ src.length) :
    Match.Tile pos ms index ∧ index ≤ src.length := by
  induction h with
  | nil s pos => exact ⟨rfl, hpos⟩
  | @cons s t u pos i index v record ms h _ ih =>
      obtain ⟨k, hk, lower, upper⟩ := exists_index_of_run hp hs hpos (congrArg Prod.fst h)
      obtain rfl : i = k := Int.ofNat_inj.mp hk
      obtain ⟨htile, hindex⟩ := ih ((Store.later_of_exec_run h).admits hs) upper
      exact ⟨⟨rfl, lower, htile⟩, hindex⟩

/-! ### Runs and runs with a ledger -/

section

variable (hp : p.IsLibrary) (hs : s.Admits IsLibrary)
include hp hs

/-- A match is told by the ledger. -/
theorem exec_ledger_of_success {v : Value} {record : Record}
    (h : (p.run limits src pos).exec s = (.ok (.success i v record), t)) :
    ∃ l, (p.runLedger limits src pos).exec s = (.ok ⟨some (i, v), l⟩, t) := by
  obtain ⟨⟨_ | ⟨j, w⟩, l⟩, hl, hr⟩ := exists_ledger_of_run hp hs h
  all_goals cases hr
  exact ⟨l, hl⟩

theorem refuses_iff : p.Refuses limits src pos s ↔
    ∃ l, (p.runLedger limits src pos).outcome s = .ok ⟨none, l⟩ := by
  rw [Refuses, outcome_run hp hs]
  constructor
  · rintro ⟨record, h⟩
    rcases hl : (p.runLedger limits src pos).outcome s with e | ⟨_ | ⟨j, w⟩, l⟩
    all_goals
      rw [hl] at h
      cases h
    exact ⟨l, rfl⟩
  · rintro ⟨l, h⟩
    rw [h]
    exact ⟨l.record, rfl⟩

theorem Matches.ledger (h : p.Matches limits src s pos ms i t) :
    ∃ l, (p.runLedger limits).Matches src s pos ms l i t := by
  induction h with
  | nil => exact ⟨[], .nil _ _⟩
  | @cons s t u pos i index v record ms h _ ih =>
      have ht := (Store.later_of_exec_run h).admits hs
      obtain ⟨l, hl⟩ := exec_ledger_of_success hp hs h
      obtain ⟨k, hk⟩ := ih ht
      exact ⟨l ++ k, .cons hl hk⟩

theorem matches_of_ledger {l : Ledger} (h : (p.runLedger limits).Matches src s pos ms l i t) :
    p.Matches limits src s pos ms i t := by
  induction h with
  | nil => exact .nil _ _
  | @cons s t u pos i index v l k ms h _ ih =>
      have hrun := exec_run_of_ledger hp hs h
      have ht := (Store.later_of_exec_run hrun).admits hs
      exact .cons hrun (ih ht)

end

/-! ### Repetitions that match -/

/-- A repetition that matches, from an offset to an index: its matches follow each other,
there are at least as many as required and at most as many as allowed, and there is a reason
why there are no more. -/
structure Repetition (p : Parser) (limits : Limits) (src : Text) (s : Store) (pos least : Nat)
    (most : Option Nat) (ms : List Match) (index : Nat) : Prop where
  /-- There are as many matches as required. -/
  least_le : least ≤ ms.length
  /-- There are no more matches than allowed. -/
  le_most : ∀ n, most = some n → ms.length ≤ n
  /-- The matches follow each other, and then there are as many as there may be, or the
  parser does not match again, or there is no upper limit and the last match, which was not
  required, is that of the empty text. -/
  stopped : ∃ t, p.Matches limits src s pos ms index t
    ∧ (most = some ms.length ∨ p.Refuses limits src index t
      ∨ most = none ∧ least < ms.length ∧ ∃ m, ms.getLast? = some m ∧ m.start = m.stop)
  /-- Without an upper limit, no match but the last one is both not required and that of the
  empty text. -/
  advances : most = none → ∀ m ∈ (ms.drop least).dropLast, m.start ≠ m.stop

/-- Without an upper limit, each match that is not required takes a character, but for the
last one. -/
theorem Repetition.length_le (h : p.Repetition limits src s pos least none ms index)
    (htile : Match.Tile pos ms index) (hindex : index ≤ src.length) :
    ms.length ≤ least + (src.length - pos) + 1 := by
  obtain ⟨i, hfront, hback⟩ :=
    Match.tile_append.mp ((List.take_append_drop least ms).symm ▸ htile)
  have hpos := hfront.le
  rcases List.eq_nil_or_concat' (ms.drop least) with hnil | ⟨ns, m, hns⟩
  · have := List.drop_eq_nil_iff.mp hnil
    omega
  · have hne := h.advances rfl
    rw [hns] at hne hback
    rw [List.dropLast_concat] at hne
    obtain ⟨j, hns', hm⟩ := Match.tile_append.mp hback
    have hlength := hns'.length_le hne
    have hj := hm.le
    have hdrop := congrArg List.length hns
    rw [List.length_drop, List.length_append, List.length_singleton] at hdrop
    omega

/-! ### Termination -/

/-- **Limits that suffice for a number of rounds** and one more, if there are limits that
suffice for each run of the parser. -/
theorem exists_limits_matches (hp : p.IsLibrary) (hg : g.Admits IsLibrary)
    (hterm : ∀ t, g.Later t → ∀ i : Nat, pos ≤ i → i ≤ src.length →
      ∃ limits, (p.run limits src i).outcome t ≠ .error .exhausted)
    (n : Nat) (hs : g.Later s) (hi : pos ≤ i) (hle : i ≤ src.length) :
    ∃ least : Limits, ∀ limits : Limits,
    least.depth ≤ limits.depth → least.rounds ≤ limits.rounds →
      ∀ ms j t, p.Matches limits src s i ms j t → ms.length ≤ n →
        (p.run limits src j).outcome t ≠ .error .exhausted := by
  induction n generalizing s i with
  | zero =>
      obtain ⟨least, hne⟩ := hterm s hs i hi hle
      refine ⟨least, fun limits hd hr ms j t h hlength => ?_⟩
      obtain rfl := List.length_eq_zero_iff.mp (Nat.le_zero.mp hlength)
      cases h
      rwa [Run.outcome, exec_run_of_le hd hr hne]
  | succ n ih =>
      obtain ⟨first, hne⟩ := hterm s hs i hi hle
      have hfirst (limits : Limits) (hd : first.depth ≤ limits.depth)
          (hr : first.rounds ≤ limits.rounds) := exec_run_of_le hd hr hne
      rcases hexec : (p.run first src i).exec s with ⟨_ | ⟨j, v, record⟩ | record, t⟩
      case ok.success =>
          obtain ⟨k, rfl, hik, hk⟩ :=
            exists_index_of_run hp (hs.admits hg) hle (congrArg Prod.fst hexec)
          obtain ⟨later, hlater⟩ := ih (hs.trans (Store.later_of_exec_run hexec))
            (hi.trans hik) hk
          refine ⟨⟨max first.depth later.depth, max first.rounds later.rounds⟩,
            fun limits hd hr ms j t h hlength => ?_⟩
          have hexec' := hfirst limits (le_trans (Nat.le_max_left ..) hd)
            (le_trans (Nat.le_max_left ..) hr)
          cases h with
          | nil => rwa [Run.outcome, hexec']
          | cons h hs' =>
              rw [hexec', hexec] at h
              cases h
              exact hlater limits (le_trans (Nat.le_max_right ..) hd)
                (le_trans (Nat.le_max_right ..) hr) _ _ _ hs' (Nat.le_of_succ_le_succ hlength)
      all_goals
        refine ⟨first, fun limits hd hr ms j t h _ => ?_⟩
        cases h with
        | nil => rwa [Run.outcome, hfirst limits hd hr]
        | cons h _ =>
            rw [hfirst limits hd hr, hexec] at h
            cases h

/-- The runs of a parser on a text from an offset on are not exhausted at all limits, in all
stores that a store can become. -/
def Terminates (p : Parser) (src : Text) (pos : Nat) (s : Store) : Prop :=
  ∀ t, s.Later t → ∀ i : Nat, pos ≤ i → i ≤ src.length →
    ∃ limits, (p.run limits src i).outcome t ≠ .error .exhausted

/-- What a repetition does, with a ledger. -/
theorem course_times (p : Parser) (limits : Limits) (src : Text) (s : Store) (pos least : Nat)
    (most : Option Nat) :
    (p.runLedger limits).Course src limits.rounds least (most.map (· - least)) s pos
      (((p.times least most).runLedger limits src pos).exec s) :=
  LedgerAction.repeated_course _ src limits.rounds least _ s pos

section

variable (hp : p.IsLibrary) (hs : s.Admits IsLibrary)
include hp hs

/-- A repetition is broken off by a run of its parser, behind required and optional ones
that match, or because there are as many optional ones as the limits allow. -/
theorem broken_of_times {e : Stop}
    (h : ((p.times least most).run limits src pos).outcome s = .error e) :
    ∃ ms j t ns i u, p.Matches limits src s pos ms j t ∧ p.Matches limits src t j ns i u
      ∧ ms.length ≤ least ∧ (∀ n, most = some n → ns.length ≤ n - least)
      ∧ (most = none → ∀ m ∈ ns, m.start ≠ m.stop)
      ∧ ((p.run limits src i).outcome u = .error e
        ∨ e = .exhausted ∧ most = none ∧ ns.length = limits.rounds) := by
  rw [outcome_run (hp.times least most) hs, Run.outcome] at h
  have hcourse := course_times p limits src s pos least most
  rcases hexec : ((p.times least most).runLedger limits src pos).exec s with ⟨e' | r, u⟩
  · rw [hexec] at h hcourse
    cases h
    obtain ⟨ms, l, j, t, ns, k, i, u, hms, hns, hleast, hmore, hne, hend⟩ :=
      hcourse.exists_broken
    have hms := matches_of_ledger hp hs hms
    have hns := matches_of_ledger hp (hms.later.admits hs) hns
    refine ⟨ms, j, t, ns, i, u, hms, hns, hleast, fun n hn => hmore _ ?_, fun hn => hne ?_, ?_⟩
    · rw [hn, Option.map_some]
    · rw [hn, Option.map_none]
    · refine hend.imp (fun hr => ?_) (And.imp_right (And.imp_left Option.map_eq_none_iff.mp))
      rw [outcome_run hp (hns.later.admits (hms.later.admits hs)), hr]
      rfl
  · rw [hexec] at h
    cases h

/-- **A repetition terminates if its parser does.** -/
theorem times_terminates (hpos : pos ≤ src.length)
    (hterm : p.Terminates src pos s) (least : Nat) (most : Option Nat) :
    ∃ limits, ((p.times least most).run limits src pos).outcome s ≠ .error .exhausted := by
  obtain ⟨first, hfirst⟩ := exists_limits_matches hp hs hterm
    (least + (most.map (· - least)).getD src.length) .start (le_refl pos) hpos
  -- more rounds than characters, so that one of them matches the empty text before they run
  -- out
  let limits : Limits := ⟨first.depth, max first.rounds (src.length + 1)⟩
  have hrounds : src.length < limits.rounds := Nat.le_max_right ..
  refine ⟨limits, fun h => ?_⟩
  obtain ⟨ms, j, t, ns, i, u, hms, hns, hleast, hmore, hne, hend⟩ := broken_of_times hp hs h
  have hlength : ns.length ≤ (most.map (· - least)).getD src.length := by
    cases most with
    | some n => exact hmore n rfl
    | none =>
        obtain ⟨-, hj⟩ := hms.tile hp hs hpos
        obtain ⟨htile, hi⟩ := hns.tile hp (hms.later.admits hs) hj
        have := htile.length_le (hne rfl)
        simp only [Option.map_none, Option.getD_none]
        omega
  rcases hend with hend | ⟨-, rfl, hend⟩
  · refine hfirst limits (le_refl _) (Nat.le_max_left ..) _ _ _ (hms.append hns) ?_ hend
    rw [List.length_append]
    omega
  · simp only [Option.map_none, Option.getD_none] at hlength
    omega

/-- **A repetition fails if and only if a required run does.** -/
theorem times_refuses_iff (least : Nat) (most : Option Nat) :
    (p.times least most).Refuses limits src pos s ↔
      ∃ ms i t, p.Matches limits src s pos ms i t ∧ ms.length < least
        ∧ p.Refuses limits src i t := by
  rw [refuses_iff (hp.times least most) hs, Run.outcome]
  constructor
  · rintro ⟨l, h⟩
    have hcourse := course_times p limits src s pos least most
    generalize ((p.times least most).runLedger limits src pos).exec s = r at hcourse h
    cases hcourse with
    | missed hms hlt hr =>
        have hrun := matches_of_ledger hp hs hms
        have hrefuses := (refuses_iff hp (hrun.later.admits hs)).mpr ⟨_, congrArg Prod.fst hr⟩
        exact ⟨_, _, _, hrun, hlt, hrefuses⟩
    | broken => cases h
    | @ended _ _ _ _ _ o =>
        cases o with
        | error e => cases h
        | ok r => cases h
  · rintro ⟨ms, i, t, hms, hlt, hr⟩
    obtain ⟨k, hk⟩ := (refuses_iff hp (hms.later.admits hs)).mp hr
    obtain ⟨l, hl⟩ := hms.ledger hp hs
    have hcourse : (p.runLedger limits).Course src limits.rounds least
      (most.map (· - least)) s pos
        (.ok ⟨none, l ++ k⟩, _) := .missed hl hlt (Prod.ext hk rfl)
    exact ⟨l ++ k, congrArg Prod.fst hcourse.exec_repeated⟩

/-- What required rounds and the optional rounds behind them come to, if they match. -/
theorem repetition_of_ends (hle : ∀ n, most = some n → least ≤ n) {l k : Ledger}
    {ns : List Match} (h : (p.runLedger limits).Matches src s pos ms l i t)
    (hlength : ms.length = least)
    (hends : (p.runLedger limits).Ends src limits.rounds t i (most.map (· - least))
      (.ok (ns, k, index), u)) :
    p.Repetition limits src s pos least most (ms ++ ns) index := by
  have hleast : least ≤ (ms ++ ns).length := by rw [List.length_append]; omega
  have hdrop : (ms ++ ns).drop least = ns := by rw [← hlength, List.drop_left]
  generalize hextra : most.map (· - least) = extra at hends
  cases hends with
  | full h' =>
      obtain ⟨n, rfl, hn⟩ := Option.map_eq_some_iff.mp hextra
      have hsum : n = (ms ++ ns).length := by
        have := hle n rfl
        rw [List.length_append]
        omega
      have hrun := matches_of_ledger hp hs (h.append h')
      refine ⟨hleast, ?_, ⟨_, hrun, .inl (congrArg some hsum)⟩, nofun⟩
      rintro _ ⟨⟩
      exact hsum.ge
  | refused h' hmore hgo hr =>
      have hrun := matches_of_ledger hp hs (h.append h')
      have hrefuses := (refuses_iff hp (hrun.later.admits hs)).mpr ⟨_, congrArg Prod.fst hr⟩
      refine ⟨hleast, ?_, ⟨_, hrun, .inr (.inl hrefuses)⟩, ?_⟩
      · rintro n rfl
        have := hmore (n - least) hextra.symm
        rw [List.length_append]
        omega
      · rintro rfl m hm
        rw [hdrop] at hm
        exact (hgo hextra.symm).2 m (List.dropLast_subset _ hm)
  | @idle _ _ _ v ns' _ _ h' hlt hne hr =>
      obtain rfl := Option.map_eq_none_iff.mp hextra
      have hlast : (p.runLedger limits).Matches src _ index [⟨index, v, index⟩] _ index u :=
        .cons hr (.nil _ _)
      have hrun := matches_of_ledger hp hs (h.append (h'.append hlast))
      refine ⟨hleast, nofun, ⟨_, hrun, .inr (.inr ⟨rfl, ?_, ⟨index, v, index⟩, ?_, rfl⟩)⟩, ?_⟩
      · simp only [List.length_append, List.length_singleton]
        omega
      · rw [← List.append_assoc, List.getLast?_concat]
      · rw [hdrop, List.dropLast_concat]
        exact fun _ => hne

/-- **A repetition that matches** does so with matches that follow each other, and with
their marks if it is a repetition of marks. -/
theorem repetition_of_times (hle : ∀ n, most = some n → least ≤ n) {j : Int} {v : Value}
    {record : Record}
    (h : ((p.times least most).run limits src pos).outcome s = .ok (.success j v record)) :
    ∃ ms index, j = (index : Nat) ∧ v = .list (ms.map Match.value)
      ∧ p.Repetition limits src s pos least most ms index
      ∧ ((p.mark.times least most).run limits src pos).outcome s
          = .ok (.success index (.list (ms.map fun m => (m.marked src).value)) record) := by
  rw [outcome_run (hp.times least most) hs, Run.outcome] at h
  have hcourse := course_times p limits src s pos least most
  generalize ((p.times least most).runLedger limits src pos).exec s = r at hcourse h
  cases hcourse with
  | missed | broken => cases h
  | @ended t u i ms l o hms hlength hends =>
      rcases o with e | ⟨ns, k, index⟩
      · cases h
      cases h
      refine ⟨ms ++ ns, index, rfl, rfl, repetition_of_ends hp hs hle hms hlength hends, ?_⟩
      have hmark : p.mark.IsLibrary := Throughout.mark (fun _ => IsPlain.isLibrary) hp
      have hmarked : p.mark.runLedger limits = (p.runLedger limits).marked := by
        funext src pos
        exact evalLedger_mark _ _ p src pos
      have hcourse := LedgerAction.Course.ended hms.marked ((List.length_map _).trans hlength)
        hends.marked
      have hexec : ((p.mark.times least most).runLedger limits src pos).exec s = _ :=
        hmarked ▸ hcourse.exec_repeated
      rw [outcome_run (hmark.times least most) hs, Run.outcome, hexec]
      simp only [Except.map, Attempt.reply, List.map_append, List.map_map]
      rfl

end

/-! ### Repetition -/

/-- **Repetition.** A repetition of a parser whose runs terminate terminates as well. It
fails if and only if a required run does, behind others that match, each where the one
before it has ended. If it matches, its value is the list of the values of runs that match
in the same way: as many as required at least, as many as allowed at most, and there is a
reason why there are no more. They tile the text up to the index of the repetition, and so
do the marks of a repetition of marks; without an upper limit they are as many as there are
characters left at most, apart from the required ones and the last one. The only other way
in which it can end is the fault of a run that comes behind others that match. -/
theorem times_repeats (hp : p.IsLibrary) (hs : s.Admits IsLibrary) (hpos : pos ≤ src.length)
    (hle : ∀ n, most = some n → least ≤ n) (hterm : p.Terminates src pos s) :
    (∃ limits, ((p.times least most).run limits src pos).outcome s ≠ .error .exhausted)
      ∧ ∀ limits,
        ((p.times least most).Refuses limits src pos s ↔
          ∃ ms i t, p.Matches limits src s pos ms i t ∧ ms.length < least
            ∧ p.Refuses limits src i t)
        ∧ (∀ j v record,
          ((p.times least most).run limits src pos).outcome s = .ok (.success j v record) →
            ∃ ms index, j = (index : Nat) ∧ v = .list (ms.map Match.value)
              ∧ p.Repetition limits src s pos least most ms index
              ∧ (most = none → ms.length ≤ least + (src.length - pos) + 1)
              ∧ Match.Tile pos ms index
              ∧ (ms.map fun m => src.slice m.start m.stop).flatten = src.slice pos index
              ∧ ((p.mark.times least most).run limits src pos).outcome s
                  = .ok (.success j (.list (ms.map fun m => (m.marked src).value)) record))
        ∧ ∀ fault,
          ((p.times least most).run limits src pos).outcome s = .error (.fault fault) →
            ∃ ms i t, p.Matches limits src s pos ms i t
              ∧ (p.run limits src i).outcome t = .error (.fault fault) := by
  refine ⟨times_terminates hp hs hpos hterm least most, fun limits => ⟨?_, ?_, ?_⟩⟩
  · exact times_refuses_iff hp hs least most
  · intro j v record h
    obtain ⟨ms, index, rfl, rfl, hrep, hmark⟩ := repetition_of_times hp hs hle h
    obtain ⟨t, hms, -⟩ := hrep.stopped
    obtain ⟨htile, hindex⟩ := hms.tile hp hs hpos
    refine ⟨ms, index, rfl, rfl, hrep, ?_, htile, htile.flatten_slices src, hmark⟩
    rintro rfl
    exact hrep.length_le htile hindex
  · intro fault h
    obtain ⟨ms, j, t, ns, i, u, hms, hns, -, -, -, hend⟩ := broken_of_times hp hs h
    rcases hend with hend | ⟨hne, -⟩
    · exact ⟨_, i, u, hms.append hns, hend⟩
    · cases hne

/-- Letters that may be missing. Behind two of them the next round matches the empty text,
and the repetition ends with three values. -/
theorem times_repeats_letters :
    let p := (literal "a").optional .none
    let src : Text := "aab"
    let limits : Limits := ⟨0, 4⟩
    let v := Value.list [.text "a", .text "a", .none]
    p.Terminates src 0 .lists
      ∧ ((p.times 1 none).run limits src (0 : Nat)).outcome .lists
          = .ok (.success 2 v ⟨2, [.text "'a'"]⟩)
      ∧ ∃ ms, v = .list (ms.map Match.value) ∧ p.Repetition limits src .lists 0 1 none ms 2
          ∧ Match.Tile 0 ms 2 := by
  intro p src limits v
  have hp : p.IsLibrary :=
    .optional (fun _ => IsPlain.isLibrary) (.literal (fun _ => IsPlain.isLibrary) "a") .none
  have hs : Store.lists.Admits IsLibrary :=
    Store.lists_admits (fun _ => IsPlain.isLibrary) ⟨id, trivial⟩
  have hterm : p.Terminates src 0 .lists := by
    intro t _ i _ hi
    have hlength : src.length = 3 := rfl
    refine ⟨limits, ?_⟩
    obtain rfl | rfl | rfl | rfl : i = 0 ∨ i = 1 ∨ i = 2 ∨ i = 3 := by omega
    all_goals
      rintro ⟨⟩
  have hrun : ((p.times 1 none).run limits src (0 : Nat)).outcome .lists
      = .ok (.success 2 v ⟨2, [.text "'a'"]⟩) := rfl
  have hle : ∀ n, (none : Option Nat) = some n → 1 ≤ n := nofun
  obtain ⟨-, hrep⟩ := times_repeats hp hs (show 0 ≤ src.length by decide) hle hterm
  obtain ⟨-, hmatch, -⟩ := hrep limits
  obtain ⟨ms, index, hindex, hv, h, -, htile, -⟩ := hmatch 2 v _ hrun
  obtain rfl : 2 = index := Int.ofNat_inj.mp hindex
  exact ⟨hterm, hrun, ms, hv, h, htile⟩

end Parser

end Furthest
