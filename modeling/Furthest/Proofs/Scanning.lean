import Furthest.Checked.Parser
import Furthest.Proofs.CharacterRuns
import Mathlib.Order.Bounds.Basic

/-!
# Scanning

A run of characters that pass a test can be read in two ways: by a scan, which looks for the
offset where the run ends, and by a repetition of the test of one character, which merges
the reply of every round with those before it. This module says what the two come to. They
stop at the same offset, they have called the test with the same characters, and what they
have read is the text in between. Only the records differ: the repetition ends with a round
that fails, and this failure is on record.

A run is given as a part of the text and what is left behind it (`Text.RunAt`), and both
readings are inductions on that part. The repetition needs an invariant, which is that no
round before the last one has left a failure behind.

## Main definitions

* `Text.stops`, `Text.runEnd`: where a run may end, and where it does.
* `Parser.Reads`: a success whose value is the text that has been read.

## Main results

* `Text.isLeast_runEnd`: a run ends as soon as it may.
* `Action.exec_scan`: what the scan comes to.
* `Action.exec_unbounded_charTest`: what the repetition comes to.
* `Parser.takeWhile_as_many`: **a scan is the fast form of a repeated test.**
-/

namespace Furthest

namespace Text

variable {src w rest : Text} {holds : CodePoint → Bool} {pos : Nat} {c : CodePoint}

/-! ### Where a run ends -/

/-- The offsets where a run that starts at an offset may end: the end of the text, and that
of a character that does not pass the test. -/
def stops (src : Text) (holds : CodePoint → Bool) (pos : Nat) : Set Nat :=
  {i | pos ≤ i ∧ (i = src.length ∨ ∃ c, src[i]? = some c ∧ holds c = false)}

/-- The offset where a run ends. -/
def runEnd (src : Text) (holds : CodePoint → Bool) (pos : Nat) : Nat :=
  pos + ((src.drop pos).takeWhile holds).length

/-- A run of characters that pass a test stands at an offset, and what is left behind it
does not start with another one. -/
structure RunAt (src : Text) (holds : CodePoint → Bool) (pos : Nat) (w rest : Text) :
    Prop where
  /-- The run stands at the offset. -/
  restAt : src.RestAt pos (w ++ rest)
  /-- Its characters pass the test. -/
  passes : ∀ c ∈ w, holds c = true
  /-- The next character does not. -/
  ends : ∀ c, rest.head? = some c → holds c = false

namespace RunAt

/-- The rest of a run. -/
theorem next (h : src.RunAt holds pos (c :: w) rest) : src.RunAt holds (pos + 1) w rest :=
  ⟨h.restAt.next, (List.forall_mem_cons.mp h.passes).2, h.ends⟩

theorem holds_head (h : src.RunAt holds pos (c :: w) rest) : holds c = true :=
  (List.forall_mem_cons.mp h.passes).1

/-- The character that ends a run. -/
theorem holds_end (h : src.RunAt holds pos [] (c :: rest)) : holds c = false := h.ends c rfl

/-- The run is what stands between its start and its end. -/
theorem runEnd_eq (h : src.RunAt holds pos w rest) :
    src.runEnd holds pos = pos + w.length := by
  have htake : (w ++ rest).takeWhile holds = w := by
    rw [List.takeWhile_append_of_pos h.passes]
    cases rest with
    | nil => rw [List.takeWhile_nil, List.append_nil]
    | cons c rest =>
        have hc : ¬ holds c = true := by
          rw [h.ends c rfl]
          exact Bool.false_ne_true
        rw [List.takeWhile_cons_of_neg hc, List.append_nil]
  rw [runEnd, h.restAt.drop, htake]

theorem slice_runEnd (h : src.RunAt holds pos w rest) :
    src.slice pos (src.runEnd holds pos) = w := by
  rw [h.runEnd_eq]
  exact h.restAt.slice_eq

/-- The run, and the character that ends it if there is one. -/
theorem slice_runEnd_succ (h : src.RunAt holds pos w rest) :
    src.slice pos (src.runEnd holds pos + 1 : Nat) = w ++ rest.take 1 := by
  have hlength : pos + w.length + 1 - pos = w.length + 1 := by omega
  rw [slice_natCast, h.restAt.drop, h.runEnd_eq, hlength, List.take_length_add_append]

end RunAt

/-- There is a run at every offset of a text, which may be empty. -/
theorem exists_runAt (holds : CodePoint → Bool) (hpos : pos ≤ src.length) :
    ∃ w rest, src.RunAt holds pos w rest := by
  refine ⟨(src.drop pos).takeWhile holds, (src.drop pos).dropWhile holds, ⟨hpos, ?_⟩, ?_, ?_⟩
  · exact List.takeWhile_append_dropWhile.symm
  · exact List.all_eq_true.mp List.all_takeWhile
  · exact fun c => not_holds_head_dropWhile

/-- **A run ends as soon as it may.** -/
theorem isLeast_runEnd (holds : CodePoint → Bool) (hpos : pos ≤ src.length) :
    IsLeast (src.stops holds pos) (src.runEnd holds pos) := by
  obtain ⟨w, rest, h⟩ := exists_runAt holds hpos
  have hlength := h.restAt.length_eq
  rw [List.length_append] at hlength
  have hget (i : Nat) : src[pos + i]? = (w ++ rest)[i]? := by
    rw [← List.getElem?_drop, h.restAt.drop]
  rw [h.runEnd_eq]
  refine ⟨⟨by omega, ?_⟩, ?_⟩
  · cases rest with
    | nil =>
        rw [List.length_nil] at hlength
        exact .inl hlength
    | cons c rest =>
        refine .inr ⟨c, ?_, h.ends c rfl⟩
        rw [hget, List.getElem?_append_right le_rfl, Nat.sub_self, List.getElem?_cons_zero]
  · rintro i ⟨hle, hend | ⟨c, hc, hfails⟩⟩
    · omega
    · -- before its end there are only characters of the run
      by_contra hlt
      obtain ⟨k, rfl⟩ := Nat.exists_eq_add_of_le hle
      rw [hget, List.getElem?_append_left (by omega)] at hc
      rw [h.passes c (List.mem_of_getElem? hc)] at hfails
      exact Bool.noConfusion hfails

end Text

/-- A failure in the text is not before offset `-1`. -/
theorem Record.carried_single (pos : Nat) (label : Label) :
    (single pos label).carried = single pos label := by
  have hle : ¬ (single pos label).furthest < -1 := by
    simp only [single]
    omega
  rw [carried, if_neg hle]

/-! ### Tests and what they note -/

/-- The notes that a test leaves when it is called with the characters of a text. -/
def notesOf (test : CodePoint → Effect Bool) (t : Text) : List Note :=
  t.flatMap fun c => (test c).notes

theorem notesOf_cons (test : CodePoint → Effect Bool) (c : CodePoint) (t : Text) :
    notesOf test (c :: t) = (test c).notes ++ notesOf test t := rfl

/-- A test raises no fault: it says whether a character passes, and may leave notes. -/
def Decides (test : CodePoint → Effect Bool) (holds : CodePoint → Bool) : Prop :=
  ∀ c, (test c).outcome = .ok (holds c)

theorem decides_pure (holds : CodePoint → Bool) : Decides (fun c => pure (holds c)) holds :=
  fun _ => rfl

/-- A test without effects leaves no notes. -/
theorem notesOf_pure (holds : CodePoint → Bool) (t : Text) :
    notesOf (fun c => pure (holds c)) t = [] :=
  List.flatMap_eq_nil_iff.mpr fun _ _ => rfl

namespace Action

variable {src w rest label : Text} {test : CodePoint → Effect Bool} {holds : CodePoint → Bool}
  {pos n : Nat} {c : CodePoint}

theorem exec_perform (h : Decides test holds) (c : CodePoint) (s : Store) :
    (Run.perform (test c)).exec s = (.ok (holds c), s.noted (test c).notes) := by
  rw [Run.exec_perform, h c]
  rfl

/-! ### One character -/

/-- The test of the first character that is left. -/
theorem exec_charTest (h : src.RestAt pos (c :: rest)) (ht : Decides test holds) (label : Text)
    (s : Store) :
    (charTest label test src pos).exec s
      = (.ok (if holds c then .matched (pos + 1 : Nat) (.char c)
        else .mismatch pos (.text label)),
          s.noted (test c).notes) := by
  rw [charTest_eq h, Run.exec_bind_of_ok (exec_perform ht c s)]
  cases holds c <;> rfl

/-- Where a run ends, the test of one character fails. -/
theorem exec_charTest_end (h : src.RunAt holds pos [] rest)
    (ht : Decides test holds) (label : Text) (s : Store) :
    (charTest label test src pos).exec s
      = (.ok (.mismatch pos (.text label)), s.noted (notesOf test (rest.take 1))) := by
  cases rest with
  | nil =>
      rw [charTest_eq_mismatch h.restAt]
      exact congrArg _ (Store.noted_nil s).symm
  | cons c rest =>
      have hnotes : notesOf test ((c :: rest).take 1) = (test c).notes := List.append_nil _
      rw [exec_charTest h.restAt ht, h.holds_end, hnotes]
      rfl

/-- A description of the test of one character is its label. -/
theorem desc_charTest (label label' : Text) (test : CodePoint → Effect Bool) :
    desc (charTest label test) label' = charTest label' test := by
  funext src pos
  simp only [desc, charTest]
  split
  · simp only [bind_assoc]
    refine bind_congr fun c => bind_congr fun b => ?_
    cases b <;> simp [Reply.matched, Reply.mismatch, Record.single]
  · simp [Reply.mismatch, Record.single]

/-! ### Scans -/

/-- **A scan ends where the run does.** It tests the characters of the run and the one that
ends it. -/
theorem exec_scan (h : src.RunAt holds pos w rest) (ht : Decides test holds) (s : Store) :
    (scan test src (w ++ rest).length pos).exec s
      = (.ok ((pos + w.length : Nat) : Int), s.noted (notesOf test (w ++ rest.take 1))) := by
  induction w generalizing pos s with
  | nil =>
      cases rest with
      | nil => exact congrArg _ (Store.noted_nil s).symm
      | cons c rest =>
          have hnotes : notesOf test ([] ++ (c :: rest).take 1) = (test c).notes :=
            List.append_nil _
          rw [List.nil_append, List.length_cons, scan, charAt, h.restAt.lookUp_eq,
            Run.ofExcept, pure_bind, Run.exec_bind_of_ok (exec_perform ht c s), h.holds_end,
            hnotes]
          rfl
  | cons c w ih =>
      have hstep : ((pos : Int) + 1) = (pos + 1 : Nat) := by omega
      have hend : pos + (c :: w).length = pos + 1 + w.length := by
        rw [List.length_cons]
        omega
      rw [List.cons_append, List.length_cons, scan, charAt, h.restAt.lookUp_eq,
        Run.ofExcept, pure_bind, Run.exec_bind_of_ok (exec_perform ht c s), h.holds_head,
        if_pos rfl, hstep, ih h.next, hend, List.cons_append, notesOf_cons,
        Store.noted_append]

theorem exec_takeWhile (h : src.RunAt holds pos w rest) (ht : Decides test holds) (s : Store) :
    (takeWhile test src pos).exec s
      = (.ok (.matched (pos + w.length : Nat) (.text w)),
          s.noted (notesOf test (w ++ rest.take 1))) := by
  have hlength := h.restAt.length_eq
  have hleft : ((src.length : Int) - pos).toNat = (w ++ rest).length := by omega
  rw [takeWhile, hleft, Run.exec_bind_of_ok (exec_scan h ht s), h.restAt.slice_eq]
  rfl

/-! ### Repetitions -/

/-- The reply of the round before, if there is one, has no failure on record. -/
def LastClean (last : Option Reply) : Prop := ∀ r ∈ last, r.record = .clean

theorem LastClean.none : LastClean none := fun r h => absurd h (Option.not_mem_none r)

theorem LastClean.matched (index : Int) (value : Value) :
    LastClean (some (.matched index value)) := by
  rintro _ ⟨⟩
  rfl

/-- Behind rounds without failures, a success is clean. -/
theorem merge_matched {last : Option Reply} (h : LastClean last) (index : Int)
    (value : Value) :
    Run.merge (.matched index value) last = pure (.matched index value) := by
  rw [Run.merge, Reply.merge_matched]
  cases last with
  | none => rfl
  | some r =>
      rw [Reply.after, h r rfl]
      rfl

/-- Behind rounds without failures, a failure is the only one. -/
theorem merge_mismatch {last : Option Reply} (h : LastClean last) (pos : Nat) (label : Label) :
    Run.merge (.mismatch pos label) last = pure (.mismatch pos label) := by
  cases last with
  | none => rfl
  | some r =>
      have hlt : Record.clean.furthest < (Record.single pos label).furthest := by
        simp only [Record.clean, Record.single]
        omega
      have hjoin : (Reply.mismatch pos label).record.join r.record
        = .ok (.single pos label) := by
        rw [h r rfl]
        exact if_pos hlt
      exact Run.merge_of_join hjoin

/-- What the last round leaves on record. -/
theorem after_mismatch (pos : Nat) (label : Label) (value : Value) :
    Reply.after (some (.mismatch pos label)) pos value = .success pos value
      (.single pos label) := by
  rw [Reply.after, Reply.mismatch, Reply.record, Record.carried_single]

/-- **A repetition of the test of one character ends where the run does**, and it tests the
same characters as a scan. The failure of its last round is on record. -/
theorem exec_unbounded_charTest (h : src.RunAt holds pos w rest) (ht : Decides test holds)
    (label : Text) (hn : w.length < n) (values : List Value) {last : Option Reply}
    (hlast : LastClean last) (s : Store) :
    (unbounded (charTest label test) src n ⟨values, last, pos⟩).exec s
      = (.ok (.success (pos + w.length : Nat) (.list (values.reverse ++ w.map .char))
            (.single (pos + w.length : Nat) (.text label))),
          s.noted (notesOf test (w ++ rest.take 1))) := by
  obtain ⟨n, rfl⟩ := Nat.exists_eq_succ_of_ne_zero (Nat.ne_zero_of_lt hn)
  induction w generalizing pos n values last s with
  | nil =>
      rw [unbounded, Run.exec_bind_of_ok (exec_charTest_end h ht label s),
        merge_mismatch hlast, pure_bind]
      simp only [Reply.mismatch, Progress.close]
      have hclose := after_mismatch pos (.text label) (.list values.reverse)
      rw [Reply.mismatch] at hclose
      rw [hclose, List.map_nil, List.append_nil]
      rfl
  | cons c w ih =>
      rw [List.length_cons] at hn
      obtain ⟨n, rfl⟩ := Nat.exists_eq_succ_of_ne_zero (by omega : n ≠ 0)
      have hround := exec_charTest h.restAt ht label s
      rw [h.holds_head, if_pos rfl] at hround
      have hmoved : ¬ ((pos + 1 : Nat) : Int) = pos := by omega
      have hend : pos + (c :: w).length = pos + 1 + w.length := by
        rw [List.length_cons]
        omega
      have hvalues : values.reverse ++ (c :: w).map Value.char
          = (Value.char c :: values).reverse ++ w.map Value.char := by
        rw [List.map_cons, List.reverse_cons, List.append_assoc, List.singleton_append]
      have hrest := ih h.next (Value.char c :: values) (.matched (pos + 1 : Nat) (.char c))
        (s.noted (test c).notes) n (by omega)
      rw [unbounded, Run.exec_bind_of_ok hround, merge_matched hlast, pure_bind, hend, hvalues,
        List.cons_append, notesOf_cons, Store.noted_append]
      simp only [Reply.matched, if_neg hmoved]
      exact hrest

end Action

namespace Parser

variable {src w rest : Text} {holds : CodePoint → Bool} {pos : Nat} {c : CodePoint}
  {limits : Limits} {s t : Store} {p q : Parser} {record : Record}

/-! ### What has been read -/

/-- A parser reads a part of the text: it succeeds at an index, and its value is the text
from the offset up to there. -/
def Reads (p : Parser) (limits : Limits) (src : Text) (pos stop : Nat) (record : Record)
    (s t : Store) : Prop :=
  (p.run limits src pos).exec s = (.ok (.success stop (.text (src.slice pos stop)) record), t)

/-- A success whose values are the characters that have been read, joined. -/
theorem reads_map_joinValues (h : src.RunAt holds pos w rest) (hr : record.carried = record)
    (hp : (p.run limits src pos).exec s
      = (.ok (.success (pos + w.length : Nat) (.list (w.map .char)) record), t)) :
    (p.map joinValues).Reads limits src pos (src.runEnd holds pos) record s t := by
  have hmap : (p.map joinValues).run limits = (p.run limits).map joinValues := rfl
  rw [Reads, hmap, Action.map, Run.exec_bind_of_ok hp, h.slice_runEnd, h.runEnd_eq]
  simp only [joinValues_map_char, Run.perform_pure, pure_bind, hr]
  rfl

/-! ### Parsers of one character, repeated -/

section

variable {test : CodePoint → Effect Bool} {label : Text}

/-- A scan reads the run. -/
theorem reads_takeWhile (h : src.RunAt holds pos w rest) (ht : Decides test holds)
    (limits : Limits) (s : Store) :
    (takeWhile test).Reads limits src pos (src.runEnd holds pos) .clean s
      (s.noted (notesOf test (w ++ rest.take 1))) := by
  have hrun : (takeWhile test).run limits = Action.takeWhile test := rfl
  rw [Reads, hrun, Action.exec_takeWhile h ht, h.slice_runEnd, h.runEnd_eq]
  rfl

variable (hq : q.run limits = Action.charTest label test)
include hq

/-- Any number of rounds, joined, are the run. -/
theorem reads_many (h : src.RunAt holds pos w rest) (ht : Decides test holds)
    (hn : w.length < limits.rounds) (s : Store) :
    (q.many.map joinValues).Reads limits src pos (src.runEnd holds pos)
      (.single (src.runEnd holds pos) (.text label)) s
      (s.noted (notesOf test (w ++ rest.take 1))) := by
  have hmany : q.many.run limits src pos
      = Action.unbounded (Action.charTest label test) src limits.rounds ⟨[], none, pos⟩ := by
    rw [← hq]
    rfl
  have hexec := Action.exec_unbounded_charTest h ht label hn [] .none s
  rw [← hmany, List.reverse_nil, List.nil_append, ← h.runEnd_eq] at hexec
  refine reads_map_joinValues h (Record.carried_single _ _) ?_
  rw [← h.runEnd_eq]
  exact hexec

/-- Where one round is asked for, it comes before any number of others. -/
theorem run_atLeast_one : (q.atLeast 1).run limits src pos
    = Action.required (Action.charTest label test) src
        (Action.unbounded (Action.charTest label test) src limits.rounds) 1
        ⟨[], none, pos⟩ := by
  rw [← hq]
  rfl

/-- At least one round, joined, is the run if there is one. -/
theorem reads_atLeast_one (h : src.RunAt holds pos (c :: w) rest) (ht : Decides test holds)
    (hn : w.length < limits.rounds) (s : Store) :
    ((q.atLeast 1).map joinValues).Reads limits src pos (src.runEnd holds pos)
      (.single (src.runEnd holds pos) (.text label)) s
      (s.noted (notesOf test (c :: w ++ rest.take 1))) := by
  have hround := Action.exec_charTest h.restAt ht label s
  rw [h.holds_head, if_pos rfl] at hround
  have hrest := Action.exec_unbounded_charTest h.next ht label hn [.char c]
    (.matched (pos + 1 : Nat) (.char c)) (s.noted (test c).notes)
  have hend : pos + 1 + w.length = src.runEnd holds pos := by
    rw [h.runEnd_eq, List.length_cons]
    omega
  rw [hend] at hrest
  refine reads_map_joinValues h (Record.carried_single _ _) ?_
  rw [← h.runEnd_eq, run_atLeast_one hq, Action.required, Run.exec_bind_of_ok hround,
    Action.merge_matched .none, pure_bind, List.cons_append, notesOf_cons, Store.noted_append]
  exact hrest

/-- Where the run is empty, the round that is asked for fails. -/
theorem exec_atLeast_one_mismatch (h : src.RunAt holds pos [] rest) (ht : Decides test holds)
    (f : Value → Effect Value) (s : Store) :
    (((q.atLeast 1).map f).run limits src pos).exec s
      = (.ok (.mismatch pos (.text label)), s.noted (notesOf test (rest.take 1))) := by
  have hround := Action.exec_charTest_end h ht label s
  have hexec : ((q.atLeast 1).run limits src pos).exec s
      = (.ok (.mismatch pos (.text label)), s.noted (notesOf test (rest.take 1))) := by
    rw [run_atLeast_one hq, Action.required, Run.exec_bind_of_ok hround,
      Action.merge_mismatch .none, pure_bind]
    rfl
  have hmap : ((q.atLeast 1).map f).run limits = ((q.atLeast 1).run limits).map f := rfl
  rw [hmap, Action.map, Run.exec_bind_of_ok hexec]
  rfl

end

/-! ### The two ways to read a run -/

/-- A scan and a repetition of the test of one character, at the same offset. -/
theorem reads_run {test : CodePoint → Effect Bool} {label : Text}
    (hq : q.run limits = Action.charTest label test) (ht : Decides test holds)
    (hpos : pos ≤ src.length) (s : Store) :
    ∃ stop, IsLeast (src.stops holds pos) stop
      ∧ ∃ t, t = s.noted (notesOf test (src.slice pos (stop + 1 : Nat)))
        ∧ (takeWhile test).Reads limits src pos stop .clean s t
        ∧ (stop < pos + limits.rounds →
            (q.many.map joinValues).Reads limits src pos stop
              (.single stop (.text label)) s t) := by
  obtain ⟨w, rest, h⟩ := Text.exists_runAt holds hpos
  refine ⟨src.runEnd holds pos, Text.isLeast_runEnd holds hpos, _, rfl, ?_, fun hrounds => ?_⟩
  · rw [h.slice_runEnd_succ]
    exact reads_takeWhile h ht limits s
  · rw [h.runEnd_eq] at hrounds
    rw [h.slice_runEnd_succ]
    exact reads_many hq h ht (by omega) s

/-- The digits of a collection: the run of its characters, if there is one. -/
theorem reads_digitsOf (hpos : pos ≤ src.length) (shown label : Text)
    (member : CodePoint → Bool) (limits : Limits) (s : Store) :
    ∃ stop, IsLeast (src.stops member pos) stop
      ∧ (takeWhile fun c => pure (member c)).Reads limits src pos stop .clean s s
      ∧ (pos < stop → stop ≤ pos + limits.rounds →
          (Prebuilt.digitsOf (oneOf shown member) label).Reads limits src pos stop
            (.single stop (.text label)) s s)
      ∧ (stop = pos →
          ((Prebuilt.digitsOf (oneOf shown member) label).run limits src pos).exec s
            = (.ok (.mismatch pos (.text label)), s)) := by
  have hd := decides_pure member
  have hq : ((oneOf shown member).desc label).run limits
      = Action.charTest label fun c => pure (member c) := Action.desc_charTest _ label _
  have hstill (t : Text) : s.noted (notesOf (fun c => pure (member c)) t) = s := by
    rw [notesOf_pure, Store.noted_nil]
  obtain ⟨w, rest, h⟩ := Text.exists_runAt member hpos
  have hscan := reads_takeWhile h hd limits s
  rw [hstill] at hscan
  refine ⟨src.runEnd member pos, Text.isLeast_runEnd member hpos, hscan, ?_, ?_⟩
  · intro hlt hrounds
    rw [h.runEnd_eq] at hlt hrounds
    cases w with
    | nil => exact absurd hlt (lt_irrefl pos)
    | cons c w =>
        rw [List.length_cons] at hrounds
        have hreads := reads_atLeast_one hq h hd (by omega) s
        rwa [hstill] at hreads
  · intro hstop
    rw [h.runEnd_eq] at hstop
    cases w with
    | nil =>
        have hexec := exec_atLeast_one_mismatch hq h hd joinValues s
        rwa [hstill] at hexec
    | cons c w =>
        rw [List.length_cons] at hstop
        omega

/-- **A scan is the fast form of a repeated test.** Run from any offset of a text, both
succeed at the first offset where the run may end, with the text in between as their value
and the same notes left. The scan is clean, and the repetition has the label of the test on
record where it stopped. The ready made runs of digits and letters are such scans. And a run
of at least one character of a collection is read in the same way, or is missed with its own
label alone if there is none. -/
theorem takeWhile_as_many {p : Predicate} {holds member : CodePoint → Bool}
    (hp : Decides p.test holds) {chars : Value} {shown : Text}
    (hchars : Checked.characters chars = .ok (shown, member)) (label : Text)
    {src : Text} {pos : Nat} (hpos : pos ≤ src.length) (limits : Limits) (s : Store) :
    (∃ stop, IsLeast (src.stops holds pos) stop
      ∧ ∃ t, t = s.noted (notesOf p.test (src.slice pos (stop + 1 : Nat)))
        ∧ (takeWhile p.test).Reads limits src pos stop .clean s t
        ∧ (stop < pos + limits.rounds →
            ((satisfy p).many.map joinValues).Reads limits src pos stop
              (.single stop (.text ("a character matching " ++ p.name))) s t))
    ∧ (∀ run one set label, (run, one, set, label) ∈
          [(Prebuilt.digits, Prebuilt.digit, Charset.decimal, Text.ofString "a digit"),
            (Prebuilt.letters, Prebuilt.letter, Charset.alphabetic, Text.ofString "a letter"),
            (Prebuilt.alnums, Prebuilt.alnum, Charset.alnum,
              Text.ofString "a letter or digit")] →
        ∃ stop, IsLeast (src.stops (fun c => decide (c ∈ set)) pos) stop
          ∧ run.Reads limits src pos stop .clean s s
          ∧ (stop < pos + limits.rounds →
              (one.many.map joinValues).Reads limits src pos stop
                (.single stop (.text label)) s s))
    ∧ ∃ q, Checked.digitsOf chars (.text label) = .ok q
        ∧ ∃ stop, IsLeast (src.stops member pos) stop
          ∧ (takeWhile fun c => pure (member c)).Reads limits src pos stop .clean s s
          ∧ (pos < stop → stop ≤ pos + limits.rounds →
              q.Reads limits src pos stop (.single stop (.text label)) s s)
          ∧ (stop = pos → (q.run limits src pos).exec s
            = (.ok (.mismatch pos (.text label)), s)) := by
  refine ⟨reads_run rfl hp hpos s, ?_, Prebuilt.digitsOf (oneOf shown member) label, ?_, ?_⟩
  · intro run one set label hmem
    have hrun : run = runOf set ∧ one = (memberOf set).desc label := by
      simp only [List.mem_cons, List.not_mem_nil, or_false, Prod.mk.injEq] at hmem
      rcases hmem with ⟨rfl, rfl, rfl, rfl⟩ | ⟨rfl, rfl, rfl, rfl⟩ | ⟨rfl, rfl, rfl, rfl⟩ <;>
        exact ⟨rfl, rfl⟩
    obtain ⟨rfl, rfl⟩ := hrun
    have hone : ((memberOf set).desc label).run limits
        = Action.charTest label fun c => pure (decide (c ∈ set)) :=
          Action.desc_charTest _ label _
    obtain ⟨stop, hleast, t, ht, hreads⟩ := reads_run hone (decides_pure _) hpos s
    rw [notesOf_pure, Store.noted_nil] at ht
    subst ht
    exact ⟨stop, hleast, hreads⟩
  · rw [Checked.digitsOf, Checked.oneOf, hchars]
    rfl
  · exact reads_digitsOf hpos shown label member limits s

/-- Two digits in front of a letter, with a test that notes what it is called with: it is
called three times. -/
theorem takeWhile_as_many_traced :
    let p := Predicate.traced "t" Predicate.isDigit
    let src : Text := "a12b"
    let chars := Value.list [.text "1", .text "9"]
    let limits : Limits := ⟨0, 3⟩
    let t : Store := { Store.empty with
      journal := #[⟨"t", [.text "1"]⟩, ⟨"t", [.text "2"]⟩, ⟨"t", [.text "b"]⟩] }
    Decides p.test CodePoint.isDigit
      ∧ Checked.characters chars
        = .ok ("'19'", fun c => (Value.char c).member [.text "1", .text "9"])
      ∧ 1 ≤ src.length
      ∧ (takeWhile p.test).Reads limits src 1 3 .clean .empty t
      ∧ ((satisfy p).many.map joinValues).Reads limits src 1 3
          (.single 3 (.text "a character matching t")) .empty t
      ∧ (Prebuilt.digit.many.map joinValues).Reads limits src 1 3
        (.single 3 (.text "a digit")) .empty
          .empty
      ∧ ((Prebuilt.digitsOf
        (oneOf "'19'" fun c => (Value.char c).member [.text "1", .text "9"])
            "one").Reads limits src 1 2 (.single 2 (.text "one")) .empty .empty) := by
  intro p src chars limits t
  have hp : Decides p.test CodePoint.isDigit := fun c => rfl
  have hchars : Checked.characters chars
      = .ok ("'19'", fun c => (Value.char c).member [.text "1", .text "9"]) := rfl
  have hpos : 1 ≤ src.length := by decide
  have hend {holds : CodePoint → Bool} {stop : Nat} (h : IsLeast (src.stops holds 1) stop) :
      stop = src.runEnd holds 1 := h.unique (Text.isLeast_runEnd holds hpos)
  obtain ⟨⟨stop, hleast, _, rfl, hscan, hmany⟩, hruns, q, hq, stop', hleast', -, hdigits, -⟩ :=
    takeWhile_as_many hp hchars "one" hpos limits .empty
  obtain ⟨stop'', hleast'', -, hdigit⟩ := hruns _ _ _ _ List.mem_cons_self
  obtain rfl : stop = 3 := hend hleast
  obtain rfl : stop' = 2 := hend hleast'
  obtain rfl : stop'' = 3 := hend hleast''
  cases hq
  exact ⟨hp, hchars, hpos, hscan, hmany (by decide), hdigit (by decide),
    hdigits (by decide) (by decide)⟩

end Parser

end Furthest
