import Furthest.Proofs.Entries
import Furthest.Proofs.Rerun

/-!
# Parsing Whole Texts

A parse is one run at the start of the text and a look at where it has ended. A match up to
the end is the value of the parse. A match that ends before is a failure, like any other, of
what was expected where it has ended: the end of the text. So it is merged with the failures
of the run, and what is reported depends on how far these have come: those behind the match
hide that the text goes on, those before it are hidden themselves, and those where it has
ended are reported beside it.

A failed parse is written to the log once, with the offset and the labels that it reports. A
run by itself writes about lazy parsers only, so that there is one such entry for each
failed parse and none for the others.

## Main results

* `Store.failures_after_run`: a run by itself writes nothing about failed parses.
* `Ledger.record_concat_of_gt`, `Ledger.record_concat_of_lt`, `Ledger.mem_record_concat`:
  the record behind one more failure.
* `Parser.parse_by_run`: **a parse is told by one run at the start.**
-/

namespace Furthest

/-! ### Failed parses in the log -/

/-- The offset and the labels of a failed parse that an entry of the log is about. -/
def LogRecord.failure? : LogRecord → Option (Int × List Label)
  | resolved _ => none
  | parseFailed offset expected => some (offset, expected)

namespace Store

/-- The failed parses that the log is about, in the order of its entries. -/
def failures (s : Store) : List (Int × List Label) := s.log.toList.filterMap LogRecord.failure?

@[simp] theorem failures_noted (s : Store) (notes : List Note) :
    (s.noted notes).failures = s.failures := rfl

@[simp] theorem failures_reported (s : Store) (offset : Int) (expected : List Label) :
    (s.reported offset expected).failures = s.failures ++ [(offset, expected)] := by
  simp [failures, reported, LogRecord.failure?]

@[simp] theorem failures_called (s : Store) (id : Nat) (name : Text) :
    (s.called id name).failures = s.failures := rfl

@[simp] theorem failures_completed (s : Store) (id : Nat) (name : Text) (p : Parser)
    (made : List Builder) : (s.completed id name p made).failures = s.failures := by
  simp [failures, LogRecord.failure?]

/-- Resolving a lazy parser writes nothing about failed parses. -/
theorem failures_after_force (s : Store) (id : Nat) :
    ((force id).after s).failures = s.failures := by
  have hf := forcing s id
  rw [Run.after]
  generalize (force id).exec s = r at hf
  cases hf with
  | unknown | known => rfl
  | raised | refused => exact failures_called s id _
  | built => rw [failures_completed, failures_called]

/-- The computations that write nothing about failed parses are a closed class. -/
theorem closed_failures : Run.Closed fun m => ∀ s, (m.after s).failures = s.failures where
  pure _ _ := rfl
  stop _ _ := rfl
  bind {_ _ m f} hm hf s := by
    have hfirst := hm s
    rw [Run.after] at hfirst ⊢
    rcases h : m.exec s with ⟨e | a, t⟩
    · rw [h] at hfirst
      rw [Run.exec_bind_of_error h]
      exact hfirst
    · rw [h] at hfirst
      rw [Run.exec_bind_of_ok h]
      exact (hf a t).trans hfirst
  perform e s := by rw [Run.after, Run.exec_perform, failures_noted]
  force id s := failures_after_force s id

/-- **A run by itself writes nothing about failed parses.** -/
theorem failures_after_run {p : Parser} (hp : p.IsLibrary) {s t : Store}
    (hs : s.Admits Parser.IsLibrary) {limits : Limits} {src : Text} {pos : Nat}
    {r : Except Stop Reply} (h : (p.run limits src pos).exec s = (r, t)) :
    t.failures = s.failures := by
  have hafter := closed_failures.runLedger p limits src pos s
  rwa [← Parser.after_run hp hs, Run.after, h] at hafter

end Store

/-! ### One more failure -/

namespace Ledger

variable {l : Ledger} {i : Nat} {label : Text}

theorem furthest_single (i : Nat) (label : Text) : furthest [⟨i, label⟩] = i := by
  simp only [furthest]
  omega

/-- The labels of a record are those of the failures at its offset. -/
theorem mem_expected_record {x : Label} :
    x ∈ l.record.expected ↔ ∃ m ∈ l, (m.offset : Int) = l.furthest ∧ x = .text m.label := by
  simp only [record, List.mem_map, Text.mem_sortedDistinct, mem_labelsAt]
  constructor
  · rintro ⟨_, ⟨m, hm, hoffset, rfl⟩, rfl⟩
    exact ⟨m, hm, hoffset, rfl⟩
  · rintro ⟨m, hm, hoffset, rfl⟩
    exact ⟨m.label, ⟨m, hm, hoffset, rfl⟩, rfl⟩

/-- A failure before the furthest one does not matter. -/
theorem record_concat_of_gt (h : (i : Int) < l.furthest) :
    record (l ++ [⟨i, label⟩]) = l.record := by
  rw [← furthest_single i label] at h
  exact record_append_of_lt h

/-- A failure behind all others is the only one that matters. -/
theorem record_concat_of_lt (h : l.furthest < i) :
    record (l ++ [⟨i, label⟩]) = .single i (.text label) := by
  have hjoin := join_record l [⟨i, label⟩]
  rw [record_single] at hjoin
  have hsingle : (Record.single i (.text label)).join l.record
    = .ok (.single i (.text label)) :=
    if_pos h
  exact Except.ok.inj (hjoin.symm.trans hsingle)

/-- A failure that is as far as the furthest one adds its label. -/
theorem mem_record_concat (h : l.furthest = i) {x : Label} :
    x ∈ (record (l ++ [⟨i, label⟩])).expected ↔ x ∈ l.record.expected ∨ x = .text label := by
  have hfurthest : furthest (l ++ [⟨i, label⟩]) = l.furthest := by
    rw [furthest_append, furthest_single, h, max_self]
  simp only [mem_expected_record, hfurthest, List.mem_append, List.mem_singleton, or_and_right,
    exists_or, exists_eq_left]
  refine or_congr Iff.rfl (and_iff_right ?_)
  exact h.symm

theorem furthest_concat (l : Ledger) (i : Nat) (label : Text) :
    (record (l ++ [⟨i, label⟩])).furthest = max l.record.furthest i := by
  change furthest (l ++ [⟨i, label⟩]) = max l.furthest i
  rw [furthest_append, furthest_single]

end Ledger

/-! ### The error of a failed parse -/

/-- A failure whose labels are texts has a message. -/
theorem ParseFailure.exists_message (src : Text) (position : Position) (labels : List Text) :
    ∃ m, (ParseFailure.mk src position (labels.map .text)).message = .ok m := by
  have hexpected : ∃ m, formatExpected (labels.map .text) = .ok m := by
    rcases labels with - | ⟨t, - | ⟨u, ts⟩⟩
    · exact ⟨_, rfl⟩
    · exact ⟨t, rfl⟩
    · refine ⟨"one of " ++ Text.join ", " (t :: u :: ts), ?_⟩
      rw [List.map_cons, List.map_cons, formatExpected, ← List.map_cons, ← List.map_cons,
        Value.joined_map_text]
      · rfl
      all_goals simp
  obtain ⟨m, hm⟩ := hexpected
  refine ⟨"expected " ++ m ++ formatGot src position excerptLength, ?_⟩
  rw [message, formatError, hm]
  rfl

/-- A failure whose labels are texts can be raised as an error, with its message and a note
about its position. -/
theorem ParseError.exists_ofFailure (src : Text) (position : Position) (labels : List Text) :
    ∃ m, ParseFailure.message ⟨src, position, labels.map .text⟩ = .ok m
      ∧ ofFailure ⟨src, position, labels.map .text⟩
          = .ok ⟨src, position, labels.map .text, m, [positionNote src position none]⟩ := by
  obtain ⟨m, hm⟩ := ParseFailure.exists_message src position labels
  refine ⟨m, hm, ?_⟩
  rw [ofFailure, hm]
  rfl

namespace Parser

variable {p : Parser} {limits : Limits} {src : Text} {s t : Store} {e : Stop} {v : Value}
  {record : Record} {i : Int}

/-- The parse of a text has a value. It leaves the store as `t`, and writes nothing about a
failed parse. -/
structure ParsesTo (p : Parser) (limits : Limits) (src : Text) (s t : Store) (v : Value) :
    Prop where
  /-- The value is what comes of the parse. -/
  parse : (p.parse limits src).exec s = (.ok (.value v), t)
  /-- There is no error. -/
  tryParse : (p.tryParse limits src).exec s = (.ok (.ok v), t)
  /-- No failed parse is written to the log. -/
  failures : t.failures = s.failures

/-- The parse of a text fails at an offset where something else was expected. A run leaves
the store as `t`, and the failed parse is written to the log once. -/
structure FailsToParse (p : Parser) (limits : Limits) (src : Text) (s t : Store) (offset : Int)
    (expected : List Label) : Prop where
  /-- The failure is what comes of the parse. -/
  parse : (p.parse limits src).exec s
    = (.ok (.failure ⟨src, .ofOffset src offset, expected⟩), t.reported offset expected)
  /-- The error has the text, the position and the labels of the failure, and its
  message. -/
  tryParse : ∃ error : ParseError,
    (p.tryParse limits src).exec s = (.ok (.error error), t.reported offset expected)
      ∧ error.src = src ∧ error.position = .ofOffset src offset ∧ error.expected = expected
      ∧ ParseFailure.message ⟨src, .ofOffset src offset, expected⟩ = .ok error.message
  /-- One failed parse is written to the log. -/
  failures : (t.reported offset expected).failures = s.failures ++ [(offset, expected)]

/-! ### Parses -/

/-- A run that is broken off breaks off the parse. -/
theorem exec_parse_of_error (h : (p.run limits src 0).exec s = (.error e, t)) :
    (p.parse limits src).exec s = (.error e, t)
    ∧ (p.tryParse limits src).exec s = (.error e, t) := by
  have hpair : ((seq [p, eof]).run limits src 0).exec s = (.error e, t) :=
    Run.exec_bind_of_error h
  have hrun : ((p.skip eof).run limits src 0).exec s = (.error e, t) :=
    Run.exec_bind_of_error hpair
  have hparse : (p.parse limits src).exec s = (.error e, t) := Run.exec_bind_of_error hrun
  exact ⟨hparse, Run.exec_bind_of_error hparse⟩

/-- A match, if the end of the text is demanded behind it, is a parse with a value. -/
theorem parsesTo_of_run
    (h : ((p.skip eof).run limits src 0).exec s = (.ok (.success i v record), t))
    (ht : t.failures = s.failures) : p.ParsesTo limits src s t v := by
  have hparse : (p.parse limits src).exec s = (.ok (.value v), t) := Run.exec_bind_of_ok h
  exact ⟨hparse, Run.exec_bind_of_ok hparse, ht⟩

/-- A failure, if the end of the text is demanded, is a failed parse. -/
theorem failsToParse_of_run (hlabels : ∃ labels : List Text,
    record.expected = labels.map .text)
    (h : ((p.skip eof).run limits src 0).exec s = (.ok (.failure record), t))
    (ht : t.failures = s.failures) :
    p.FailsToParse limits src s t record.furthest record.expected := by
  obtain ⟨offset, expected⟩ := record
  obtain ⟨labels, rfl⟩ : ∃ labels : List Text, expected = labels.map .text := hlabels
  let f : ParseFailure := ⟨src, .ofOffset src offset, labels.map .text⟩
  have hparse : (p.parse limits src).exec s
      = (.ok (.failure f), t.reported offset (labels.map .text)) := Run.exec_bind_of_ok h
  obtain ⟨m, hm, herror⟩ := ParseError.exists_ofFailure src (.ofOffset src offset) labels
  let error : ParseError :=
    ⟨f.src, f.position, f.expected, m, [positionNote f.src f.position none]⟩
  refine ⟨hparse, ⟨error, ?_, rfl, rfl, rfl, hm⟩, by rw [Store.failures_reported, ht]⟩
  rw [tryParse, Run.exec_bind_of_ok hparse]
  change (Run.ofExcept (ParseError.ofFailure f) >>= _).exec _ = _
  rw [herror]
  rfl

/-- **A parse is told by one run at the start.** It is broken off if the run is. Otherwise
the store is what the run leaves, so that nothing is run a second time, and a failed parse
is added to its log. A match up to the end is the value of the parse. A match that ends
before, at an index, is a failed parse at this index or at the furthest failure of the run,
whichever is further: if the failure is further, with the labels there; if it is not as far,
with the end of the text as the only label; and if both are at the same offset, with the
labels there and the end of the text, in increasing order and each once. A failure of the
run is the failure of the parse. -/
theorem parse_by_run (hp : p.IsLibrary) (hs : s.Admits IsLibrary)
    (limits : Limits) (src : Text) :
    (∀ e t, (p.run limits src 0).exec s = (.error e, t) →
        (p.parse limits src).exec s = (.error e, t)
        ∧ (p.tryParse limits src).exec s = (.error e, t))
      ∧ (∀ i v record t, (p.run limits src 0).exec s = (.ok (.success i v record), t) →
          (src.length ≤ i → p.ParsesTo limits src s t v)
          ∧ (i < src.length → ∃ expected,
              p.FailsToParse limits src s t (max record.furthest i) expected
                ∧ (i < record.furthest → expected = record.expected)
                ∧ (record.furthest = i → ∃ labels : List Text, expected = labels.map .text
                    ∧ labels.Pairwise (· < ·)
                    ∧ ∀ x, x ∈ expected ↔ x ∈ record.expected ∨ x = .text "EOF")
                ∧ (record.furthest < i → expected = [.text "EOF"])))
      ∧ ∀ record t, (p.run limits src 0).exec s = (.ok (.failure record), t) →
          p.FailsToParse limits src s t record.furthest record.expected := by
  refine ⟨fun e t => exec_parse_of_error, fun i v record t h => ?_, fun record t h => ?_⟩
  · have hrun : (p.run limits src (0 : Nat)).exec s = _ := h
    have ht : t.failures = s.failures := Store.failures_after_run hp hs hrun
    obtain ⟨⟨_ | ⟨n, w⟩, l⟩, hl, hr⟩ := exists_ledger_of_run hp hs hrun
    · cases hr
    obtain ⟨rfl, rfl, rfl⟩ := Reply.success.inj hr
    have hend := exec_run_skip_eof hp hs hl
    refine ⟨fun hle => ?_, fun hlt => ?_⟩
    · rw [Attempt.ended_of_not_lt (by omega)] at hend
      exact parsesTo_of_run hend ht
    · -- the missing end of the text is one more failure behind those of the run
      rw [Attempt.ended_of_lt (Int.ofNat_lt.mp hlt)] at hend
      have hfails := failsToParse_of_run ⟨_, rfl⟩ hend ht
      rw [Ledger.furthest_concat] at hfails
      refine ⟨_, hfails, fun h => ?_, fun h => ?_, fun h => ?_⟩
      · rw [Ledger.record_concat_of_gt h]
      · exact ⟨_, rfl, Text.pairwise_sortedDistinct _, fun x => Ledger.mem_record_concat h⟩
      · rw [Ledger.record_concat_of_lt h]
        rfl
  · have hrun : (p.run limits src (0 : Nat)).exec s = _ := h
    have ht : t.failures = s.failures := Store.failures_after_run hp hs hrun
    obtain ⟨⟨_ | r, l⟩, hl, hr⟩ := exists_ledger_of_run hp hs hrun
    · obtain rfl := Reply.failure.inj hr
      exact failsToParse_of_run ⟨_, rfl⟩ (exec_run_skip_eof hp hs hl) ht
    · cases hr

/-- A list, with or without a mark behind it, and another character. The mark is missing
where the end of the text is, so that both are reported. -/
theorem parse_by_run_lists :
    let p := (lazy 0).skip ((literal "!").optional .none)
    let src : Text := "[1]x"
    let limits : Limits := ⟨3, 4⟩
    let t := (p.run limits src 0).after .lists
    p.IsLibrary
      ∧ (p.run limits src 0).outcome .lists
          = .ok (.success 3 (.list [.text "1"]) ⟨3, [.text "'!'"]⟩)
      ∧ p.FailsToParse limits src .lists t 3 [.text "'!'", .text "EOF"] := by
  intro p src limits t
  have hp : p.IsLibrary :=
    .skip (fun _ => IsPlain.isLibrary) (.lazy (fun _ => IsPlain.isLibrary) 0)
      (.optional (fun _ => IsPlain.isLibrary)
        (.literal (fun _ => IsPlain.isLibrary) "!") .none)
  have hs : Store.lists.Admits IsLibrary :=
    Store.lists_admits (fun _ => IsPlain.isLibrary) ⟨id, trivial⟩
  have hrun : (p.run limits src 0).outcome .lists
      = .ok (.success 3 (.list [.text "1"]) ⟨3, [.text "'!'"]⟩) := rfl
  obtain ⟨-, hmatch, -⟩ := parse_by_run hp hs limits src
  obtain ⟨-, hshort⟩ := hmatch 3 _ _ t (Prod.ext hrun rfl)
  obtain ⟨expected, hfails, -, hsame, -⟩ := hshort (by decide)
  obtain ⟨labels, rfl, hsorted, hmem⟩ := hsame rfl
  obtain rfl : labels = Text.sortedDistinct ["'!'", "EOF"] := by
    refine Text.eq_sortedDistinct hsorted fun label => ?_
    have hlabel := hmem (.text label)
    simpa using hlabel
  exact ⟨hp, hrun, hfails⟩

end Parser

end Furthest
