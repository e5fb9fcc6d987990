import Furthest.Proofs.LedgerAlgebra
import Furthest.Proofs.Outcomes

/-!
# Replies in Changing Stores

What the nodes of a parser come to when the replies of their parts are known one by one,
each in the store that the part before it has left. `Run.Replies` is such a reply: a match
or a failure, the store before and the store behind it. Nothing is assumed of the parts but
that their labels are texts, so that they may be custom parsers as well, and give other
replies in other stores.

The labels have to be texts because records are merged behind every part, and labels of
different kinds have no order. Every record of the library is of this kind, and records of
this kind can be merged.

## Main results

* `Record.IsTextual.exists_join`: records of texts can be merged.
* `Run.Replies.of_run`: a run of a parser of the library gives its reply.
* `Setting.Settles.replies`: an outcome in one store that stays as it is.
* `Parser.replies_seq`, `Parser.replies_alternatives`, `Parser.replies_many`: sequences,
  choices and repetitions, and beside them how they fail.
-/

namespace Furthest

/-! ### Records of texts -/

/-- The labels of a record are texts. -/
def Record.IsTextual (r : Record) : Prop := ∃ ts : List Text, r.expected = ts.map .text

namespace Record

theorem isTextual_clean : clean.IsTextual := ⟨[], rfl⟩

theorem isTextual_single (pos : Int) (label : Text) : (single pos (.text label)).IsTextual :=
  ⟨[label], rfl⟩

theorem isTextual_ledger (l : Ledger) : l.record.IsTextual := ⟨_, rfl⟩

theorem IsTextual.carried {r : Record} (h : r.IsTextual) : r.carried.IsTextual := by
  rw [Record.carried]
  split
  · exact isTextual_clean
  · exact h

/-- **Records of texts can be merged**, and their labels stay texts. -/
theorem IsTextual.exists_join {r last : Record} (h : r.IsTextual) (hlast : last.IsTextual) :
    ∃ j, r.join last = .ok j ∧ j.IsTextual := by
  obtain ⟨ts, hts⟩ := h
  obtain ⟨us, hus⟩ := hlast
  rw [join]
  split
  · exact ⟨r, rfl, ts, hts⟩
  · split
    · rw [hts, hus, unionExpected_map_text]
      exact ⟨_, rfl, _, rfl⟩
    · exact ⟨last, rfl, us, hus⟩

end Record

/-! ### Replies -/

/-- The reply with a result, which is a match or a failure, and a record. -/
def Reply.ofResult : Option (Int × Value) → Record → Reply
  | some (index, value), record => success index value record
  | none, record => failure record

@[simp] theorem Reply.record_ofResult (o : Option (Int × Value)) (record : Record) :
    (ofResult o record).record = record := by
  rcases o with _ | ⟨i, v⟩ <;> rfl

/-- The reply of an attempt. -/
theorem Attempt.reply_eq_ofResult (o : Option (Nat × Value)) (l : Ledger) :
    Attempt.reply ⟨o, l⟩ = .ofResult (o.map fun r => ((r.1 : Int), r.2)) l.record := by
  rcases o with _ | ⟨i, v⟩ <;> rfl

/-- The labels of the reply before, if there is one, are texts. -/
def Reply.LastTextual (last : Option Reply) : Prop := ∀ r ∈ last, r.record.IsTextual

theorem Reply.LastTextual.none : LastTextual none :=
  fun r h => absurd h (Option.not_mem_none r)

theorem Reply.LastTextual.some {r : Reply} (h : r.record.IsTextual) :
    LastTextual (some r) := by
  rintro _ ⟨⟩
  exact h

/-- The labels of a reply of a parser of the library are texts. -/
theorem Parser.isTextual_of_run {p : Parser} (hp : p.IsLibrary) {s t : Store}
    (hs : s.Admits IsLibrary) {limits : Limits} {src : Text} {pos : Nat} {r : Reply}
    (h : (p.run limits src pos).exec s = (.ok r, t)) : r.record.IsTextual := by
  obtain ⟨a, -, rfl⟩ := exists_ledger_of_run hp hs h
  rw [Attempt.reply_record]
  exact Record.isTextual_ledger a.ledger

/-- A computation replies, in a store, with a match or a failure and with labels that are
texts, and leaves a store behind. -/
def Run.Replies (m : Run Reply) (s : Store) (o : Option (Int × Value)) (t : Store) : Prop :=
  ∃ record : Record, record.IsTextual ∧ m.exec s = (.ok (.ofResult o record), t)

namespace Run.Replies

variable {m : Run Reply} {s t u : Store} {o o' : Option (Int × Value)} {f : Reply → Run Reply}

theorem pure {record : Record} (hr : record.IsTextual) (o : Option (Int × Value)) (s : Store) :
    (Pure.pure (Reply.ofResult o record) : Run Reply).Replies s o s := ⟨record, hr, rfl⟩

/-- A computation that replies, and what comes after it. -/
theorem bind (h : m.Replies s o t)
    (hf : ∀ record : Record, record.IsTextual → (f (.ofResult o record)).Replies t o' u) :
    (m >>= f).Replies s o' u := by
  obtain ⟨record, hr, he⟩ := h
  obtain ⟨record', hr', he'⟩ := hf record hr
  exact ⟨record', hr', (Run.exec_bind_of_ok he).trans he'⟩

/-- A reply that is merged onto the one before it, and what comes after. -/
theorem merged (h : m.Replies s o t) {last : Option Reply}
    (hlast : Reply.LastTextual last)
    (hf : ∀ record : Record, record.IsTextual → (f (.ofResult o record)).Replies t o' u) :
    (m >>= fun r => Run.merge r last >>= f).Replies s o' u := by
  refine h.bind fun record hr => ?_
  have hmerge : ∃ record', record'.IsTextual
      ∧ Run.merge (.ofResult o record) last = Pure.pure (.ofResult o record') := by
    cases last with
    | none => exact ⟨record, hr, rfl⟩
    | some r =>
        obtain ⟨j, hj, hjt⟩ := hr.exists_join (hlast r rfl)
        refine ⟨j, hjt, ?_⟩
        rw [Run.merge_of_join (by rwa [Reply.record_ofResult])]
        rcases o with _ | ⟨i, v⟩ <;> rfl
  obtain ⟨record', hr', hm⟩ := hmerge
  rw [hm, pure_bind]
  exact hf record' hr'

/-- **A run of a parser of the library** gives its reply, whose labels are texts. -/
theorem of_run {p : Parser} (hp : p.IsLibrary) (hs : s.Admits Parser.IsLibrary)
    {limits : Limits} {src : Text} {pos : Nat} {record : Record}
    (h : (p.run limits src pos).exec s = (.ok (.ofResult o record), t)) :
    (p.run limits src pos).Replies s o t := by
  have hrecord := Parser.isTextual_of_run hp hs h
  rw [Reply.record_ofResult] at hrecord
  exact ⟨record, hrecord, h⟩

end Run.Replies

/-- **An outcome in one store**, which stays as it is. -/
theorem Setting.Settles.replies {p : Parser} {limits : Limits} {src : Text}
    {s : Store} {pos : Nat} {o : Option (Nat × Value)}
    (h : (Setting.still src limits s).Settles p pos o) :
    (p.run limits src pos).Replies s (o.map fun r => ((r.1 : Int), r.2)) s := by
  obtain ⟨l, he⟩ := h.exec_still
  exact ⟨l.record, Record.isTextual_ledger l, Attempt.reply_eq_ofResult o l ▸ he⟩

namespace Parser

variable {p q : Parser} {ps : List Parser} {limits : Limits} {src : Text} {pos i j : Int}
  {s t u : Store} {v w : Value} {vs : List Value}

/-! ### One parser -/

/-- A text that stands at an offset. -/
theorem replies_literal {pos : Nat} {text : Text} (hpos : pos ≤ src.length)
    (h : text <+: src.drop pos) (s : Store) :
    ((literal text).run limits src pos).Replies s
      (some ((pos + text.length : Nat), .text text)) s := by
  obtain ⟨rest, hdrop⟩ := h
  have hrest : (Setting.still src limits s).src.RestAt pos (text ++ rest) := ⟨hpos, hdrop.symm⟩
  exact (Setting.Settles.literal hrest).replies

theorem replies_literal_none {pos : Nat} {text : Text} (hpos : pos ≤ src.length)
    (h : ¬ text <+: src.drop pos) (s : Store) :
    ((literal text).run limits src pos).Replies s none s := by
  have hrest : (Setting.still src limits s).src.RestAt pos (src.drop pos) := .of_le hpos
  exact (Setting.Settles.literal_none hrest h).replies

/-- A function that neither leaves a note nor raises a fault. -/
theorem replies_map (h : (p.run limits src pos).Replies s (some (i, v)) t)
    {f : Value → Effect Value} (hf : f v = pure w) :
    ((p.map f).run limits src pos).Replies s (some (i, w)) t := by
  refine Run.Replies.bind h fun record hr => ?_
  simp only [Reply.ofResult]
  rw [hf, Run.perform_pure, pure_bind]
  exact .pure hr.carried (some (i, w)) t

theorem replies_map_none (h : (p.run limits src pos).Replies s none t)
    (f : Value → Effect Value) :
    ((p.map f).run limits src pos).Replies s none t :=
  Run.Replies.bind h fun _ hr => .pure hr none t

/-! ### Sequences -/

/-- Parsers match one after the other, each in the store that the one before it has left. -/
inductive AllReply (limits : Limits) (src : Text) :
    Store → Int → List Parser → List Value → Int → Store → Prop
  | nil (s : Store) (pos : Int) : AllReply limits src s pos [] [] pos s
  | cons {p : Parser} {ps : List Parser} {s t u : Store} {pos i j : Int} {v : Value}
      {vs : List Value} (h : (p.run limits src pos).Replies s (some (i, v)) t)
      (hs : AllReply limits src t i ps vs j u) :
      AllReply limits src s pos (p :: ps) (v :: vs) j u

theorem AllReply.seqFrom (h : AllReply limits src s pos ps vs j t) (values : List Value)
    {last : Option Reply} (hlast : Reply.LastTextual last) :
    (Action.seqFrom values last (ps.map fun p => p.run limits) src pos).Replies s
      (some (j, .list (values.reverse ++ vs))) t := by
  induction h generalizing values last with
  | nil s pos =>
      rw [List.append_nil]
      cases last with
      | none => exact .pure Record.isTextual_clean (some (pos, .list values.reverse)) s
      | some r => exact .pure (hlast r rfl).carried (some (pos, .list values.reverse)) s
  | @cons p ps s t u pos i j v vs h _ ih =>
      refine Run.Replies.merged h hlast fun record hr => ?_
      have hvalues : values.reverse ++ v :: vs = (v :: values).reverse ++ vs := by
        rw [List.reverse_cons, List.append_assoc, List.singleton_append]
      rw [hvalues]
      exact ih (v :: values) (.some hr)

theorem AllReply.seqFrom_none (h : AllReply limits src s pos ps vs j t)
    (hq : (q.run limits src j).Replies t none u) (qs : List Parser) (values : List Value)
    {last : Option Reply} (hlast : Reply.LastTextual last) :
    (Action.seqFrom values last ((ps ++ q :: qs).map fun p => p.run limits) src pos).Replies s
      none u := by
  induction h generalizing values last with
  | nil s pos => exact Run.Replies.merged hq hlast fun record hr => .pure hr none u
  | @cons p ps s t u' pos i j v vs h _ ih =>
      exact Run.Replies.merged h hlast fun record hr => ih hq (v :: values) (.some hr)

/-- A sequence matches if its parsers match one after the other. -/
theorem replies_seq (h : AllReply limits src s pos ps vs j t) :
    ((seq ps).run limits src pos).Replies s (some (j, .list vs)) t := by
  rw [run, eval_seq]
  exact h.seqFrom [] .none

/-- A sequence fails if one of its parsers does, behind others that match. -/
theorem replies_seq_none (h : AllReply limits src s pos ps vs j t)
    (hq : (q.run limits src j).Replies t none u) (qs : List Parser) :
    ((seq (ps ++ q :: qs)).run limits src pos).Replies s none u := by
  rw [run, eval_seq]
  exact h.seqFrom_none hq qs [] .none

theorem replies_andThen (hp : (p.run limits src pos).Replies s (some (i, v)) t)
    (hq : (q.run limits src i).Replies t (some (j, w)) u) :
    ((p.andThen q).run limits src pos).Replies s (some (j, w)) u :=
  replies_map (replies_seq (.cons hp (.cons hq (.nil u j)))) rfl

theorem replies_andThen_none (hp : (p.run limits src pos).Replies s (some (i, v)) t)
    (hq : (q.run limits src i).Replies t none u) :
    ((p.andThen q).run limits src pos).Replies s none u :=
  replies_map_none (replies_seq_none (.cons hp (.nil t i)) hq []) _

/-! ### Choices -/

/-- Parsers fail one after the other at an offset, each in the store that the one before it
has left. -/
inductive NoneMatches (limits : Limits) (src : Text) (pos : Int) :
    Store → List Parser → Store → Prop
  | nil (s : Store) : NoneMatches limits src pos s [] s
  | cons {p : Parser} {ps : List Parser} {s t u : Store}
      (h : (p.run limits src pos).Replies s none t) (hs : NoneMatches limits src pos t ps u) :
      NoneMatches limits src pos s (p :: ps) u

theorem NoneMatches.append {qs : List Parser} (h : NoneMatches limits src pos s ps t)
    (h' : NoneMatches limits src pos t qs u) : NoneMatches limits src pos s (ps ++ qs) u := by
  induction h with
  | nil => exact h'
  | cons h _ ih => exact .cons h (ih h')

/-- Parsers that fail in one store, which stays as it is. -/
theorem NoneMatches.of_still {pos : Nat}
    (h : ∀ p ∈ ps, (Setting.still src limits s).Settles p pos none) :
    NoneMatches limits src pos s ps s := by
  induction ps with
  | nil => exact .nil s
  | cons p ps ih =>
      rw [List.forall_mem_cons] at h
      exact .cons h.1.replies (ih h.2)

theorem NoneMatches.altFrom (h : NoneMatches limits src pos s ps t) {record : Record}
    (hr : record.IsTextual) :
    (Action.altFrom (.failure record) (ps.map fun p => p.run limits) src pos).Replies s
      none t := by
  induction h generalizing record with
  | nil s => exact .pure hr none s
  | cons h _ ih =>
      exact Run.Replies.merged h (.some hr) fun record hr => ih hr

theorem NoneMatches.altFrom_some (h : NoneMatches limits src pos s ps t)
    (hq : (q.run limits src pos).Replies t (some (i, v)) u) (qs : List Parser)
    {record : Record} (hr : record.IsTextual) :
    (Action.altFrom (.failure record) ((ps ++ q :: qs).map fun p => p.run limits)
      src pos).Replies s (some (i, v)) u := by
  induction h generalizing record with
  | nil s =>
      exact Run.Replies.merged hq (.some hr) fun record hr => .pure hr (some (i, v)) u
  | cons h _ ih =>
      exact Run.Replies.merged h (.some hr) fun record hr => ih hq hr

/-- A choice matches as the first of its parsers that does. -/
theorem replies_alternatives (h : NoneMatches limits src pos s ps t)
    (hq : (q.run limits src pos).Replies t (some (i, v)) u) (qs : List Parser) :
    ((alternatives (ps ++ q :: qs)).run limits src pos).Replies s (some (i, v)) u := by
  cases h with
  | nil =>
      rw [List.nil_append, alternatives, run, eval_alt]
      exact Run.Replies.bind hq fun record hr => .pure hr (some (i, v)) u
  | cons h hs =>
      rw [List.cons_append, alternatives, run, eval_alt]
      exact Run.Replies.bind h fun record hr => hs.altFrom_some hq qs hr

/-- A choice fails if all of its parsers do. -/
theorem replies_alternatives_none (h : NoneMatches limits src pos s ps t) :
    ((alternatives ps).run limits src pos).Replies s none t := by
  cases h with
  | nil => exact .pure (Record.isTextual_single pos _) none s
  | cons h hs =>
      rw [alternatives, run, eval_alt]
      exact Run.Replies.bind h fun record hr => hs.altFrom hr

/-! ### Repetitions -/

/-- A parser matches again and again, each time in the store that the match before has left,
and never where it has started. -/
inductive Turns (p : Parser) (limits : Limits) (src : Text) :
    Store → Int → List Value → Int → Store → Prop
  | nil (s : Store) (pos : Int) : Turns p limits src s pos [] pos s
  | cons {s t u : Store} {pos i j : Int} {v : Value} {vs : List Value}
      (h : (p.run limits src pos).Replies s (some (i, v)) t) (hne : i ≠ pos)
      (hs : Turns p limits src t i vs j u) : Turns p limits src s pos (v :: vs) j u

theorem Turns.unbounded (h : p.Turns limits src s pos vs j t)
    (hend : (p.run limits src j).Replies t none u) {n : Nat} (hn : vs.length < n)
    (values : List Value) {last : Option Reply} (hlast : Reply.LastTextual last) :
    (Action.unbounded (p.run limits) src n ⟨values, last, pos⟩).Replies s
      (some (j, .list (values.reverse ++ vs))) u := by
  induction h generalizing n values last with
  | nil s pos =>
      obtain ⟨n, rfl⟩ := Nat.exists_eq_succ_of_ne_zero (Nat.ne_zero_of_lt hn)
      rw [List.append_nil]
      exact Run.Replies.merged hend hlast fun record hr =>
        .pure hr.carried (some (pos, .list values.reverse)) u
  | @cons s t u' pos i j v vs h hne _ ih =>
      obtain ⟨n, rfl⟩ := Nat.exists_eq_succ_of_ne_zero (Nat.ne_zero_of_lt hn)
      refine Run.Replies.merged h hlast fun record hr => ?_
      have hvalues : values.reverse ++ v :: vs = (v :: values).reverse ++ vs := by
        rw [List.reverse_cons, List.append_assoc, List.singleton_append]
      simp only [Reply.ofResult, if_neg hne]
      rw [hvalues]
      exact ih hend (Nat.lt_of_succ_lt_succ hn) (v :: values) (.some hr)

/-- A repetition matches as often as its parser does, if the limits suffice for one more
round. -/
theorem replies_many (h : p.Turns limits src s pos vs j t)
    (hend : (p.run limits src j).Replies t none u) (hrounds : vs.length < limits.rounds) :
    (p.many.run limits src pos).Replies s (some (j, .list vs)) u :=
  h.unbounded hend hrounds [] .none

end Parser

end Furthest
