import Furthest.Proofs.Choices

/-!
# Laws of Lookaheads

A lookahead runs its parser and goes back to where it has started, and a negative one turns
the outcome around besides. So both are told by the reply of the parser, and most of their
laws are laws of replies: looking ahead twice is looking ahead once, a parser is either
there or not, and what is not absent is there.

Two laws are about a parser that is run behind a lookahead for it. The second run comes to
the same as the first one, but the records differ in what becomes of the first run. A
lookahead keeps its failures, and they are the same as those of the second run, so that the
record of both is that of one. A negative lookahead discards its failures, so that those of
the second run are all there are.

## Main definitions

* `Reply.ahead`, `Reply.absent`: the replies of a lookahead and of a negative one.

## Main results

* `Parser.run_lookahead`, `Parser.run_notFollowedBy`: lookaheads are told by the reply of
  their parser.
* `Parser.lookahead_andThen_repliesAs`: **a parser behind a lookahead for it** replies as it
  does alone.
* `Parser.exec_notFollowedBy_andThen`: a parser behind a negative lookahead for it never
  matches.
* `Parser.lookahead_laws`: **the laws of lookaheads.**
-/

namespace Furthest

/-! ### Replies of lookaheads -/

/-- Failures before offset `-1` are dropped once. -/
@[simp] theorem Record.carried_carried (r : Record) : r.carried.carried = r.carried := by
  by_cases h : r.furthest < -1
  · have hcarried : r.carried = clean := if_pos h
    rw [hcarried]
    rfl
  · have hcarried : r.carried = r := if_neg h
    rw [hcarried, hcarried]

namespace Reply

/-- The reply of a lookahead for a parser with this reply. -/
def ahead (r : Reply) (pos : Int) : Reply :=
  match r with
  | success _ value record => success pos value record.carried
  | failure record => failure record

/-- The reply of a negative lookahead for a parser with this reply. -/
def absent (r : Reply) (pos : Int) (label : Label) : Reply :=
  match r with
  | success .. => mismatch pos label
  | failure _ => matched pos .none

/-- A reply does not go on from an offset: if it is a success, its index is that offset. -/
def StaysAt (r : Reply) (pos : Int) : Prop :=
  ∀ index value record, r = success index value record → index = pos

variable (r : Reply) (pos : Int) (label : Label)

theorem ahead_ahead : (r.ahead pos).ahead pos = r.ahead pos := by
  cases r with
  | success index value record => simp [ahead]
  | failure record => rfl

theorem isSuccess_ahead : (r.ahead pos).isSuccess = r.isSuccess := by
  cases r <;> rfl

theorem isSuccess_absent : (r.absent pos label).isSuccess = !r.isSuccess := by
  cases r <;> rfl

theorem staysAt_ahead : (r.ahead pos).StaysAt pos := by
  cases r with
  | success index value record =>
      rintro _ _ _ ⟨⟩
      rfl
  | failure record => exact fun _ _ _ h => nomatch h

theorem staysAt_absent : (r.absent pos label).StaysAt pos := by
  cases r with
  | success index value record => exact fun _ _ _ h => nomatch h
  | failure record =>
      rintro _ _ _ ⟨⟩
      rfl

end Reply

namespace Parser

variable {p : Parser} {limits : Limits} {src : Text} {s t : Store} {r : Reply}

/-! ### Runs of lookaheads -/

/-- A lookahead is told by the reply of its parser. -/
theorem run_lookahead (p : Parser) (limits : Limits) (src : Text) (pos : Int) :
    (lookahead p).run limits src pos
      = (fun r : Reply => r.ahead pos) <$> p.run limits src pos := by
  have hrun : (lookahead p).run limits = (p.run limits).lookahead := rfl
  rw [hrun, Action.lookahead, ← bind_pure_comp]
  refine bind_congr fun r => ?_
  cases r <;> rfl

/-- A negative lookahead is told by the reply of its parser. -/
theorem run_notFollowedBy (p : Parser) (label : Label) (limits : Limits)
    (src : Text) (pos : Int) :
    (notFollowedBy p label).run limits src pos
      = (fun r : Reply => r.absent pos label) <$> p.run limits src pos := by
  have hrun : (notFollowedBy p label).run limits = (p.run limits).notFollowedBy label := rfl
  rw [hrun, Action.notFollowedBy, ← bind_pure_comp]
  refine bind_congr fun r => ?_
  cases r <;> rfl

theorem exec_lookahead {pos : Int} (h : (p.run limits src pos).exec s = (.ok r, t)) :
    ((lookahead p).run limits src pos).exec s = (.ok (r.ahead pos), t) := by
  rw [run_lookahead, Run.exec_map, Run.outcome, Run.after, h]
  rfl

theorem exec_notFollowedBy {pos : Int} (h : (p.run limits src pos).exec s = (.ok r, t))
    (label : Label) :
    ((notFollowedBy p label).run limits src pos).exec s = (.ok (r.absent pos label), t) := by
  rw [run_notFollowedBy, Run.exec_map, Run.outcome, Run.after, h]
  rfl

/-- **Looking ahead twice is looking ahead once.** -/
theorem lookahead_lookahead (p : Parser) (limits : Limits) :
    (lookahead (lookahead p)).run limits = (lookahead p).run limits := by
  funext src pos
  simp only [run_lookahead, Functor.map_map, Reply.ahead_ahead]

/-! ### A parser behind a lookahead for it -/

theorem IsLibrary.lookahead (hp : p.IsLibrary) : (Parser.lookahead p).IsLibrary := by
  refine .intro ⟨id, trivial⟩ fun q hq => ?_
  cases hq
  exact hp

theorem IsLibrary.notFollowedBy (hp : p.IsLibrary) (label : Text) :
    (Parser.notFollowedBy p (.text label)).IsLibrary := by
  refine .intro ⟨id, label, rfl⟩ fun q hq => ?_
  cases hq
  exact hp

/-- **A parser behind a lookahead for it** replies as it does alone. It is run twice, and
the failures of the first run are those of the second one. -/
theorem lookahead_andThen_repliesAs (hp : p.IsLibrary) :
    ((lookahead p).andThen p).RepliesAs p := by
  refine (andThen_runsAs hp.lookahead hp).repliesAs.trans ?_
  refine .of_runLedger (hp.lookahead.chain fun _ => hp) hp fun s limits src pos => ?_
  rcases hexec : (p.runLedger limits src pos).exec s with ⟨e | ⟨_ | ⟨i, v⟩, l⟩, t⟩
  · have hahead : ((lookahead p).runLedger limits src pos).exec s = (.error e, t) :=
      Run.exec_bind_of_error hexec
    exact ⟨_, t, _, t, LedgerAction.exec_chain_of_error hahead, rfl, rfl, .refl t⟩
  · have hahead : ((lookahead p).runLedger limits src pos).exec s = (.ok ⟨none, l⟩, t) :=
      Run.exec_bind_of_ok hexec
    exact ⟨_, t, _, t, LedgerAction.exec_chain_of_none hahead, rfl, rfl, .refl t⟩
  · have hahead : ((lookahead p).runLedger limits src pos).exec s
      = (.ok ⟨some (pos, v), l⟩, t) :=
      Run.exec_bind_of_ok hexec
    obtain ⟨u, hagain, hu⟩ := exec_runLedger_again hexec fun _ _ h => h
    refine ⟨_, u, _, t, LedgerAction.exec_chain_of_some hahead hagain, rfl, ?_, hu.symm⟩
    exact congrArg Except.ok (Attempt.reply_congr rfl fun m => by simp [Attempt.behind])

/-- **A parser behind a negative lookahead for it never matches.** It fails as it does
alone, or with the label of the lookahead. -/
theorem exec_notFollowedBy_andThen (hp : p.IsLibrary) (hs : s.Admits IsLibrary) {pos : Nat}
    (h : (p.run limits src pos).exec s = (.ok r, t)) (label : Text) :
    ∃ u, t.SameButNotes u
      ∧ (((notFollowedBy p (.text label)).andThen p).run limits src pos).exec s
          = (.ok (if r.isSuccess then .mismatch pos (.text label) else r), u) := by
  have hn := hp.notFollowedBy label
  have hchain := hn.chain fun _ => hp
  obtain ⟨⟨_ | ⟨i, v⟩, l⟩, hledger, rfl⟩ := exists_ledger_of_run hp hs h
  · have habsent : ((notFollowedBy p (.text label)).runLedger limits src pos).exec s
        = (.ok ⟨some (pos, .none), []⟩, t) := Run.exec_bind_of_ok hledger
    obtain ⟨u, hagain, hu⟩ := exec_runLedger_again hledger fun _ _ h => h
    refine ⟨u, hu, ?_⟩
    rw [andThen_runsAs hn hp s hs]
    exact exec_run_of_ledger hchain hs (LedgerAction.exec_chain_of_some habsent hagain)
  · have habsent : ((notFollowedBy p (.text label)).runLedger limits src pos).exec s
        = (.ok ⟨none, [⟨pos, label⟩]⟩, t) := Run.exec_bind_of_ok hledger
    refine ⟨t, .refl t, ?_⟩
    rw [andThen_runsAs hn hp s hs]
    have hmiss : (⟨none, [⟨pos, label⟩]⟩ : Attempt).reply = .mismatch pos (.text label) := by
      rw [Attempt.reply, Ledger.record_single]
      rfl
    have hexec := exec_run_of_ledger hchain hs (LedgerAction.exec_chain_of_none habsent)
    rw [Except.map, hmiss] at hexec
    exact hexec

/-- **The laws of lookaheads.** A parser behind a lookahead for it replies as it does alone,
and looking ahead twice is looking ahead once. Where a parser replies, either the lookahead
for it succeeds or the negative one does, neither goes on from the offset, and a negative
lookahead for the negative one succeeds as the parser itself does. A parser behind a
negative lookahead for it never matches: where it fails alone, it fails in the same way, and
else there is the label of the lookahead alone. -/
theorem lookahead_laws (hp : p.IsLibrary) (label : Text) :
    ((lookahead p).andThen p).RepliesAs p
      ∧ (∀ limits, (lookahead (lookahead p)).run limits = (lookahead p).run limits)
      ∧ (∀ limits src (pos : Int) s t r, (p.run limits src pos).exec s = (.ok r, t) →
          ∃ ahead absent present,
            ((lookahead p).run limits src pos).exec s = (.ok ahead, t)
              ∧ ((notFollowedBy p (.text label)).run limits src pos).exec s = (.ok absent, t)
              ∧ ((notFollowedBy (notFollowedBy p (.text label)) (.text label)).run limits src
                  pos).exec s = (.ok present, t)
              ∧ (ahead.isSuccess = !absent.isSuccess)
              ∧ ahead.StaysAt pos ∧ absent.StaysAt pos
              ∧ present.isSuccess = r.isSuccess)
      ∧ ∀ s, s.Admits IsLibrary → ∀ limits src (pos : Nat) t r,
          (p.run limits src pos).exec s = (.ok r, t) →
          ∃ u, t.SameButNotes u
            ∧ (((notFollowedBy p (.text label)).andThen p).run limits src pos).exec s
                = (.ok (if r.isSuccess then .mismatch pos (.text label) else r), u) := by
  refine ⟨lookahead_andThen_repliesAs hp, lookahead_lookahead p, ?_, ?_⟩
  · intro limits src pos s t r h
    have habsent := exec_notFollowedBy h (.text label)
    refine ⟨_, _, _, exec_lookahead h, habsent, exec_notFollowedBy habsent (.text label), ?_,
      r.staysAt_ahead pos, r.staysAt_absent pos _, ?_⟩
    · rw [Reply.isSuccess_ahead, Reply.isSuccess_absent, Bool.not_not]
    · rw [Reply.isSuccess_absent, Reply.isSuccess_absent, Bool.not_not]
  · intro s hs limits src pos t r h
    exact exec_notFollowedBy_andThen hp hs h label

/-- A list behind lookaheads for it, where it is closed and where it is not. Closing it has
been tried after a comma was missing, which is on record both times. -/
theorem lookahead_laws_lists :
    let p := lazy 0
    let label : Text := "no list"
    let closed := Reply.success 3 (.list [.text "1"]) ⟨2, [.text "','"]⟩
    let unclosed := Reply.failure ⟨2, [.text "','", .text "']'"]⟩
    let absent := (notFollowedBy p (.text label)).andThen p
    p.IsLibrary ∧ Store.lists.Admits IsLibrary
      ∧ (p.run ⟨3, 4⟩ "[1]" (0 : Nat)).outcome .lists = .ok closed
      ∧ (((lookahead p).andThen p).run ⟨3, 4⟩ "[1]" (0 : Nat)).outcome .lists = .ok closed
      ∧ (absent.run ⟨3, 4⟩ "[1]" (0 : Nat)).outcome .lists = .ok (.mismatch 0 (.text label))
      ∧ (p.run ⟨3, 4⟩ "[1" (0 : Nat)).outcome .lists = .ok unclosed
      ∧ (absent.run ⟨3, 4⟩ "[1" (0 : Nat)).outcome .lists = .ok unclosed := by
  intro p label closed unclosed absent
  have hp : p.IsLibrary := .lazy (fun _ => IsPlain.isLibrary) 0
  have hs : Store.lists.Admits IsLibrary :=
    Store.lists_admits (fun _ => IsPlain.isLibrary) ⟨id, trivial⟩
  obtain ⟨t, hclosed⟩ : ∃ t, (p.run ⟨3, 4⟩ "[1]" (0 : Nat)).exec .lists = (.ok closed, t) :=
    ⟨_, rfl⟩
  obtain ⟨u, hunclosed⟩ : ∃ u, (p.run ⟨3, 4⟩ "[1" (0 : Nat)).exec .lists = (.ok unclosed, u) :=
    ⟨_, rfl⟩
  obtain ⟨hahead, -, -, habsent⟩ := lookahead_laws hp label
  obtain ⟨_, -, hpresent⟩ := habsent _ hs ⟨3, 4⟩ "[1]" 0 t _ hclosed
  obtain ⟨_, -, hfails⟩ := habsent _ hs ⟨3, 4⟩ "[1" 0 u _ hunclosed
  have hclosed' := congrArg Prod.fst hclosed
  exact ⟨hp, hs, hclosed', ((hahead _ hs ⟨3, 4⟩ "[1]" 0).1).trans hclosed',
    congrArg Prod.fst hpresent, congrArg Prod.fst hunclosed, congrArg Prod.fst hfails⟩

end Parser

end Furthest
