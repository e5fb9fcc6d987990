import Furthest.Proofs.LedgerAlgebra
import Furthest.Proofs.Outcomes
import Furthest.Proofs.Transparency

/-!
# Entries of the Ledger

Where the outcome of a run is not enough, as for what a failed parse reports, its ledger is
needed as well. This module holds what is needed to say which ledger a particular grammar
leaves, entry by entry: `Run.Gives` says that a computation gives a result in all stores
with a property, the leaves are equations, and a lazy parser of a grammar gives what the
parser gives that its builder returns.

A parse reports the record of the ledger behind the demand for the end of the text, and a
record is known once the greatest offset of the ledger and the labels there are.

## Main results

* `Store.Presents.gives_lazy`: what a lazy parser of a grammar gives.
* `Ledger.record_eq`: the record of a ledger, from its furthest entries.
* `Parser.outcome_parse`: **what comes of a parse, from the run with a ledger.**
-/

namespace Furthest

/-- A computation gives a result in all stores with a property, and keeps it. -/
def Run.Gives {α : Type} (inv : Store → Prop) (m : Run α) (a : α) : Prop :=
  ∀ s, inv s → ∃ t, inv t ∧ m.exec s = (.ok a, t)

namespace Run.Gives

variable {α β : Type} {inv : Store → Prop} {m : Run α} {f : α → Run β} {a : α} {b : β}

theorem pure (inv : Store → Prop) (a : α) : Gives inv (pure a) a := fun s hs => ⟨s, hs, rfl⟩

theorem bind (h : Gives inv m a) (hf : Gives inv (f a) b) : Gives inv (m >>= f) b := by
  intro s hs
  obtain ⟨t, ht, he⟩ := h s hs
  rw [Run.exec_bind_of_ok he]
  exact hf t ht

theorem outcome_eq (h : Gives inv m a) {s : Store} (hs : inv s) : m.outcome s = .ok a := by
  obtain ⟨t, -, he⟩ := h s hs
  rw [Run.outcome, he]

end Run.Gives

/-- **A lazy parser of a grammar gives what the parser gives that its builder returns**, one
level deeper. -/
theorem Store.Presents.gives_lazy {g : Store} {target : Nat → Parser} (hg : g.Presents target)
    {id : Nat} (hid : id < g.slots.size)
    (hr : resolution id (.parser (target id)) = .ok (target id)) {rounds depth pos : Nat}
    {src : Text} {t : Attempt}
    (h : Run.Gives g.Later
      ((target id).evalLedger rounds (runLazyLedger rounds depth) src pos) t) :
    Run.Gives g.Later (runLazyLedger rounds (depth + 1) id src pos) t := by
  have hforce : Run.Gives g.Later (Store.force id) (target id) := fun s hs =>
    ⟨_, hs.forced id, hg.exec_force (hs.copyOf hg) hid hr⟩
  exact hforce.bind h

/-- **A lazy parser of a grammar has the outcome of the parser that its builder returns**,
one level deeper. -/
theorem Store.Presents.settles_lazy {g : Store} {target : Nat → Parser}
    (hg : g.Presents target) {id : Nat} (hid : id < g.slots.size)
    (hr : resolution id (.parser (target id)) = .ok (target id)) {rounds depth pos : Nat}
    {src : Text} {o : Option (Nat × Value)}
    (h : Setting.Settles ⟨src, ⟨depth, rounds⟩, g.Later⟩ (target id) pos o) :
    Setting.Settles ⟨src, ⟨depth + 1, rounds⟩, g.Later⟩ (.lazy id) pos o := by
  intro s hs
  have hforce := hg.exec_force (hs.copyOf hg) hid hr
  obtain ⟨l, t, ht, he⟩ := h _ (hs.forced id)
  exact ⟨l, t, ht, (Run.exec_bind_of_ok hforce).trans he⟩

/-! ### Leaves -/

namespace LedgerAction

variable {src rest text : Text} {pos : Nat}

theorem leaf_of_matched {a : Action} {index : Nat} {value : Value}
    (h : a src pos = pure (.matched index value)) :
    leaf a src pos = pure ⟨some (index, value), []⟩ := by
  rw [leaf, h]
  rfl

theorem leaf_of_mismatch {a : Action} {label : Text}
    (h : a src pos = pure (.mismatch pos (.text label))) :
    leaf a src pos = pure ⟨none, [⟨pos, label⟩]⟩ := by
  rw [leaf, h]
  rfl

theorem leaf_literal (h : src.RestAt pos (text ++ rest)) :
    leaf (Action.literal text) src pos = pure ⟨some (pos + text.length, .text text), []⟩ :=
  leaf_of_matched (Action.literal_eq h)

theorem leaf_literal_none (h : src.RestAt pos rest) (ht : ¬ text <+: rest) :
    leaf (Action.literal text) src pos = pure ⟨none, [⟨pos, "'" ++ text ++ "'"⟩]⟩ :=
  leaf_of_mismatch (Action.literal_eq_mismatch h ht)

theorem leaf_eof (h : ¬ pos < src.length) :
    leaf Action.eof src pos = pure ⟨some (pos, .none), []⟩ :=
  leaf_of_matched (Action.eof_eq h)

theorem leaf_eof_none (h : pos < src.length) :
    leaf Action.eof src pos = pure ⟨none, [⟨pos, "EOF"⟩]⟩ :=
  leaf_of_mismatch (Action.eof_eq_mismatch h)

end LedgerAction

/-! ### Records -/

namespace Ledger

/-- A bound of all offsets bounds the greatest one. -/
theorem furthest_lt {l : Ledger} {bound : Nat} (h : ∀ m ∈ l, m.offset < bound) :
    l.furthest < bound := by
  by_cases hl : l = []
  · subst hl
    change (-1 : Int) < bound
    omega
  · obtain ⟨m, hm, hoffset⟩ := exists_furthest hl
    have hlt := h m hm
    omega

/-- Failures before the furthest one do not matter. -/
theorem record_append_of_lt {k l : Ledger} (h : l.furthest < k.furthest) :
    record (k ++ l) = k.record := by
  have hf : furthest (k ++ l) = k.furthest := by
    rw [furthest_append]
    omega
  rw [record, hf, labelsAt_append, labelsAt_eq_nil h, List.append_nil, record]

/-- The record of a ledger has the greatest offset and the labels there. -/
theorem record_eq {l : Ledger} {offset : Nat} {labels : List Text}
    (hle : ∀ m ∈ l, m.offset ≤ offset) (hsorted : labels.Pairwise (· < ·)) (hne : labels ≠ [])
    (hmem : ∀ label, label ∈ labels ↔ ∃ m ∈ l, m.offset = offset ∧ m.label = label) :
    l.record = ⟨offset, labels.map .text⟩ := by
  have hfurthest : l.furthest = offset := by
    obtain ⟨label, hlabel⟩ := List.exists_mem_of_ne_nil _ hne
    obtain ⟨m, hm, rfl, -⟩ := (hmem label).mp hlabel
    obtain ⟨n, hn, hn'⟩ := exists_furthest (List.ne_nil_of_mem hm)
    have hm' := le_furthest hm
    have hn'' := hle n hn
    omega
  have hlabels : labels = Text.sortedDistinct (l.labelsAt offset) := by
    refine Text.eq_sortedDistinct hsorted fun label => ?_
    rw [hmem, mem_labelsAt]
    simp only [Int.natCast_inj]
  rw [record, hfurthest, ← hlabels]

end Ledger

/-! ### Parses -/

/-- The failure of a parse with a record. -/
def Parsed.failed (src : Text) (record : Record) : Parsed :=
  .failure ⟨src, Position.ofOffset src record.furthest, record.expected⟩

namespace Attempt

/-- An attempt behind which the end of the text is demanded. -/
def ended (t : Attempt) (src : Text) : Attempt :=
  match t.result with
  | some (index, _) =>
    if index < src.length then ⟨none, t.ledger ++ [⟨index, "EOF"⟩]⟩ else t
  | none => t

/-- What comes of a parse that ends with an attempt. -/
def parsed (t : Attempt) (src : Text) : Parsed :=
  match t.result with
  | some (_, value) => .value value
  | none => .failed src t.ledger.record

variable {src : Text} {index : Nat}

/-- A match that ends before the end of the text. -/
theorem ended_of_lt (h : index < src.length) (value : Value) (l : Ledger) :
    ended ⟨some (index, value), l⟩ src = ⟨none, l ++ [⟨index, "EOF"⟩]⟩ := if_pos h

/-- A match up to the end. -/
theorem ended_of_not_lt (h : ¬ index < src.length) (value : Value) (l : Ledger) :
    ended ⟨some (index, value), l⟩ src = ⟨some (index, value), l⟩ := if_neg h

/-- The parse of a match that ends before the end of the text. -/
theorem parsed_ended_of_lt (h : index < src.length) (value : Value) (l : Ledger) :
    (ended ⟨some (index, value), l⟩ src).parsed src
      = .failed src (Ledger.record (l ++ [⟨index, "EOF"⟩])) := by
  rw [ended_of_lt h, parsed]

/-- The parse of a match up to the end. -/
theorem parsed_ended_of_not_lt (h : ¬ index < src.length) (value : Value) (l : Ledger) :
    (ended ⟨some (index, value), l⟩ src).parsed src = .value value := by
  rw [ended_of_not_lt h, parsed]

end Attempt

namespace Parser

variable {p : Parser} {limits : Limits} {src : Text} {s s' : Store} {t : Attempt}

/-- The end of the text is demanded behind a run. -/
theorem exec_skip_eof {pos : Nat} (h : (p.runLedger limits src pos).exec s = (.ok t, s')) :
    ((p.skip eof).runLedger limits src pos).exec s = (.ok (t.ended src), s') := by
  have hskip : (p.skip eof).runLedger limits
      = .chain (p.runLedger limits)
          fun v => .chain (.leaf Action.eof) fun _ => .succeed v := by
    simp only [runLedger, skip, evalLedger_map_seq, List.map_cons, List.map_nil,
      LedgerAction.chainAll, LedgerAction.perform_pure, Value.items, List.getD_cons_zero,
      evalLedger]
  obtain ⟨_ | ⟨index, value⟩, l⟩ := t
  · rw [hskip, LedgerAction.chain, Run.exec_bind_of_ok h]
    rfl
  · rw [hskip, LedgerAction.chain, Run.exec_bind_of_ok h, Attempt.ended]
    by_cases hend : index < src.length
    · simp only [LedgerAction.chain, LedgerAction.leaf_eof_none hend, pure_bind, if_pos hend]
      rfl
    · simp only [LedgerAction.chain, LedgerAction.leaf_eof hend,
        LedgerAction.succeed, pure_bind, Attempt.behind, List.append_nil, if_neg hend]
      rfl

/-- The run behind which the end of the text is demanded leaves the store as the run itself
does. -/
theorem exec_run_skip_eof (hp : p.IsLibrary) (hs : s.Admits IsLibrary)
    (h : (p.runLedger limits src 0).exec s = (.ok t, s')) :
    ((p.skip eof).run limits src 0).exec s = (.ok (t.ended src).reply, s') := by
  have hplain : ∀ q : Parser, q.IsPlain → ¬ q.IsCustom ∧ q.HasTextLabel :=
    fun _ => IsPlain.isLibrary
  have hexec := exec_run (.skip hplain hp (.eof hplain)) hs limits src 0
  rw [Run.outcome, Run.after, exec_skip_eof h] at hexec
  exact hexec

/-- **What comes of a parse**, from the run with a ledger of a parser of the library. -/
theorem outcome_parse (hp : p.IsLibrary) (hs : s.Admits IsLibrary)
    (h : (p.runLedger limits src 0).outcome s = .ok t) :
    (p.parse limits src).outcome s = .ok ((t.ended src).parsed src) := by
  have hledger : (p.runLedger limits src 0).exec s
    = (.ok t, (p.runLedger limits src 0).after s) :=
    Prod.ext h rfl
  rw [parse, Run.outcome, Run.exec_bind_of_ok (exec_run_skip_eof hp hs hledger)]
  generalize t.ended src = u
  obtain ⟨_ | ⟨index, value⟩, l⟩ := u
  · rfl
  · rfl

end Parser

end Furthest
