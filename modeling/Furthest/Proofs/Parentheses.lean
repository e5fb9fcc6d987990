import Furthest.Proofs.Entries
import Furthest.Proofs.Translation

/-!
# Balanced Parentheses

The grammar of balanced parentheses refers to itself through a lazy parser, and each of its
levels matches the empty text if it is not closed. So a text with an opening parenthesis too
many is not refused where the closing one is missing: the innermost level that is not closed
matches the empty text instead, the level around it finds an opening parenthesis where it
expects a closing one, and so on outward, until the whole grammar has matched the empty
text. What is reported is still the right place, because the ledger holds the failure of the
innermost level, and the failures of all other levels lie before it.

## Main results

* `Parser.gives_closed`, `Parser.gives_unclosed`: what a level leaves in the ledger.
* `Store.parse_balanced`: **what comes of every text.**
-/

namespace Furthest

namespace Text

/-! ### What a text starts with -/

/-- A text is a run of a character and a rest that does not start with it. -/
theorem exists_run (c : CodePoint) (t : Text) :
    ∃ rest, t = List.replicate (t.takeWhile (· == c)).length c ++ rest ∧ ¬ [c] <+: rest := by
  induction t with
  | nil => exact ⟨[], rfl, fun h => List.cons_ne_nil _ _ (List.prefix_nil.mp h)⟩
  | cons d t ih =>
      by_cases hd : d = c
      · subst hd
        obtain ⟨rest, ht, hrest⟩ := ih
        refine ⟨rest, ?_, hrest⟩
        have hrun : (d :: t).takeWhile (· == d) = d :: t.takeWhile (· == d) :=
          List.takeWhile_cons_of_pos (beq_self_eq_true d)
        rw [hrun, List.length_cons, List.replicate_succ, List.cons_append, ← ht]
      · refine ⟨d :: t, ?_, ?_⟩
        · rw [List.takeWhile_cons_of_neg (by simpa using hd)]
          rfl
        · rw [List.cons_prefix_cons]
          rintro ⟨rfl, -⟩
          exact hd rfl

/-- The number of opening parentheses at the start. -/
def opened (src : Text) : Nat := (src.takeWhile (· == 40)).length

/-- The number of these that are closed by the parentheses right behind them. -/
def closed (src : Text) : Nat :=
  min src.opened ((src.drop src.opened).takeWhile (· == 41)).length

/-- A text is a number of opening parentheses, as many closing ones as close some of them,
and a rest that starts with neither if it could still do so. -/
theorem exists_parentheses (src : Text) :
    ∃ rest, src = List.replicate src.opened 40 ++ (List.replicate src.closed 41 ++ rest)
      ∧ ¬ "(" <+: List.replicate src.closed 41 ++ rest
      ∧ (src.closed < src.opened → ¬ ")" <+: rest) := by
  obtain ⟨tail, hsrc, htail⟩ := exists_run 40 src
  obtain ⟨rest, hrest, hnone⟩ := exists_run 41 tail
  have hdrop : src.drop src.opened = tail :=
    calc src.drop src.opened
        = (List.replicate src.opened 40 ++ tail).drop src.opened :=
          congrArg (·.drop src.opened) hsrc
      _ = tail := List.drop_left' List.length_replicate
  rw [closed, hdrop]
  generalize (tail.takeWhile (· == 41)).length = m at hrest
  -- closing parentheses beyond those that close an opening one belong to the rest
  have hsplit : tail = List.replicate (min src.opened m) 41
      ++ (List.replicate (m - src.opened) 41 ++ rest) := by
    have hm : min src.opened m + (m - src.opened) = m := by omega
    rw [← List.append_assoc, List.replicate_append_replicate, hm]
    exact hrest
  refine ⟨List.replicate (m - src.opened) 41 ++ rest, ?_, ?_, ?_⟩
  · rw [← hsplit]
    exact hsrc
  · rw [← hsplit]
    exact htail
  · intro hlt
    have hzero : m - src.opened = 0 := by omega
    rw [hzero]
    exact hnone

/-- Behind a run of a character. -/
theorem RestAt.advance_replicate {src rest : Text} {pos n : Nat} {c : CodePoint}
    (h : src.RestAt pos (List.replicate n c ++ rest)) : src.RestAt (pos + n) rest := by
  have hrest := h.advance
  rwa [List.length_replicate] at hrest

end Text

/-- All parts of the grammar of balanced parentheses are parsers of the library. -/
theorem Store.balanced_isLibrary : balanced.Admits Parser.IsLibrary := by
  have hplain : ∀ p : Parser, p.IsPlain → ¬ p.IsCustom ∧ p.HasTextLabel :=
    fun _ => Parser.IsPlain.isLibrary
  have hpair : (Parser.seq [.literal "(", .lazy 0, .literal ")"]).IsLibrary := by
    refine Parser.Throughout.seq hplain ?_
    rw [List.forall_mem_cons, List.forall_mem_cons, List.forall_mem_singleton]
    exact ⟨.literal hplain _, .lazy hplain 0, .literal hplain _⟩
  have hlevel : Parser.parentheses.IsLibrary := .orElse hplain hpair (.succeed hplain _)
  exact admits_allocate (List.forall_mem_singleton.mpr (.constant hlevel _))

/-- The grammar of balanced parentheses, whose builder always returns the same parser. -/
theorem Store.balanced_presents : balanced.Presents fun _ => .parentheses where
  unresolved := by
    intro j slot hj
    match j with
    | 0 =>
        cases hj
        rfl
  constant := by
    intro j slot hj attempt next
    match j with
    | 0 =>
        cases hj
        rfl

namespace Parser

variable {src rest tail : Text} {rounds depth pos index : Nat} {lazies : Nat → LedgerAction}
  {value : Value} {l : Ledger} {inv : Store → Prop}

/-! ### One level -/

/-- A level is a pair of parentheses, or else the empty text, which keeps the failures of
the pair.
-/
theorem evalLedger_parentheses (src : Text) (pos : Nat) :
    parentheses.evalLedger rounds lazies src pos
      = (do
          let t ← LedgerAction.chainAll
            [.leaf (Action.literal "("), lazies 0, .leaf (Action.literal ")")]
            (fun vs => .succeed (.list vs)) src pos
          if t.result.isSome then return t else return ⟨some (pos, .none), t.ledger⟩) := by
  have hempty : LedgerAction.leaf (Action.succeed .none) src pos
      = pure ⟨some (pos, .none), []⟩ := rfl
  simp only [parentheses, alternatives, evalLedger, evalLedgerAll, LedgerAction.altFrom,
    LedgerAction.seqFrom_nil_nil, hempty, pure_bind, List.nil_append,
    Option.isSome_some, if_true, Attempt.behind, List.append_nil]

/-- Where no parenthesis opens, a level matches the empty text. -/
theorem gives_unopened (h : src.RestAt pos rest) (hrest : ¬ "(" <+: rest) :
    Run.Gives inv (parentheses.evalLedger rounds lazies src pos)
      ⟨some (pos, .none), [⟨pos, "'('"⟩]⟩ := by
  rw [evalLedger_parentheses, LedgerAction.chainAll, LedgerAction.chain,
    LedgerAction.leaf_literal_none h hrest]
  exact .pure _ _

section

variable (h : src.RestAt pos (40 :: tail))
  (hinner : Run.Gives inv (lazies 0 src (pos + 1)) ⟨some (index, value), l⟩)
include h hinner

/-- A level that is closed. -/
theorem gives_closing (hclose : src.RestAt index (41 :: rest)) :
    Run.Gives inv (parentheses.evalLedger rounds lazies src pos)
      ⟨some (index + 1, .list [.text "(", value, .text ")"]), l⟩ := by
  have hliteral : LedgerAction.leaf (Action.literal "(") src pos = _ :=
    LedgerAction.leaf_literal h
  have hclosing : LedgerAction.leaf (Action.literal ")") src index = _ :=
    LedgerAction.leaf_literal hclose
  simp only [evalLedger_parentheses, LedgerAction.chainAll, LedgerAction.chain,
    hliteral, pure_bind, bind_assoc]
  refine hinner.bind ?_
  simp only [hclosing, LedgerAction.succeed, pure_bind, Attempt.behind, List.append_nil]
  exact .pure _ _

/-- A level that is not closed matches the empty text, with a failure where it is not
closed. -/
theorem gives_reopened (hclose : src.RestAt index rest) (hrest : ¬ ")" <+: rest) :
    Run.Gives inv (parentheses.evalLedger rounds lazies src pos)
      ⟨some (pos, .none), l ++ [⟨index, "')'"⟩]⟩ := by
  have hliteral : LedgerAction.leaf (Action.literal "(") src pos = _ :=
    LedgerAction.leaf_literal h
  have hclosing := LedgerAction.leaf_literal_none hclose hrest
  simp only [evalLedger_parentheses, LedgerAction.chainAll, LedgerAction.chain,
    hliteral, pure_bind, bind_assoc]
  refine hinner.bind ?_
  simp only [hclosing, pure_bind]
  exact .pure _ _

end

/-! ### All levels -/

/-- The value of nested parentheses. -/
def nested : Nat → Value
  | 0 => .none
  | n + 1 => .list [.text "(", nested n, .text ")"]

/-- What the lazy parser gives is what one level gives. -/
theorem gives_level {t : Attempt}
    (h : Run.Gives Store.balanced.Later
      (parentheses.evalLedger rounds (runLazyLedger rounds depth) src pos) t) :
    Run.Gives Store.balanced.Later (runLazyLedger rounds (depth + 1) 0 src pos) t :=
  Store.balanced_presents.gives_lazy Nat.one_pos rfl h

/-- **Parentheses that are all closed**, to any depth. On the way, nothing fails but the
attempt to open one more. -/
theorem gives_closed {n : Nat} (hdepth : n < depth)
    (h : src.RestAt pos (List.replicate n 40 ++ (List.replicate n 41 ++ rest)))
    (hrest : ¬ "(" <+: List.replicate n 41 ++ rest) :
    Run.Gives Store.balanced.Later (runLazyLedger rounds depth 0 src pos)
      ⟨some (pos + n + n, nested n), [⟨pos + n, "'('"⟩]⟩ := by
  obtain ⟨depth, rfl⟩ := Nat.exists_eq_succ_of_ne_zero (Nat.ne_zero_of_lt hdepth)
  induction n generalizing pos depth rest with
  | zero => exact gives_level (gives_unopened h hrest)
  | succ n ih =>
      obtain ⟨depth, rfl⟩ := Nat.exists_eq_succ_of_ne_zero (by omega : depth ≠ 0)
      have hlast : List.replicate (n + 1) 41 ++ rest = List.replicate n 41 ++ 41 :: rest := by
        rw [List.replicate_succ', List.append_assoc, List.singleton_append]
      rw [hlast] at h hrest
      have hinner := ih h.next hrest depth (by omega)
      have hclose := h.next.advance_replicate.advance_replicate
      have hlevel := gives_level (gives_closing h hinner hclose)
      have hfirst : pos + 1 + n = pos + (n + 1) := by omega
      rw [hfirst] at hlevel
      exact hlevel

/-- **Parentheses of which the outer ones are not closed.** The innermost of these matches
the empty text, and the furthest failure is where its closing parenthesis is missing. The
levels around it find an opening parenthesis instead, one level after the other. -/
theorem gives_unclosed {n d : Nat} (hdepth : n + d + 1 < depth)
    (h : src.RestAt pos (List.replicate (n + d + 1) 40 ++ (List.replicate n 41 ++ rest)))
    (hopen : ¬ "(" <+: List.replicate n 41 ++ rest) (hclose : ¬ ")" <+: rest) :
    Run.Gives Store.balanced.Later (runLazyLedger rounds depth 0 src pos)
      ⟨some (pos, .none), ⟨pos + (n + d + 1), "'('"⟩ :: ⟨pos + (n + d + 1) + n, "')'"⟩
        :: (List.range' (pos + 1) d).reverse.map (⟨·, "')'"⟩)⟩ := by
  obtain ⟨depth, rfl⟩ := Nat.exists_eq_succ_of_ne_zero (Nat.ne_zero_of_lt hdepth)
  induction d generalizing pos depth with
  | zero =>
      have hinner : Run.Gives _ (runLazyLedger rounds depth 0 src (pos + 1)) _ :=
        gives_closed (by omega) h.next hopen
      have hend := h.next.advance_replicate.advance_replicate
      have hlevel := gives_level (gives_reopened h hinner hend hclose)
      have hfirst : pos + 1 + n = pos + (n + 1) := by omega
      rw [hfirst] at hlevel
      exact hlevel
  | succ d ih =>
      obtain ⟨depth, rfl⟩ := Nat.exists_eq_succ_of_ne_zero (by omega : depth ≠ 0)
      have hinner := ih h.next depth (by omega)
      -- the level within has matched the empty text, so what it began with still stands
      -- there
      have hopened :
          ¬ ")" <+: 40 :: (List.replicate (n + d) 40 ++ (List.replicate n 41 ++ rest)) :=
        fun hp => absurd (List.cons_prefix_cons.mp hp).1 (by decide)
      have hlevel := gives_level (gives_reopened h hinner h.next hopened)
      have hfirst : pos + 1 + (n + d + 1) = pos + (n + (d + 1) + 1) := by omega
      rw [List.cons_append, List.cons_append, hfirst] at hlevel
      rw [List.range'_succ, List.reverse_cons, List.map_append]
      exact hlevel

end Parser

/-! ### What is reported -/

/-- What is expected behind opening parentheses of which some are closed. -/
def Text.expectedBehind (opened closed : Nat) : List Text :=
  if closed < opened then if closed = 0 then ["'('", "')'"] else ["')'"]
  else if opened = 0 then ["'('", "EOF"] else ["EOF"]

theorem Text.pairwise_expectedBehind (opened closed : Nat) :
    (expectedBehind opened closed).Pairwise (· < ·) := by
  rw [expectedBehind]
  split
  · split <;> decide
  · split <;> decide

theorem Text.expectedBehind_ne_nil (opened closed : Nat) :
    expectedBehind opened closed ≠ [] := by
  rw [expectedBehind]
  split
  · split <;> decide
  · split <;> decide

namespace Ledger

/-- If all parentheses are closed, the end of the text is expected behind them, and nothing
else unless there are none. -/
theorem record_closed (n : Nat) :
    record [⟨n, "'('"⟩, ⟨n + n, "EOF"⟩]
      = ⟨(n + n : Nat), (Text.expectedBehind n n).map .text⟩ := by
  refine record_eq ?_ (Text.pairwise_expectedBehind n n) (Text.expectedBehind_ne_nil n n) ?_
  · rw [List.forall_mem_cons, List.forall_mem_singleton]
    exact ⟨Nat.le_add_right n n, le_rfl⟩
  · intro label
    rw [Text.expectedBehind, if_neg (Nat.lt_irrefl n)]
    by_cases hn : n = 0
    · simp [hn, eq_comm]
    · simp [hn, eq_comm]

/-- If a parenthesis is not closed, a closing one is expected behind those that are, and an
opening one as well if there are none. What has failed farther out and at the end lies
before that. -/
theorem record_unclosed (n d : Nat) :
    record (⟨n + d + 1, "'('"⟩ :: ⟨n + d + 1 + n, "')'"⟩
        :: ((List.range' 1 d).reverse.map (⟨·, "')'"⟩) ++ [⟨0, "EOF"⟩]))
      = ⟨(n + d + 1 + n : Nat), (Text.expectedBehind (n + d + 1) n).map .text⟩ := by
  let inner : Ledger := [⟨n + d + 1, "'('"⟩, ⟨n + d + 1 + n, "')'"⟩]
  let outer : Ledger := (List.range' 1 d).reverse.map (⟨·, "')'"⟩) ++ [⟨0, "EOF"⟩]
  have houter : outer.furthest < inner.furthest := by
    have hlt : outer.furthest < (n + d + 1 : Nat) := by
      refine furthest_lt fun m hm => ?_
      rcases List.mem_append.mp hm with hm | hm
      · obtain ⟨offset, hoffset, rfl⟩ := List.mem_map.mp hm
        have hrange := List.mem_range'_1.mp (List.mem_reverse.mp hoffset)
        change offset < n + d + 1
        omega
      · obtain rfl := List.mem_singleton.mp hm
        exact Nat.succ_pos _
    exact hlt.trans_le (le_furthest (List.mem_cons_self (a := ⟨n + d + 1, "'('"⟩)))
  change record (inner ++ outer) = _
  rw [record_append_of_lt houter]
  refine record_eq ?_ (Text.pairwise_expectedBehind _ n) (Text.expectedBehind_ne_nil _ n) ?_
  · rw [List.forall_mem_cons, List.forall_mem_singleton]
    exact ⟨Nat.le_add_right _ n, le_rfl⟩
  · intro label
    rw [Text.expectedBehind, if_pos (by omega)]
    by_cases hn : n = 0
    · simp [inner, hn, eq_comm]
    · simp [inner, hn, eq_comm]

end Ledger

namespace Store

/-- **Balanced parentheses.** The grammar recognises any number of opening parentheses
followed by as many closing ones, and nothing else, and every other text fails behind the
parentheses at its start that belong together, with the labels of what could have stood
there. This holds at every depth that the limits allow and in every store that the grammar
has become. -/
theorem parse_balanced (src : Text) {limits : Limits} (hdepth : src.opened < limits.depth)
    {s : Store} (hs : balanced.Later s) :
    ((Parser.lazy 0).parse limits src).outcome s = .ok
      (if src.closed = src.opened ∧ src.length = 2 * src.opened then
        .value (Parser.nested src.opened)
      else .failure
        { src := src
          position := Position.ofOffset src (src.opened + src.closed : Nat)
          expected := (Text.expectedBehind src.opened src.closed).map .text }) := by
  obtain ⟨rest, hsrc, hopen, hclose⟩ := src.exists_parentheses
  have hle : src.closed ≤ src.opened := Nat.min_le_left _ _
  have hstart : src.RestAt 0
      (List.replicate src.opened 40 ++ (List.replicate src.closed 41 ++ rest)) :=
    ⟨Nat.zero_le _, hsrc⟩
  have hlength : src.length = src.opened + (src.closed + rest.length) := by
    conv_lhs => rw [hsrc]
    rw [List.length_append, List.length_append, List.length_replicate, List.length_replicate]
  have hlazy : (Parser.lazy 0).IsLibrary := .lazy (fun _ => Parser.IsPlain.isLibrary) 0
  have hparse {t : Attempt}
      (h : Run.Gives balanced.Later (runLazyLedger limits.rounds limits.depth 0 src 0) t) :=
    Parser.outcome_parse hlazy (hs.admits balanced_isLibrary) (h.outcome_eq hs)
  by_cases hlt : src.closed < src.opened
  -- the whole grammar has matched the empty text, and the end is demanded at the start
  · have hne : ¬ (src.closed = src.opened ∧ src.length = 2 * src.opened) := by omega
    obtain ⟨d, hd⟩ : ∃ d, src.opened = src.closed + d + 1 :=
      ⟨src.opened - src.closed - 1, by omega⟩
    rw [if_neg hne]
    rw [hd] at hdepth hstart hlength ⊢
    have hrun : Run.Gives balanced.Later
      (runLazyLedger limits.rounds limits.depth 0 src 0) _ :=
      Parser.gives_unclosed hdepth hstart hopen (hclose hlt)
    rw [Nat.zero_add, Nat.zero_add] at hrun
    have hend : 0 < src.length := by omega
    rw [hparse hrun, Attempt.parsed_ended_of_lt hend, List.cons_append, List.cons_append,
      Ledger.record_unclosed]
    rfl
  · have heq : src.closed = src.opened := by omega
    rw [heq] at hstart hopen hlength ⊢
    have hrun : Run.Gives balanced.Later
      (runLazyLedger limits.rounds limits.depth 0 src 0) _ :=
      Parser.gives_closed hdepth hstart hopen
    rw [Nat.zero_add] at hrun
    by_cases hend : src.opened + src.opened < src.length
    · have hne : ¬ (src.opened = src.opened ∧ src.length = 2 * src.opened) := by omega
      rw [if_neg hne, hparse hrun, Attempt.parsed_ended_of_lt hend,
        List.singleton_append, Ledger.record_closed]
      rfl
    · have hall : src.opened = src.opened ∧ src.length = 2 * src.opened := by omega
      rw [if_pos hall, hparse hrun, Attempt.parsed_ended_of_not_lt hend]

/-- An opening parenthesis too many, after another parse. The whole grammar has matched the
empty text, and the failure is where the closing parenthesis is missing. -/
theorem parse_balanced_unclosed :
    let src : Text := "(()"
    let s := ((Parser.lazy 0).parse ⟨3, 0⟩ "(())").after balanced
    src.opened = 2 ∧ src.closed = 1 ∧ balanced.Later s
      ∧ ((Parser.lazy 0).parse ⟨3, 0⟩ src).outcome s
          = .ok (.failure ⟨src, ⟨3, 1, 4⟩, [.text "')'"]⟩) := by
  intro src s
  have hs : balanced.Later s := .parse .start _ _ _
  have hdepth : src.opened < (⟨3, 0⟩ : Limits).depth := by decide
  have hparse := parse_balanced src hdepth hs
  rw [if_neg (by decide)] at hparse
  exact ⟨rfl, rfl, hs, hparse⟩

end Store

end Furthest
