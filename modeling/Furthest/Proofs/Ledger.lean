import Furthest.Proofs.Congruence
import Furthest.Proofs.Labels

/-!
# The Ledger of Failures

The record that a reply carries is the result of many merges, one after nearly every step of
a run. This module states what it is: the furthest entry of a ledger that the run could have
kept beside it. `Parser.evalLedger` is a second evaluator, which knows nothing of records
and merges. It keeps a `Ledger` of every failure of a leaf anywhere in the run, those inside
discarded alternatives and inside the last attempt of a repetition included, with two
adjustments: a negative lookahead discards the ledger of its inner run and enters its own
failure only, and a description replaces the ledger of an inner run that fails at its start
by one entry.

The two evaluators agree step by step, in every store and at all limits. So the record of a
run is the greatest offset of its ledger, with the sorted distinct labels of the entries
there, whether the run matches or not.

## Main results

* `Ledger.join_record`: merging the records of two ledgers gives the record of the joined
  ledger.
* `Parser.runLedger_follows`: a run and a run with a ledger stay side by side.
* `Parser.run_record_exact`: **furthest-failure exactness**, for every parser of the
  library.
-/

namespace Furthest

/-! ### Ledgers -/

/-- A failure of a leaf: its offset, and what was expected there. -/
structure Miss where
  /-- The offset of the failure. -/
  offset : Nat
  /-- The label of what was expected. -/
  label : Text

/-- The failures of a run, in the order in which they occurred. -/
abbrev Ledger := List Miss

namespace Ledger

/-- The greatest offset of a failure, or `-1` if nothing has failed. -/
def furthest : Ledger → Int
  | [] => -1
  | m :: l => max m.offset (furthest l)

/-- The labels of the failures at an offset. -/
def labelsAt (l : Ledger) (offset : Int) : List Text :=
  (l.filter fun m => decide ((m.offset : Int) = offset)).map Miss.label

/-- The record of a ledger: the greatest offset, and the labels there in increasing
order. -/
def record (l : Ledger) : Record :=
  ⟨l.furthest, (Text.sortedDistinct (l.labelsAt l.furthest)).map .text⟩

/-- The ledger of a record, if its labels are texts. -/
def ofRecord (r : Record) : Ledger :=
  ((Record.texts? r.expected).getD []).map (⟨r.furthest.toNat, ·⟩)

theorem neg_one_le_furthest (l : Ledger) : -1 ≤ l.furthest := by
  cases l with
  | nil => exact le_refl _
  | cons m l => simp only [furthest]; omega

theorem furthest_append (k l : Ledger) :
    furthest (k ++ l) = max (furthest k) (furthest l) := by
  induction k with
  | nil =>
      have := neg_one_le_furthest l
      simp only [List.nil_append, furthest]
      omega
  | cons m k ih =>
      simp only [List.cons_append, furthest, ih]
      omega

theorem le_furthest {l : Ledger} {m : Miss} (h : m ∈ l) : (m.offset : Int) ≤ l.furthest := by
  induction l with
  | nil => cases h
  | cons n l ih =>
      simp only [furthest]
      rcases List.mem_cons.mp h with rfl | h
      · omega
      · have := ih h
        omega

/-- The greatest offset is that of a failure, unless there is none. -/
theorem exists_furthest {l : Ledger} (h : l ≠ []) :
    ∃ m ∈ l, (m.offset : Int) = l.furthest := by
  induction l with
  | nil => exact absurd rfl h
  | cons m l ih =>
      by_cases hl : l = []
      · subst hl
        exact ⟨m, List.mem_cons_self, by simp only [furthest]; omega⟩
      · obtain ⟨n, hn, ho⟩ := ih hl
        rcases Int.le_total (furthest l) m.offset with hle | hle
        · exact ⟨m, List.mem_cons_self, by simp only [furthest]; omega⟩
        · exact ⟨n, List.mem_cons_of_mem m hn, by simp only [furthest]; omega⟩

theorem mem_labelsAt {l : Ledger} {offset : Int} {label : Text} :
    label ∈ l.labelsAt offset ↔ ∃ m ∈ l, (m.offset : Int) = offset ∧ m.label = label := by
  simp [labelsAt, and_assoc]

theorem labelsAt_append (k l : Ledger) (offset : Int) :
    labelsAt (k ++ l) offset = labelsAt k offset ++ labelsAt l offset := by
  simp [labelsAt]

/-- There are no labels beyond the greatest offset. -/
theorem labelsAt_eq_nil {l : Ledger} {offset : Int} (h : l.furthest < offset) :
    l.labelsAt offset = [] := by
  rw [List.eq_nil_iff_forall_not_mem]
  intro label hl
  obtain ⟨m, hm, ho, -⟩ := mem_labelsAt.mp hl
  have := le_furthest hm
  omega

@[simp] theorem record_single (pos : Nat) (label : Text) :
    record [⟨pos, label⟩] = Record.single pos (.text label) := by
  have hf : furthest [⟨pos, label⟩] = pos := by simp only [furthest]; omega
  simp [record, hf, labelsAt, Record.single, Text.sortedDistinct, Text.insertSorted]

/-- **Merging the record of a ledger onto that of an earlier one gives the record of
both.** -/
theorem join_record (k l : Ledger) : l.record.join k.record = .ok (record (k ++ l)) := by
  rcases Int.lt_trichotomy k.furthest l.furthest with h | h | h
  · have hf : furthest (k ++ l) = l.furthest := by rw [furthest_append]; omega
    simp [Record.join, record, h, hf, labelsAt_append, labelsAt_eq_nil h]
  · have hf : furthest (k ++ l) = k.furthest := by rw [furthest_append]; omega
    have hset : Text.sortedDistinct (l.labelsAt k.furthest ++ k.labelsAt k.furthest)
        = Text.sortedDistinct (labelsAt (k ++ l) k.furthest) :=
      Text.sortedDistinct_congr fun z => by
        rw [labelsAt_append, List.mem_append, List.mem_append, or_comm]
    simp only [Record.join, record, ← h, lt_irrefl, if_false, if_true, hf,
      Record.unionExpected_map_text, Record.unionTexts_sortedDistinct, hset]
    rfl
  · have hf : furthest (k ++ l) = k.furthest := by rw [furthest_append]; omega
    have hle : ¬ k.furthest < l.furthest := by omega
    have hne : ¬ l.furthest = k.furthest := by omega
    simp [Record.join, record, hle, hne, hf, labelsAt_append, labelsAt_eq_nil h]

/-- A ledger has no failures before offset `-1`. -/
@[simp] theorem carried_record (l : Ledger) : l.record.carried = l.record := by
  have h : ¬ l.furthest < -1 := by
    have := neg_one_le_furthest l
    omega
  rw [Record.carried, if_neg]
  exact h

end Ledger

/-! ### Runs with a ledger -/

/-- What a run with a ledger comes to: the index and the value, if it matches, and the
ledger. -/
structure Attempt where
  /-- The index behind the match and the value, if there is a match. -/
  result : Option (Nat × Value)
  /-- The failures on the way. -/
  ledger : Ledger

namespace Attempt

/-- The same after earlier failures. -/
def behind (t : Attempt) (l : Ledger) : Attempt := { t with ledger := l ++ t.ledger }

/-- The reply that stands for an attempt: its record is that of the ledger. -/
def reply (t : Attempt) : Reply :=
  match t.result with
  | some (index, value) => .success index value t.ledger.record
  | none => .failure t.ledger.record

/-- The attempt that stands for the reply of a leaf. -/
def ofReply : Reply → Attempt
  | .success index value record => ⟨some (index.toNat, value), .ofRecord record⟩
  | .failure record => ⟨none, .ofRecord record⟩

@[simp] theorem reply_record (t : Attempt) : t.reply.record = t.ledger.record := by
  simp only [reply]
  split <;> rfl

end Attempt

/-- What a parser does with a text at an offset, with a ledger. -/
abbrev LedgerAction := Text → Nat → Run Attempt

namespace LedgerAction

/-- A leaf enters its failure. -/
def leaf (a : Action) : LedgerAction := fun src pos => do return .ofReply (← a src pos)

/-- Applies a function to the value. -/
def map (a : LedgerAction) (f : Value → Effect Value) : LedgerAction := fun src pos => do
  let t ← a src pos
  match t.result with
  | some (index, value) => return { t with result := some (index, ← Run.perform (f value)) }
  | none => return t

/-- Goes on with the action that a function makes of the value. -/
def chain (a : LedgerAction) (next : Value → LedgerAction) : LedgerAction := fun src pos => do
  let t ← a src pos
  match t.result with
  | some (index, value) => return (← next value src index).behind t.ledger
  | none => return t

/-- Replaces the ledger of a failure at the start. -/
def desc (a : LedgerAction) (label : Text) : LedgerAction := fun src pos => do
  let t ← a src pos
  if t.result.isNone ∧ t.ledger.furthest = pos then return ⟨none, [⟨pos, label⟩]⟩ else return t

/-- Matches the empty text where the action matches. -/
def lookahead (a : LedgerAction) : LedgerAction := fun src pos => do
  let t ← a src pos
  return { t with result := t.result.map fun r => (pos, r.2) }

/-- Matches the empty text where the action does not match, and discards its ledger. -/
def notFollowedBy (a : LedgerAction) (label : Text) : LedgerAction := fun src pos => do
  let t ← a src pos
  if t.result.isSome then return ⟨none, [⟨pos, label⟩]⟩ else return ⟨some (pos, .none), []⟩

/-- The actions of a sequence that are still to come, after the failures of those before
them. -/
def seqFrom (values : List Value) (l : Ledger) : List LedgerAction → LedgerAction
  | [], _, pos => return ⟨some (pos, .list values.reverse), l⟩
  | a :: as, src, pos => do
    let t ← a src pos
    match t.result with
    | some (index, value) => seqFrom (value :: values) (l ++ t.ledger) as src index
    | none => return t.behind l

/-- Matches the first that matches, after the failures of those before them. -/
def altFrom (l : Ledger) : List LedgerAction → LedgerAction
  | [], _, _ => return ⟨none, l⟩
  | a :: as, src, pos => do
    let t ← a src pos
    if t.result.isSome then return t.behind l else altFrom (l ++ t.ledger) as src pos

/-- How far a repetition has come: the values so far, the last one first, the failures so
far, and the offset of the next attempt. -/
structure Progress where
  /-- The values so far, the last one first. -/
  values : List Value
  /-- The failures so far. -/
  ledger : Ledger
  /-- The offset of the next attempt. -/
  pos : Nat

/-- The attempt of a repetition that ends here. -/
def Progress.close (s : Progress) : Attempt := ⟨some (s.pos, .list s.values.reverse), s.ledger⟩

/-- The repetition after a round that matched. -/
def Progress.next (s : Progress) (index : Nat) (value : Value) (l : Ledger) : Progress :=
  ⟨value :: s.values, s.ledger ++ l, index⟩

/-- A number of rounds that all have to match, and what comes after them. -/
def required (a : LedgerAction) (src : Text) (finish : Progress → Run Attempt) :
    Nat → Progress → Run Attempt
  | 0, s => finish s
  | n + 1, s => do
    let t ← a src s.pos
    match t.result with
    | some (index, value) => required a src finish n (s.next index value t.ledger)
    | none => return t.behind s.ledger

/-- Up to a number of rounds, until one does not match. -/
def upTo (a : LedgerAction) (src : Text) : Nat → Progress → Run Attempt
  | 0, s => return s.close
  | n + 1, s => do
    let t ← a src s.pos
    match t.result with
    | some (index, value) => upTo a src n (s.next index value t.ledger)
    | none => return { s with ledger := s.ledger ++ t.ledger }.close

/-- Rounds without an upper limit, until one does not match or matches the empty text. -/
def unbounded (a : LedgerAction) (src : Text) : (rounds : Nat) → Progress → Run Attempt
  | 0, _ => throw .exhausted
  | n + 1, s => do
    let t ← a src s.pos
    match t.result with
    | some (index, value) =>
      let s' := s.next index value t.ledger
      if index = s.pos then return s'.close else unbounded a src n s'
    | none => return { s with ledger := s.ledger ++ t.ledger }.close

/-- The rounds after the required ones. -/
def further (a : LedgerAction) (rounds : Nat) (extra : Option Nat) (src : Text) :
    Progress → Run Attempt :=
  match extra with
  | some n => upTo a src n
  | none => unbounded a src rounds

/-- Matches `least` times, and then up to `extra` times more. -/
def repeated (a : LedgerAction) (rounds least : Nat) (extra : Option Nat) : LedgerAction :=
  fun src pos => required a src (further a rounds extra src) least ⟨[], [], pos⟩

end LedgerAction

mutual

/-- What a parser does, with a ledger in place of records. A custom action enters what its
replies say. -/
def Parser.evalLedger (rounds : Nat) (lazies : Nat → LedgerAction) : Parser → LedgerAction
  | .literal text => .leaf (Action.literal text)
  | .regex p group => .leaf (Action.regex p group)
  | .charTest label test => .leaf (Action.charTest label test)
  | .takeWhile test => .leaf (Action.takeWhile test)
  | .succeed value => .leaf (Action.succeed value)
  | .fail label => .leaf (Action.fail label)
  | .eof => .leaf Action.eof
  | .index => .leaf Action.index
  | .anyChar => .leaf Action.anyChar
  | .rest => .leaf Action.rest
  | .map p f => .map (p.evalLedger rounds lazies) f
  | .chain p next =>
    .chain (p.evalLedger rounds lazies) fun v => (next v).evalLedger rounds lazies
  | .desc p label => .desc (p.evalLedger rounds lazies) label
  | .repeated p least extra => .repeated (p.evalLedger rounds lazies) rounds least extra
  | .seq ps => .seqFrom [] [] (Parser.evalLedgerAll rounds lazies ps)
  | .alt p ps =>
      .altFrom [] (p.evalLedger rounds lazies :: Parser.evalLedgerAll rounds lazies ps)
  | .lookahead p => .lookahead (p.evalLedger rounds lazies)
  | .notFollowedBy p label =>
    .notFollowedBy (p.evalLedger rounds lazies) (match label with
      | .text t => t
      | _ => [])
  | .lazy id => lazies id
  | .custom act => fun src pos => (act src pos).evalLedger rounds lazies src pos
  | .answer reply => .leaf fun _ _ => pure reply
  | .inspect p next => fun src pos => do
    let t ← p.evalLedger rounds lazies src pos
    (next t.reply).evalLedger rounds lazies src pos
  | .raise fault => fun _ _ => Run.raise fault
  | .note n p => fun src pos => do
    Run.note n
    p.evalLedger rounds lazies src pos

/-- What the parsers of a list do, with a ledger. -/
def Parser.evalLedgerAll (rounds : Nat) (lazies : Nat → LedgerAction) :
    List Parser → List LedgerAction
  | [] => []
  | p :: ps => p.evalLedger rounds lazies :: Parser.evalLedgerAll rounds lazies ps

end

/-- What a lazy parser does, with a ledger. -/
def runLazyLedger (rounds : Nat) : (depth : Nat) → (id : Nat) → LedgerAction
  | 0, _ => fun _ _ => throw .exhausted
  | depth + 1, id => fun src pos => do
    let p ← Store.force id
    p.evalLedger rounds (runLazyLedger rounds depth) src pos

/-- What a parser does within limits, with a ledger. -/
def Parser.runLedger (p : Parser) (limits : Limits) : LedgerAction :=
  p.evalLedger limits.rounds (runLazyLedger limits.rounds limits.depth)

/-- What the parsers of a list do is what its elements do. -/
theorem Parser.evalLedgerAll_eq_map (rounds : Nat) (lazies : Nat → LedgerAction)
    (ps : List Parser) :
    evalLedgerAll rounds lazies ps = ps.map fun p => p.evalLedger rounds lazies := by
  induction ps with
  | nil => rfl
  | cons p ps ih => simp only [evalLedgerAll, List.map_cons, ih]

/-! ### A run beside a run with a ledger -/

/-- A reply as leaves give it: a clean success, or a failure with one label that is a
text. -/
inductive Reply.OfLeaf : Reply → Prop
  | matched {index : Int} {value : Value} (h : 0 ≤ index) : OfLeaf (.matched index value)
  | mismatch {pos : Nat} {label : Text} : OfLeaf (.mismatch pos (.text label))

namespace Attempt

/-- The reply of a leaf is that of its attempt. -/
theorem reply_ofReply {r : Reply} (h : r.OfLeaf) : (ofReply r).reply = r := by
  cases h with
  | @matched index value h =>
      simp only [ofReply, Reply.matched, reply]
      rw [Int.toNat_of_nonneg h]
      rfl
  | @mismatch pos label =>
      change Reply.failure (Ledger.record [⟨pos, label⟩]) = _
      rw [Ledger.record_single]
      rfl

/-- A reply, if there is one, carries the record of a ledger. -/
def Carries (last : Option Reply) (l : Ledger) : Prop :=
  match last with
  | none => l = []
  | some r => r.record = l.record

/-- Merging onto an earlier reply puts the failures behind the earlier ones. -/
theorem merge_reply {last : Option Reply} {l : Ledger} (h : Carries last l) (t : Attempt) :
    t.reply.merge last = .ok (t.behind l).reply := by
  cases last with
  | none =>
      obtain rfl : l = [] := h
      rfl
  | some r =>
      have hr : r.record = l.record := h
      rw [Reply.merge_of_join (by rw [reply_record, hr, Ledger.join_record])]
      obtain ⟨_ | ⟨index, value⟩, k⟩ := t <;> rfl

/-- A success that follows an earlier reply carries its failures. -/
theorem after_reply {last : Option Reply} {l : Ledger} (h : Carries last l) (pos : Nat)
    (value : Value) :
    Reply.after last pos value = (⟨some (pos, value), l⟩ : Attempt).reply := by
  cases last with
  | none =>
      obtain rfl : l = [] := h
      rfl
  | some r =>
      have hr : r.record = l.record := h
      simp only [Reply.after, hr, Ledger.carried_record]
      rfl

/-- The reply of an attempt carries its ledger. -/
theorem carries_reply (t : Attempt) : Carries (some t.reply) t.ledger := t.reply_record

end Attempt

namespace Coupling

open Attempt (Carries)

/-- An action and an action with a ledger stay side by side: every reply is that of the
attempt. -/
def Follows (C : Coupling) (a : Action) (b : LedgerAction) : Prop :=
  ∀ (src : Text) (pos : Nat), C.Rel (fun r t => r = t.reply) (a src pos) (b src pos)

variable {C : Coupling} {a : Action} {b : LedgerAction}

/-! #### Leaves -/

/-- The replies of an action are those of a leaf. -/
def IsLeaf (C : Coupling) (a : Action) : Prop :=
  ∀ (src : Text) (pos : Nat), C.Rel (fun r r' => r = r' ∧ r.OfLeaf) (a src pos) (a src pos)

theorem Follows.leaf (h : C.IsLeaf a) : C.Follows a (.leaf a) := by
  intro src pos
  rw [← bind_pure (a src pos)]
  refine Rel.bind (h src pos) ?_
  rintro r _ ⟨rfl, hr⟩
  exact .pure (Attempt.reply_ofReply hr).symm

theorem IsLeaf.ofReply {f : Text → Int → Reply} (h : ∀ src (pos : Nat), (f src pos).OfLeaf) :
    C.IsLeaf (Action.ofReply f) := fun src pos => .pure ⟨rfl, h src pos⟩

theorem IsLeaf.regex (p : Regex.Pattern) (group : Nat) : C.IsLeaf (.regex p group) :=
  fun _ _ => .regex (fun stop _ _ => ⟨rfl, .matched (Int.natCast_nonneg stop)⟩)
    ⟨rfl, .mismatch⟩

theorem IsLeaf.charTest (label : Text) (test : CodePoint → Effect Bool) :
    C.IsLeaf (.charTest label test) :=
  fun _ _ => .charTest (fun _ _ => ⟨rfl, .matched (by omega)⟩) ⟨rfl, .mismatch⟩

theorem IsLeaf.takeWhile (test : CodePoint → Effect Bool) : C.IsLeaf (.takeWhile test) :=
  fun _ _ => .takeWhile fun _ _ _ => ⟨rfl, .matched (by omega)⟩

theorem IsLeaf.anyChar : C.IsLeaf .anyChar :=
  fun _ _ => .anyChar (fun _ _ => ⟨rfl, .matched (by omega)⟩) ⟨rfl, .mismatch⟩

/-! #### One parser -/

theorem Follows.map (h : C.Follows a b) (f : Value → Effect Value) :
    C.Follows (.map a f) (.map b f) := by
  intro src pos
  refine Rel.bind (h src pos) ?_
  rintro _ ⟨_ | ⟨index, value⟩, l⟩ rfl
  · exact .pure rfl
  · refine Rel.bind (.perform (f value)) ?_
    rintro value _ rfl
    rw [Ledger.carried_record]
    exact .pure rfl

/-- An attempt that is merged onto the reply before it, and what comes after. -/
theorem Rel.recorded {γ δ : Type} {Q : γ → δ → Prop} (h : C.Follows a b)
    {src : Text} {pos : Nat} {last : Option Reply} {l : Ledger} (hc : Carries last l)
    {f : Reply → Run γ} {g : Attempt → Run δ}
    (hfg : ∀ t : Attempt, C.Rel Q (f (t.behind l).reply) (g t)) :
    C.Rel Q (a src pos >>= fun r => Run.merge r last >>= f) (b src pos >>= g) := by
  refine Rel.bind (h src pos) ?_
  rintro _ t rfl
  have hm : Run.merge t.reply last = Pure.pure (t.behind l).reply := by
    rw [Run.merge, Attempt.merge_reply hc]
    rfl
  rw [hm, pure_bind]
  exact hfg t

theorem Follows.chain {next : Value → Action} {next' : Value → LedgerAction}
    (h : C.Follows a b) (hn : ∀ v, C.Follows (next v) (next' v)) :
    C.Follows (.chain a next) (.chain b next') := by
  intro src pos
  refine Rel.bind (h src pos) ?_
  rintro _ ⟨_ | ⟨index, value⟩, l⟩ rfl
  · exact .pure rfl
  · refine Rel.bind (hn value src index) ?_
    rintro _ t rfl
    have hc : Carries (some (Reply.success index value l.record)) l := rfl
    rw [Run.merge, Attempt.merge_reply hc]
    exact .pure rfl

theorem Follows.desc (h : C.Follows a b) (label : Text) :
    C.Follows (.desc a label) (.desc b label) := by
  intro src pos
  refine Rel.bind (h src pos) ?_
  rintro _ ⟨_ | ⟨index, value⟩, l⟩ rfl
  · have hr : l.record.furthest = l.furthest := rfl
    simp only [Attempt.reply, Option.isNone_none, true_and, hr]
    by_cases hf : l.furthest = pos
    · rw [if_pos hf, if_pos hf]
      exact .pure (by rw [Ledger.record_single]; rfl)
    · rw [if_neg hf, if_neg hf]
      exact .pure rfl
  · exact .pure rfl

theorem Follows.lookahead (h : C.Follows a b) : C.Follows (.lookahead a) (.lookahead b) := by
  intro src pos
  refine Rel.bind (h src pos) ?_
  rintro _ ⟨_ | ⟨index, value⟩, l⟩ rfl
  · exact .pure rfl
  · simp only [Attempt.reply, Ledger.carried_record]
    exact .pure rfl

theorem Follows.notFollowedBy (h : C.Follows a b) (label : Text) :
    C.Follows (.notFollowedBy a (.text label)) (.notFollowedBy b label) := by
  intro src pos
  refine Rel.bind (h src pos) ?_
  rintro _ ⟨_ | ⟨index, value⟩, l⟩ rfl
  · exact .pure rfl
  · exact .pure (by simp only [Attempt.reply, Ledger.record_single]; rfl)

/-! #### Several parsers -/

theorem Follows.seqFrom {as : List Action} {bs : List LedgerAction}
    (h : List.Forall₂ C.Follows as bs) (values : List Value) {last : Option Reply} {l : Ledger}
    (hc : Carries last l) :
    C.Follows (.seqFrom values last as) (.seqFrom values l bs) := by
  induction h generalizing values last l with
  | nil => exact fun _ pos => .pure (Attempt.after_reply hc pos _)
  | cons hab _ ih =>
      intro src pos
      refine Rel.recorded hab hc fun t => ?_
      rcases t with ⟨_ | ⟨index, value⟩, k⟩
      · exact .pure rfl
      · exact ih _ (Attempt.carries_reply ⟨some (index, value), l ++ k⟩) src index

theorem Follows.altFrom {as : List Action} {bs : List LedgerAction}
    (h : List.Forall₂ C.Follows as bs) (l : Ledger) :
    C.Follows (.altFrom (.failure l.record) as) (.altFrom l bs) := by
  induction h generalizing l with
  | nil => exact fun _ _ => .pure rfl
  | cons hab _ ih =>
      intro src pos
      refine Rel.recorded hab (show Carries (some (.failure l.record)) l from rfl) fun t => ?_
      rcases t with ⟨_ | ⟨index, value⟩, k⟩
      · exact ih (l ++ k) src pos
      · exact .pure rfl

theorem Follows.alt {as : List Action} {bs : List LedgerAction} (h : C.Follows a b)
    (hs : List.Forall₂ C.Follows as bs) : C.Follows (.alt a as) (.altFrom [] (b :: bs)) := by
  intro src pos
  refine Rel.bind (h src pos) ?_
  rintro _ ⟨_ | ⟨index, value⟩, l⟩ rfl
  · exact Follows.altFrom hs l src pos
  · exact .pure rfl

/-! #### Repetitions -/

/-- A repetition that ends, after the reply of its last attempt. -/
theorem close_reply {last : Option Reply} {t : LedgerAction.Progress}
    (hc : Carries last t.ledger) :
    (⟨t.values, last, t.pos⟩ : Action.Progress).close = t.close.reply :=
  Attempt.after_reply hc t.pos _

theorem Rel.requiredLedger (h : C.Follows a b) (src : Text) {f : Action.Progress → Run Reply}
    {g : LedgerAction.Progress → Run Attempt}
    (hfg : ∀ last (t : LedgerAction.Progress), Carries last t.ledger →
      C.Rel (fun r t => r = t.reply) (f ⟨t.values, last, t.pos⟩) (g t))
    (n : Nat) {last : Option Reply} {t : LedgerAction.Progress} (hc : Carries last t.ledger) :
    C.Rel (fun r t => r = t.reply) (Action.required a src f n ⟨t.values, last, t.pos⟩)
      (LedgerAction.required b src g n t) := by
  induction n generalizing last t with
  | zero => exact hfg last t hc
  | succ n ih =>
      refine Rel.recorded h hc fun r => ?_
      rcases r with ⟨_ | ⟨index, value⟩, k⟩
      · exact .pure rfl
      · exact ih (t := t.next index value k) rfl

theorem Rel.upToLedger (h : C.Follows a b) (src : Text) (n : Nat) {last : Option Reply}
    {t : LedgerAction.Progress} (hc : Carries last t.ledger) :
    C.Rel (fun r t => r = t.reply) (Action.upTo a src n ⟨t.values, last, t.pos⟩)
      (LedgerAction.upTo b src n t) := by
  induction n generalizing last t with
  | zero => exact .pure (close_reply hc)
  | succ n ih =>
      refine Rel.recorded h hc fun r => ?_
      rcases r with ⟨_ | ⟨index, value⟩, k⟩
      · exact .pure (close_reply (t := { t with ledger := t.ledger ++ k }) rfl)
      · exact ih (t := t.next index value k) rfl

theorem Rel.unboundedLedger (h : C.Follows a b) (src : Text) (n : Nat) {last : Option Reply}
    {t : LedgerAction.Progress} (hc : Carries last t.ledger) :
    C.Rel (fun r t => r = t.reply) (Action.unbounded a src n ⟨t.values, last, t.pos⟩)
      (LedgerAction.unbounded b src n t) := by
  induction n generalizing last t with
  | zero => exact .stop .exhausted
  | succ n ih =>
      refine Rel.recorded h hc fun r => ?_
      rcases r with ⟨_ | ⟨index, value⟩, k⟩
      · exact .pure (close_reply (t := { t with ledger := t.ledger ++ k }) rfl)
      · simp only [Attempt.reply, Attempt.behind, Int.natCast_inj]
        split
        · exact .pure (close_reply (t := t.next index value k) rfl)
        · exact ih (t := t.next index value k) rfl

theorem Follows.repeated (h : C.Follows a b) (rounds least : Nat) (extra : Option Nat) :
    C.Follows (.repeated a rounds least extra) (.repeated b rounds least extra) := by
  intro src pos
  refine Rel.requiredLedger h src (fun last t hc => ?_) least (t := ⟨[], [], pos⟩) rfl
  cases extra with
  | none => exact .unboundedLedger h src rounds hc
  | some n => exact .upToLedger h src n hc

/-! #### Parsers -/

/-- **A parser of the library runs beside itself with a ledger, if its lazy parsers do.** -/
theorem eval_follows {rounds : Nat} {lazies : Nat → Action} {lazies' : Nat → LedgerAction}
    (hl : ∀ id, C.Follows (lazies id) (lazies' id)) {p : Parser}
    (hp : p.Throughout fun q => ¬ q.IsCustom ∧ q.HasTextLabel) :
    C.Follows (p.eval rounds lazies) (p.evalLedger rounds lazies') := by
  induction hp with
  | @intro p here _ ih =>
  obtain ⟨hcustom, hlabel⟩ := here
  cases p with
  | literal text =>
      refine .leaf (.ofReply fun src pos => ?_)
      split
      · exact .matched (by omega)
      · exact .mismatch
  | regex p group => exact .leaf (.regex p group)
  | charTest label test => exact .leaf (.charTest label test)
  | takeWhile test => exact .leaf (.takeWhile test)
  | succeed value => exact .leaf (.ofReply fun _ _ => .matched (by omega))
  | fail label => exact .leaf (.ofReply fun _ _ => .mismatch)
  | eof =>
      refine .leaf (.ofReply fun src pos => ?_)
      split
      · exact .mismatch
      · exact .matched (by omega)
  | index => exact .leaf (.ofReply fun _ _ => .matched (by omega))
  | anyChar => exact .leaf .anyChar
  | rest => exact .leaf (.ofReply fun _ _ => .matched (by omega))
  | map p f => exact .map (ih p .map) f
  | chain p next => exact .chain (ih p .chain) fun v => ih _ (.chainNext v)
  | desc p label => exact .desc (ih p .desc) label
  | repeated p least extra => exact .repeated (ih p .repeated) rounds least extra
  | seq ps =>
      rw [Parser.eval_seq, Parser.evalLedger, Parser.evalLedgerAll_eq_map]
      exact .seqFrom (forall₂_map_parsers fun p hp => ih p (.seq hp)) [] rfl
  | alt p ps =>
      rw [Parser.eval_alt, Parser.evalLedger, Parser.evalLedgerAll_eq_map]
      exact .alt (ih p .altFirst) (forall₂_map_parsers fun q hq => ih q (.altOther hq))
  | lookahead p => exact .lookahead (ih p .lookahead)
  | notFollowedBy p label =>
      obtain ⟨t, rfl⟩ := hlabel
      exact .notFollowedBy (ih p .notFollowedBy) t
  | lazy id => exact hl id
  | custom act => exact absurd trivial hcustom
  | answer reply => exact absurd trivial hcustom
  | inspect p next => exact absurd trivial hcustom
  | raise fault => exact fun _ _ => .raise fault
  | note n p =>
      intro src pos
      refine Rel.bind (.note n) ?_
      rintro _ _ -
      exact ih p .note src pos

end Coupling

namespace Parser

/-- The parsers of the library whose labels are texts: no node of theirs is custom. -/
def IsLibrary (p : Parser) : Prop := p.Throughout fun q => ¬ q.IsCustom ∧ q.HasTextLabel

/-- The condition is about custom parsers and negative lookaheads only. -/
theorem IsPlain.isLibrary {p : Parser} (h : p.IsPlain) : ¬ p.IsCustom ∧ p.HasTextLabel := by
  cases p with
  | regex | notFollowedBy => exact h.elim
  | _ => exact ⟨h, trivial⟩

/-- A lazy parser runs beside itself with a ledger, where everything that the store leads to
is a parser of the library. -/
theorem runLazyLedger_follows (rounds depth id : Nat) :
    (Store.admitting IsLibrary).Follows (runLazy rounds depth id)
      (runLazyLedger rounds depth id) := by
  induction depth generalizing id with
  | zero => exact fun _ _ => .stop .exhausted
  | succ depth ih =>
      intro src pos
      refine Coupling.Rel.bind (Store.force_admits IsLibrary id) ?_
      rintro p _ ⟨rfl, hp⟩
      exact Coupling.eval_follows ih hp src pos

/-- **A run and a run with a ledger stay side by side.** -/
theorem runLedger_follows {p : Parser} (hp : p.IsLibrary) (limits : Limits) :
    (Store.admitting IsLibrary).Follows (p.run limits) (p.runLedger limits) :=
  Coupling.eval_follows (runLazyLedger_follows limits.rounds limits.depth) hp

end Parser

/-! ### The record of a run -/

/-- A record says which failures of a ledger are the furthest: it has the greatest offset,
which is `-1` if there are no failures, and the labels there, in increasing order and each
once. -/
structure Record.Summarizes (r : Record) (l : Ledger) : Prop where
  /-- No failure is further. -/
  le_furthest : ∀ m ∈ l, (m.offset : Int) ≤ r.furthest
  /-- Some failure is as far, if there is one at all. -/
  attained : (l = [] ∧ r.furthest = -1) ∨ ∃ m ∈ l, (m.offset : Int) = r.furthest
  /-- The labels are those of the failures that are as far. -/
  labels : ∃ ts : List Text, r.expected = ts.map .text ∧ ts.Pairwise (· < ·)
    ∧ ∀ t, t ∈ ts ↔ ∃ m ∈ l, (m.offset : Int) = r.furthest ∧ m.label = t

/-- The record of a ledger says which of its failures are the furthest. -/
theorem Ledger.record_summarizes (l : Ledger) : l.record.Summarizes l where
  le_furthest _ hm := le_furthest hm
  attained := by
    by_cases h : l = []
    · subst h
      exact .inl ⟨rfl, rfl⟩
    · exact .inr (exists_furthest h)
  labels := ⟨_, rfl, Text.pairwise_sortedDistinct _, fun t => by
    rw [Text.mem_sortedDistinct, mem_labelsAt]
    rfl⟩

/-- **Furthest-failure exactness.** A run of a parser of the library comes to the same as
the run with a ledger, in every store that leads to such parsers only, at all limits and at
every offset: it is broken off for the same reason and changes the store in the same way, or
it has the same status, index and value. Its record says which failures of the ledger are
the furthest. -/
theorem Parser.run_record_exact {p : Parser} (hp : p.IsLibrary) {s : Store}
    (hs : s.Admits IsLibrary) (limits : Limits) (src : Text) (pos : Nat) :
    (p.run limits src pos).exec s
        = (((p.runLedger limits src pos).outcome s).map Attempt.reply,
            (p.runLedger limits src pos).after s)
      ∧ ∀ t, (p.runLedger limits src pos).outcome s = .ok t →
          t.reply.record.Summarizes t.ledger := by
  have h := runLedger_follows hp limits src pos
  exact ⟨h.exec_of_same hs, fun t _ => t.reply_record ▸ t.ledger.record_summarizes⟩

/-- A list that is not finished. The last repetition is given up behind the comma, with two
failures that are further than that of the bracket which is tried in its place. -/
theorem Parser.run_record_exact_lists :
    let src : Text := "[1,x"
    let l : Ledger := [⟨3, "/[0-9]/"⟩, ⟨3, "'['"⟩, ⟨2, "']'"⟩]
    let r : Record := ⟨3, [.text "'['", .text "/[0-9]/"]⟩
    ((lazy 0).runLedger ⟨3, 4⟩ src 0).outcome .lists = .ok ⟨none, l⟩
      ∧ ((lazy 0).run ⟨3, 4⟩ src (0 : Nat)).outcome .lists = .ok (.failure r)
      ∧ r.Summarizes l := by
  intro src l r
  have hp : (lazy 0).IsLibrary := .lazy (fun _ => IsPlain.isLibrary) 0
  have hs : Store.lists.Admits IsLibrary :=
    Store.lists_admits (fun _ => IsPlain.isLibrary) ⟨id, trivial⟩
  obtain ⟨hexec, hrecord⟩ := run_record_exact hp hs ⟨3, 4⟩ src 0
  have hledger : ((lazy 0).runLedger ⟨3, 4⟩ src 0).outcome .lists = .ok ⟨none, l⟩ := rfl
  refine ⟨hledger, ?_, hrecord _ hledger⟩
  rw [Run.outcome, hexec, hledger]
  rfl

end Furthest
