import Furthest.Proofs.Ledger
import Furthest.Proofs.Likeness
import Furthest.Proofs.Resolution
import Mathlib.Data.List.Zip

/-!
# Labels Never Influence Parsing

The labels of a parser say what was expected, and a run only hands them on. This module
compares two parsers that differ in their labels: descriptions may be added, removed or
changed anywhere, and so may the labels of failures, of negative lookaheads and of tests of
characters. `Parser.Relabelled` relates such parsers, `Store.Relabelled` stores of lazy
parsers whose builders return such parsers, and runs of the one and the other stay side by
side.

Two nodes make this more than a matter of course. A description looks at the offset of the
furthest failure, so the offsets have to stay equal, which they do because merging records
compares nothing but offsets. And labels that cannot be united would break off a run, so on
both sides all labels have to stay texts. The rest is that of every likeness of replies.

There is one place where a description can be felt. A lazy parser whose builder returns that
very parser is a fault, but if the builder describes the parser first, it is resolved and
runs in a circle. Neither of the two ever replies, and so the comparison excuses a run that
has no end.

## Main results

* `Record.Abreast.join`: merging keeps records the same but for labels.
* `Coupling.eval_relabelled`: a parser with other labels runs alike, if its lazy parsers do.
* `Store.force_relabelled`: lazy parsers with other labels are resolved alike.
* `Parser.run_relabelled`: **labels never influence parsing.**
-/

namespace Furthest

/-! ### Replies up to labels -/

namespace Record

variable {r r' last last' : Record}

/-- Records that differ in their labels only. These are texts on both sides. -/
structure Abreast (r r' : Record) : Prop where
  /-- The failures are at the same offset. -/
  furthest : r.furthest = r'.furthest
  /-- The labels of the first record are texts. -/
  left : ∃ ts : List Text, r.expected = ts.map .text
  /-- The labels of the second record are texts. -/
  right : ∃ ts : List Text, r'.expected = ts.map .text

theorem Abreast.symm (h : r.Abreast r') : r'.Abreast r := ⟨h.furthest.symm, h.right, h.left⟩

theorem Abreast.clean : clean.Abreast clean := ⟨rfl, ⟨[], rfl⟩, ⟨[], rfl⟩⟩

theorem Abreast.single (pos : Int) (label label' : Text) :
    (single pos (.text label)).Abreast (single pos (.text label')) :=
  ⟨rfl, ⟨[label], rfl⟩, ⟨[label'], rfl⟩⟩

theorem Abreast.carried (h : r.Abreast r') : r.carried.Abreast r'.carried := by
  simp only [Record.carried, ← h.furthest]
  split
  · exact .clean
  · exact h

/-- **Merging compares nothing but offsets**, and texts can always be united. -/
theorem Abreast.join (h : r.Abreast r') (hl : last.Abreast last') :
    Fault.Both Abreast (r.join last) (r'.join last') := by
  simp only [Record.join, ← h.furthest, ← hl.furthest]
  split
  · exact .ok h
  · split
    · obtain ⟨ts, hts⟩ := h.left
      obtain ⟨ts', hts'⟩ := h.right
      obtain ⟨us, hus⟩ := hl.left
      obtain ⟨us', hus'⟩ := hl.right
      rw [hts, hts', hus, hus', unionExpected_map_text, unionExpected_map_text]
      exact .ok ⟨rfl, ⟨_, rfl⟩, ⟨_, rfl⟩⟩
    · exact .ok hl

end Record

/-- Replies that differ in nothing but the labels of what was expected: the status is the
same, the furthest failure is at the same offset, and a match has the same index and
value. -/
inductive Reply.SameButLabels : Reply → Reply → Prop
  | success {index : Int} {value : Value} {r r' : Record} (h : r.Abreast r') :
      SameButLabels (.success index value r) (.success index value r')
  | failure {r r' : Record} (h : r.Abreast r') : SameButLabels (.failure r) (.failure r')

theorem Reply.SameButLabels.symm {r r' : Reply} (h : r.SameButLabels r') :
    r'.SameButLabels r := by
  cases h with
  | success h => exact .success h.symm
  | failure h => exact .failure h.symm

namespace Likeness

/-- Texts and offsets are alike if they are equal, and records if they are the same up to
labels. -/
def upToLabels : Likeness where
  texts := Eq
  offsets := Eq
  records := Record.Abreast
  offsets_eq_iff := by
    rintro i _ j _ rfl rfl
    exact Iff.rfl
  clean := .clean
  carried := Record.Abreast.carried
  join := Record.Abreast.join

variable {r r' : Reply}

theorem Replies.sameButLabels (h : upToLabels.Replies r r') : r.SameButLabels r' := by
  cases h with
  | success hi _ hr =>
      obtain rfl := hi
      exact .success hr
  | failure hr => exact .failure hr

theorem single_abreast (label label' : Text) :
    ∀ pos pos', upToLabels.offsets pos pos' →
      upToLabels.records (.single pos (.text label)) (.single pos' (.text label')) := by
  rintro pos _ rfl
  exact .single pos label label'

theorem Replies.mismatch (pos : Int) (label label' : Text) :
    upToLabels.Replies (.mismatch pos (.text label)) (.mismatch pos (.text label')) :=
  .failure (.single pos label label')

end Likeness

/-! ### Parsers up to labels -/

/-- Parsers of the library that have the same shape and the same callbacks, and differ in
labels: in those of failures, of negative lookaheads and of tests of characters, and in
descriptions, of which there may be any number around any part on either side. -/
inductive Parser.Relabelled : Parser → Parser → Prop
  | literal (text : Text) : Relabelled (.literal text) (.literal text)
  | regex (pattern : Regex.Pattern) (group : Nat) :
      Relabelled (.regex pattern group) (.regex pattern group)
  | charTest (label label' : Text) (test : CodePoint → Effect Bool) :
      Relabelled (.charTest label test) (.charTest label' test)
  | takeWhile (test : CodePoint → Effect Bool) : Relabelled (.takeWhile test) (.takeWhile test)
  | succeed (value : Value) : Relabelled (.succeed value) (.succeed value)
  | fail (label label' : Text) : Relabelled (.fail label) (.fail label')
  | eof : Relabelled .eof .eof
  | index : Relabelled .index .index
  | anyChar : Relabelled .anyChar .anyChar
  | rest : Relabelled .rest .rest
  | map {p q : Parser} (h : Relabelled p q) (f : Value → Effect Value) :
      Relabelled (.map p f) (.map q f)
  | chain {p q : Parser} {next next' : Value → Parser} (h : Relabelled p q)
      (hn : ∀ v, Relabelled (next v) (next' v)) : Relabelled (.chain p next) (.chain q next')
  | descLeft {p q : Parser} (h : Relabelled p q) (label : Text) : Relabelled (.desc p label) q
  | descRight {p q : Parser} (h : Relabelled p q) (label : Text) : Relabelled p (.desc q label)
  | repeated {p q : Parser} (h : Relabelled p q) (least : Nat) (extra : Option Nat) :
      Relabelled (.repeated p least extra) (.repeated q least extra)
  | seq {ps qs : List Parser} (hlen : ps.length = qs.length)
      (h : ∀ pq ∈ ps.zip qs, Relabelled pq.1 pq.2) : Relabelled (.seq ps) (.seq qs)
  | alt {p q : Parser} {ps qs : List Parser} (h : Relabelled p q)
      (hlen : ps.length = qs.length) (hs : ∀ pq ∈ ps.zip qs, Relabelled pq.1 pq.2) :
      Relabelled (.alt p ps) (.alt q qs)
  | lookahead {p q : Parser} (h : Relabelled p q) : Relabelled (.lookahead p) (.lookahead q)
  | notFollowedBy {p q : Parser} (h : Relabelled p q) (label label' : Text) :
      Relabelled (.notFollowedBy p (.text label)) (.notFollowedBy q (.text label'))
  | lazy (id : Nat) : Relabelled (.lazy id) (.lazy id)
  | raise (fault : Fault) : Relabelled (.raise fault) (.raise fault)
  | note (n : Note) {p q : Parser} (h : Relabelled p q) : Relabelled (.note n p) (.note n q)

/-- What is said of the pairs of two lists holds with the lists exchanged. -/
theorem forall_mem_zip_swap {α β : Type} {as : List α} {bs : List β} {R : β → α → Prop}
    (h : ∀ ab ∈ as.zip bs, R ab.2 ab.1) : ∀ ba ∈ bs.zip as, R ba.1 ba.2 := by
  rw [← List.zip_swap as bs]
  intro ba hba
  obtain ⟨ab, hab, rfl⟩ := List.mem_map.mp hba
  exact h ab hab

/-- A list beside itself has pairs of equal elements. -/
theorem forall_mem_zip_self {α : Type} {as : List α} {R : α → α → Prop} (h : ∀ a ∈ as, R a a) :
    ∀ ab ∈ as.zip as, R ab.1 ab.2 := by
  rintro ⟨a, b⟩ hab
  have hRel : List.Forall₂ R as as := List.forall₂_same.mpr h
  exact (List.forall₂_iff_zip.mp hRel).2 hab

namespace Parser

variable {p q : Parser}

theorem Relabelled.symm (h : p.Relabelled q) : q.Relabelled p := by
  induction h with
  | literal text => exact .literal text
  | regex pattern group => exact .regex pattern group
  | charTest label label' test => exact .charTest label' label test
  | takeWhile test => exact .takeWhile test
  | succeed value => exact .succeed value
  | fail label label' => exact .fail label' label
  | eof => exact .eof
  | index => exact .index
  | anyChar => exact .anyChar
  | rest => exact .rest
  | map _ f ih => exact .map ih f
  | chain _ _ ih ihn => exact .chain ih ihn
  | descLeft _ label ih => exact .descRight ih label
  | descRight _ label ih => exact .descLeft ih label
  | repeated _ least extra ih => exact .repeated ih least extra
  | seq hlen _ ih => exact .seq hlen.symm (forall_mem_zip_swap ih)
  | alt _ hlen _ ih ihs => exact .alt ih hlen.symm (forall_mem_zip_swap ihs)
  | lookahead _ ih => exact .lookahead ih
  | notFollowedBy _ label label' ih => exact .notFollowedBy ih label' label
  | lazy id => exact .lazy id
  | raise fault => exact .raise fault
  | note n _ ih => exact .note n ih

/-- Labels need not differ. -/
theorem IsLibrary.relabelled_self (hp : p.IsLibrary) : p.Relabelled p := by
  induction hp with
  | @intro p here _ ih =>
  obtain ⟨hcustom, hlabel⟩ := here
  cases p with
  | literal text => exact .literal text
  | regex pattern group => exact .regex pattern group
  | charTest label test => exact .charTest label label test
  | takeWhile test => exact .takeWhile test
  | succeed value => exact .succeed value
  | fail label => exact .fail label label
  | eof => exact .eof
  | index => exact .index
  | anyChar => exact .anyChar
  | rest => exact .rest
  | map p f => exact .map (ih p .map) f
  | chain p next => exact .chain (ih p .chain) fun v => ih _ (.chainNext v)
  | desc p label => exact .descLeft (.descRight (ih p .desc) label) label
  | repeated p least extra => exact .repeated (ih p .repeated) least extra
  | seq ps => exact .seq rfl (forall_mem_zip_self fun p hp => ih p (.seq hp))
  | alt p ps =>
      exact .alt (ih p .altFirst) rfl (forall_mem_zip_self fun q hq => ih q (.altOther hq))
  | lookahead p => exact .lookahead (ih p .lookahead)
  | notFollowedBy p label =>
      obtain ⟨t, rfl⟩ := hlabel
      exact .notFollowedBy (ih p .notFollowedBy) t t
  | lazy id => exact .lazy id
  | custom act => exact absurd trivial hcustom
  | answer reply => exact absurd trivial hcustom
  | inspect p next => exact absurd trivial hcustom
  | raise fault => exact .raise fault
  | note n p => exact .note n (ih p .note)

end Parser

/-! ### Runs up to labels -/

namespace Coupling

open Likeness (upToLabels)

variable {C : Coupling} {a b : Action}

/-- Two actions on the same texts at the same offsets. -/
theorem Mirrors.of_forall
    (h : ∀ src pos, C.Rel upToLabels.Replies (a src pos) (b src pos)) :
    C.Mirrors upToLabels a b := by
  rintro src _ rfl pos _ rfl
  exact h src pos

/-- A description changes nothing but labels. -/
theorem Mirrors.descLeft (h : C.Mirrors upToLabels a b) (label : Text) :
    C.Mirrors upToLabels (.desc a label) b := by
  refine .of_forall fun src pos => ?_
  rw [← bind_pure (b src pos)]
  refine Rel.bind (h rfl rfl) ?_
  rintro _ _ (⟨hi, value, hr⟩ | ⟨hr⟩)
  · exact .pure (.success hi value hr)
  · simp only
    split
    · next hpos =>
        exact .pure (.failure ⟨hpos.symm.trans hr.furthest, ⟨[label], rfl⟩, hr.right⟩)
    · exact .pure (.failure hr)

theorem Mirrors.descRight (h : C.Mirrors upToLabels a b) (label : Text) :
    C.Mirrors upToLabels a (.desc b label) := by
  refine .of_forall fun src pos => ?_
  rw [← bind_pure (a src pos)]
  refine Rel.bind (h rfl rfl) ?_
  rintro _ _ (⟨hi, value, hr⟩ | ⟨hr⟩)
  · exact .pure (.success hi value hr)
  · simp only
    split
    · next hpos => exact .pure (.failure ⟨hr.furthest.trans hpos, hr.left, ⟨[label], rfl⟩⟩)
    · exact .pure (.failure hr)

/-- What two functions make of the pairs of two lists. -/
theorem forall₂_map_of_zip {α β : Type} {R : α → β → Prop} {f : Parser → α} {g : Parser → β}
    {ps qs : List Parser} (hlen : ps.length = qs.length)
    (h : ∀ pq ∈ ps.zip qs, R (f pq.1) (g pq.2)) : List.Forall₂ R (ps.map f) (qs.map g) := by
  rw [List.forall₂_map_left_iff, List.forall₂_map_right_iff, List.forall₂_iff_zip]
  exact ⟨hlen, fun hpq => h _ hpq⟩

/-- **A parser with other labels runs alike, if its lazy parsers do.** -/
theorem eval_relabelled {rounds : Nat} {lazies lazies' : Nat → Action}
    (hl : ∀ id, C.Mirrors upToLabels (lazies id) (lazies' id)) {p q : Parser}
    (h : p.Relabelled q) :
    C.Mirrors upToLabels (p.eval rounds lazies) (q.eval rounds lazies') := by
  induction h with
  | literal text =>
      refine .of_forall fun src pos => ?_
      simp only [Parser.eval, Action.literal, Action.ofReply]
      split
      · exact .pure (.matched rfl _)
      · exact .pure (.mismatch _ _ _)
  | regex pattern group =>
      exact .of_forall fun _ _ => .regex (fun _ _ _ => .matched rfl _) (.mismatch _ _ _)
  | charTest label label' test =>
      exact .of_forall fun _ _ => .charTest (fun _ _ => .matched rfl _)
        (.mismatch _ label label')
  | takeWhile test => exact .of_forall fun _ _ => .takeWhile fun _ _ _ => .matched rfl _
  | succeed value => exact .of_forall fun _ _ => .pure (.matched rfl _)
  | fail label label' => exact .of_forall fun _ _ => .pure (.mismatch _ label label')
  | eof =>
      refine .of_forall fun src pos => ?_
      simp only [Parser.eval, Action.eof, Action.ofReply]
      split
      · exact .pure (.mismatch _ _ _)
      · exact .pure (.matched rfl _)
  | index => exact .of_forall fun _ _ => .pure (.matched rfl _)
  | anyChar =>
      exact .of_forall fun _ _ => .anyChar (fun _ _ => .matched rfl _) (.mismatch _ _ _)
  | rest => exact .of_forall fun _ _ => .pure (.matched rfl _)
  | map _ f ih => exact ih.map f
  | chain _ _ ih ihn => exact ih.chain ihn
  | descLeft _ label ih => exact ih.descLeft label
  | descRight _ label ih => exact ih.descRight label
  | repeated _ least extra ih => exact ih.repeated rounds least extra
  | seq hlen _ ih =>
      rw [Parser.eval_seq, Parser.eval_seq]
      exact .seq (forall₂_map_of_zip hlen ih)
  | alt _ hlen _ ih ihs =>
      rw [Parser.eval_alt, Parser.eval_alt]
      exact ih.alt (forall₂_map_of_zip hlen ihs)
  | lookahead _ ih => exact ih.lookahead
  | notFollowedBy _ label label' ih =>
      exact ih.notFollowedBy (Likeness.single_abreast label label')
  | lazy id => exact hl id
  | raise fault => exact .of_forall fun _ _ => .raise fault
  | note n _ ih =>
      refine .of_forall fun src pos => ?_
      refine Rel.bind (.note n) ?_
      rintro _ _ -
      exact ih rfl rfl

end Coupling

/-! ### Stores up to labels -/

/-- Operands that are parsers up to labels, or the same other thing. -/
inductive Operand.Relabelled : Operand → Operand → Prop
  | parser {p q : Parser} (h : p.Relabelled q) : Relabelled (.parser p) (.parser q)
  | other (o : Operand) (h : o.isParser = false) : Relabelled o o

theorem Operand.Relabelled.symm {o o' : Operand} (h : o.Relabelled o') : o'.Relabelled o := by
  cases h with
  | parser h => exact .parser h.symm
  | other o h => exact .other o h

/-- Scopes in which the same names stand for operands up to labels. -/
def Scope.Relabelled (scope scope' : Scope) : Prop :=
  List.Forall₂ (fun e e' => e.1 = e'.1 ∧ e.2.Relabelled e'.2) scope scope'

theorem Scope.Relabelled.symm {scope scope' : Scope} (h : Scope.Relabelled scope scope') :
    Scope.Relabelled scope' scope := by
  refine List.Forall₂.flip (List.Forall₂.imp ?_ h)
  exact fun _ _ he => ⟨he.1.symm, he.2.symm⟩

/-- What calls of two builders come to: the same fault, or operands up to labels and equally
many new lazy parsers. -/
inductive Builder.SameAnswer :
    Except Fault (Operand × List Builder) → Except Fault (Operand × List Builder) → Prop
  | error (fault : Fault) : SameAnswer (.error fault) (.error fault)
  | ok {o o' : Operand} {made made' : List Builder} (ho : o.Relabelled o')
      (hlen : made.length = made'.length) : SameAnswer (.ok (o, made)) (.ok (o', made'))

theorem Builder.SameAnswer.symm {r r' : Except Fault (Operand × List Builder)}
    (h : SameAnswer r r') : SameAnswer r' r := by
  cases h with
  | error fault => exact .error fault
  | ok ho hlen => exact .ok ho.symm hlen.symm

/-- Builders whose calls, given scopes that are the same up to labels, come to the same up
to labels, and so do the builders of the lazy parsers that they make. -/
inductive Builder.Relabelled : Builder → Builder → Prop
  | intro {name : Text}
      {call call' : Nat → Scope → Nat → Except Fault (Operand × List Builder)}
      (answer : ∀ k scope scope' next, Scope.Relabelled scope scope' →
        SameAnswer (call k scope next) (call' k scope' next))
      (further : ∀ k scope scope' next o o' made made', Scope.Relabelled scope scope' →
        call k scope next = .ok (o, made) → call' k scope' next = .ok (o', made') →
        ∀ bb ∈ made.zip made', Builder.Relabelled bb.1 bb.2) :
      Builder.Relabelled (.mk name call) (.mk name call')

namespace Builder.Relabelled

variable {b b' : Builder}

theorem symm (h : b.Relabelled b') : b'.Relabelled b := by
  induction h with
  | intro answer _ ih =>
      refine .intro
        (fun k scope scope' next hs => (answer k scope' scope next hs.symm).symm) ?_
      intro k scope scope' next o o' made made' hs hc hc'
      exact forall_mem_zip_swap (ih k scope' scope next o' o made' made hs.symm hc' hc)

theorem name_eq (h : b.Relabelled b') : b.name = b'.name := by
  cases h with
  | intro => rfl

theorem answer (h : b.Relabelled b') (k : Nat) {scope scope' : Scope}
    (hs : Scope.Relabelled scope scope') (next : Nat) :
    SameAnswer (b.call k scope next) (b'.call k scope' next) := by
  cases h with
  | intro answer _ => exact answer k scope scope' next hs

/-- The builders of the lazy parsers that calls make. -/
theorem made (h : b.Relabelled b') {k next : Nat} {scope scope' : Scope}
    (hs : Scope.Relabelled scope scope') {o o' : Operand} {made made' : List Builder}
    (hc : b.call k scope next = .ok (o, made)) (hc' : b'.call k scope' next = .ok (o', made'))
    (hlen : made.length = made'.length) : List.Forall₂ Builder.Relabelled made made' := by
  cases h with
  | intro _ further =>
      rw [List.forall₂_iff_zip]
      exact ⟨hlen, fun hbb => further k scope scope' next o o' made made' hs hc hc' _ hbb⟩

end Builder.Relabelled

/-- Lazy parsers up to labels: with builders that are, and resolved to parsers that are, if
they are resolved. -/
structure Slot.Relabelled (slot slot' : Slot) : Prop where
  /-- The builders. -/
  builder : slot.builder.Relabelled slot'.builder
  /-- The builders have been called equally often. -/
  calls : slot.calls = slot'.calls
  /-- The parsers that the lazy parsers are resolved to. -/
  resolved : Option.Rel Parser.Relabelled slot.resolved slot'.resolved

theorem Slot.Relabelled.symm {slot slot' : Slot} (h : slot.Relabelled slot') :
    slot'.Relabelled slot := by
  obtain ⟨b, calls, resolved⟩ := slot
  obtain ⟨b', calls', resolved'⟩ := slot'
  obtain ⟨hb, hc, hr⟩ := h
  refine ⟨hb.symm, hc.symm, ?_⟩
  cases hr with
  | none => exact .none
  | some hp => exact .some hp.symm

/-- Two lists with related elements still have them when one place of each is changed. -/
theorem forall₂_modify {α β : Type} {R : α → β → Prop} {as : List α} {bs : List β}
    (h : List.Forall₂ R as bs) (i : Nat) {f : α → α} {g : β → β}
    (hfg : ∀ a b, R a b → R (f a) (g b)) : List.Forall₂ R (as.modify i f) (bs.modify i g) := by
  induction h generalizing i with
  | nil =>
      rw [List.modify_nil, List.modify_nil]
      exact .nil
  | cons hab hs ih =>
      cases i with
      | zero => exact .cons (hfg _ _ hab) hs
      | succ i => exact .cons hab (ih i)

/-- Two lists with related elements have related elements in every place. -/
theorem optionRel_getElem? {α β : Type} {R : α → β → Prop} {as : List α} {bs : List β}
    (h : List.Forall₂ R as bs) (i : Nat) : Option.Rel R as[i]? bs[i]? := by
  induction h generalizing i with
  | nil => exact .none
  | cons hab _ ih =>
      cases i with
      | zero => exact .some hab
      | succ i => exact ih i

namespace Store

/-- Stores up to labels. The journal and the log do not matter. -/
structure Relabelled (s t : Store) : Prop where
  /-- The lazy parsers. -/
  slots : List.Forall₂ Slot.Relabelled s.slots.toList t.slots.toList
  /-- The named operands. -/
  scope : Scope.Relabelled s.scope t.scope

namespace Relabelled

variable {s t : Store}

theorem symm (h : s.Relabelled t) : t.Relabelled s :=
  ⟨(h.slots.imp fun _ _ hs => hs.symm).flip, h.scope.symm⟩

theorem size_eq (h : s.Relabelled t) : s.slots.size = t.slots.size := h.slots.length_eq

theorem getElem? (h : s.Relabelled t) (id : Nat) :
    Option.Rel Slot.Relabelled s.slots[id]? t.slots[id]? := by
  rw [← Array.getElem?_toList, ← Array.getElem?_toList]
  exact optionRel_getElem? h.slots id

/-- A call of a lazy parser's builder has been counted on both sides. -/
theorem called (h : s.Relabelled t) (id : Nat) (name : Text) :
    (s.called id name).Relabelled (t.called id name) := by
  refine ⟨?_, h.scope⟩
  rw [called_slots, called_slots, Array.toList_modify, Array.toList_modify]
  refine forall₂_modify h.slots id ?_
  exact fun _ _ hs => ⟨hs.builder, congrArg (· + 1) hs.calls, hs.resolved⟩

/-- A lazy parser has been resolved on both sides. -/
theorem completed (h : s.Relabelled t) (id : Nat) (name : Text) {p q : Parser}
    (hp : p.Relabelled q) {made made' : List Builder}
    (hm : List.Forall₂ Builder.Relabelled made made') :
    (s.completed id name p made).Relabelled (t.completed id name q made') := by
  have hnew : List.Forall₂ Slot.Relabelled (made.map fun b => (⟨b, 0, none⟩ : Slot))
      (made'.map fun b => (⟨b, 0, none⟩ : Slot)) := by
    rw [List.forall₂_map_left_iff, List.forall₂_map_right_iff]
    exact hm.imp fun _ _ hb => ⟨hb, rfl, .none⟩
  refine ⟨?_, h.scope⟩
  rw [completed_slots, completed_slots, Array.toList_modify, Array.toList_modify,
    Array.toList_append, Array.toList_append]
  refine forall₂_modify (List.rel_append h.slots hnew) id ?_
  exact fun _ _ hs => ⟨hs.builder, hs.calls, .some hp⟩

end Relabelled

end Store

/-- A run has no end in sight: its limits do not suffice, or a lazy parser would be
itself. -/
def Stop.IsEndless (e : Stop) : Prop := e = .exhausted ∨ e = .fault .lazyIsItself

/-- The coupling of stores up to labels. A first run that has no end is excused. -/
def Store.relabelling : Coupling where
  related := Store.Relabelled
  excused := Stop.IsEndless
  noted := fun _ h => ⟨h.slots, h.scope⟩
  reported := fun _ _ h => ⟨h.slots, h.scope⟩

/-! ### Resolving up to labels -/

/-- A parser is a lazy parser with any number of descriptions around it. -/
inductive Parser.Describes (id : Nat) : Parser → Prop
  | lazy : Describes id (.lazy id)
  | desc {p : Parser} (h : Describes id p) (label : Text) : Describes id (.desc p label)

/-- Only descriptions can be put around a lazy parser without notice. -/
theorem Parser.Relabelled.describes {p : Parser} {id : Nat} (h : p.Relabelled (.lazy id)) :
    p.Describes id := by
  generalize hq : Parser.lazy id = q at h
  induction h with
  | lazy => exact Parser.lazy.inj hq ▸ .lazy
  | descLeft _ label ih => exact .desc (ih hq) label
  | _ => cases hq

/-- Answers of builders up to labels. A parser may be the lazy parser itself on one side and
a description of it on the other. -/
inductive Answer.Relabelled (id : Nat) : Answer → Answer → Prop
  | fault {a : Answer} {fault : Fault} (h : a.outcome = .error fault) : Relabelled id a a
  | parser {p q : Parser} {made made' : List Builder} (hp : p.Relabelled q)
      (hm : List.Forall₂ Builder.Relabelled made made') :
      Relabelled id (.parser p made) (.parser q made')
  | itself (a : Answer) : Relabelled id .itself a
  | circle {p : Parser} (h : p.Describes id) (made : List Builder) (a : Answer) :
      Relabelled id (.parser p made) a

/-- The answers of builders that are the same up to labels. -/
theorem Builder.Relabelled.answers {b b' : Builder} (h : b.Relabelled b') (id k : Nat)
    {scope scope' : Scope} (hs : Scope.Relabelled scope scope') (next : Nat) :
    Answer.Relabelled id (b.answer id k scope next) (b'.answer id k scope' next) := by
  have ha := h.answer k hs next
  simp only [Builder.answer]
  generalize hc : b.call k scope next = r at ha
  generalize hc' : b'.call k scope' next = r' at ha
  cases ha with
  | error fault => exact .fault rfl
  | @ok o _ _ _ ho hlen =>
      cases ho with
      | @parser p q hp =>
          simp only
          split
          · exact .itself _
          · split
            · next hq =>
              obtain rfl : q = .lazy id := Store.eq_lazy_of_resolution (if_pos hq)
              exact .circle hp.describes _ _
            · exact .parser hp (h.made hs hc hc' hlen)
      | other _ ho =>
          cases o with
          | parser p => cases ho
          | pattern p => exact .fault rfl
          | bytesPattern source => exact .fault rfl
          | value v => exact .fault rfl

namespace Store

variable {s t : Store}

/-- **Lazy parsers with other labels are resolved alike**, unless the first one is resolved
to itself. -/
theorem force_relabelled (h : s.Relabelled t) (id : Nat) :
    relabelling.Ends Parser.Relabelled ((force id).exec s) ((force id).exec t)
      ∨ ∃ p s' slot, (force id).exec s = (.ok p, s') ∧ s'.slots[id]? = some slot
          ∧ slot.resolved = some p ∧ p.Describes id := by
  have hget := h.getElem? id
  cases hs : s.slots[id]? with
  | none =>
      cases ht : t.slots[id]? with
      | none =>
          rw [exec_force_of_unknown hs, exec_force_of_unknown ht]
          exact .inl (.stopped h)
      | some slot' => rw [hs, ht] at hget; cases hget
  | some slot =>
  cases ht : t.slots[id]? with
  | none => rw [hs, ht] at hget; cases hget
  | some slot' =>
  rw [hs, ht] at hget
  obtain ⟨hslot⟩ := hget
  have hresolved := hslot.resolved
  cases hp : slot.resolved with
  | some p =>
      cases hq : slot'.resolved with
      | none => rw [hp, hq] at hresolved; cases hresolved
      | some q =>
          rw [hp, hq] at hresolved
          obtain ⟨hpq⟩ := hresolved
          rw [exec_force_of_resolved hs hp, exec_force_of_resolved ht hq]
          exact .inl (.returned hpq h)
  | none =>
      cases hq : slot'.resolved with
      | some q => rw [hp, hq] at hresolved; cases hresolved
      | none =>
          have ha := hslot.builder.answers id (slot.calls + 1) h.scope s.slots.size
          rw [exec_force_of_unresolved hs hp, exec_force_of_unresolved ht hq]
          simp only [nextAnswer, ← hslot.calls, ← h.size_eq, ← hslot.builder.name_eq]
          generalize slot.builder.answer id (slot.calls + 1) s.scope s.slots.size = a at ha ⊢
          generalize slot'.builder.answer id (slot.calls + 1) t.scope s.slots.size = a' at ha ⊢
          have hcalled := h.called id slot.builder.name
          cases ha with
          | fault ho =>
              rw [ho]
              exact .inl (.stopped hcalled)
          | parser hpq hm => exact .inl (.returned hpq (hcalled.completed id _ hpq hm))
          | itself a => exact .inl (.excused (.inr rfl))
          | circle hd made a =>
              exact .inr ⟨_, _, _, rfl, slots_completed hs _ _ _, rfl, hd⟩

/-- **A lazy parser that is resolved to itself runs in a circle**, whatever it is described
as. -/
theorem exec_run_of_describes {id : Nat} {slot : Slot} {p q : Parser}
    (hs : s.slots[id]? = some slot) (hp : slot.resolved = some p) (hd : p.Describes id)
    (hq : q.Describes id) (rounds depth : Nat) (src : Text) (pos : Int) :
    (q.eval rounds (runLazy rounds depth) src pos).exec s = (.error .exhausted, s) := by
  induction depth generalizing q with
  | zero =>
      induction hq with
      | lazy => rfl
      | desc _ _ ih => exact Run.exec_bind_of_error ih
  | succ depth ih =>
      induction hq with
      | lazy => exact (Run.exec_bind_of_ok (exec_force_of_resolved hs hp)).trans (ih hd)
      | desc _ _ ihq => exact Run.exec_bind_of_error ihq

/-- Lazy parsers with other labels run alike. -/
theorem runLazy_relabelled (rounds depth id : Nat) :
    relabelling.Mirrors .upToLabels (runLazy rounds depth id) (runLazy rounds depth id) := by
  induction depth generalizing id with
  | zero => exact .of_forall fun _ _ => .stop .exhausted
  | succ depth ih =>
      refine .of_forall fun src pos s t h => ?_
      simp only [runLazy]
      rcases force_relabelled h id with hends | ⟨p, s', slot, hforce, hs, hp, hd⟩
      · generalize hx : (force id).exec s = x at hends
        generalize hy : (force id).exec t = y at hends
        cases hends with
        | returned hpq hr =>
            rw [Run.exec_bind_of_ok hx, Run.exec_bind_of_ok hy]
            exact Coupling.eval_relabelled ih hpq rfl rfl hr
        | stopped hr =>
            rw [Run.exec_bind_of_error hx, Run.exec_bind_of_error hy]
            exact .stopped hr
        | excused he =>
            rw [Run.exec_bind_of_error hx]
            exact .excused he
      · rw [Run.exec_bind_of_ok hforce, exec_run_of_describes hs hp hd hd]
        exact .excused (.inl rfl)

end Store

/-! ### Runs and parses -/

/-- Two computations come to the same up to labels: both return, what they return is
related, and so are the stores; or both are broken off, for the same reason or without
end. -/
inductive Run.Agree (Q : α → β → Prop) : Except Stop α × Store → Except Stop β × Store → Prop
  /-- Both return. -/
  | returned {a : α} {b : β} {s t : Store} (h : Q a b) (hs : s.Relabelled t) :
      Agree Q (.ok a, s) (.ok b, t)
  /-- Both are broken off for the same reason. -/
  | stopped {e : Stop} {s t : Store} (hs : s.Relabelled t) :
      Agree Q (.error e, s) (.error e, t)
  /-- Neither has an end. -/
  | endless {e e' : Stop} {s t : Store} (h : e.IsEndless) (h' : e'.IsEndless) :
      Agree Q (.error e, s) (.error e', t)

/-- What is broken off on one side is broken off on the other, if the comparison holds both
ways. -/
theorem Run.Agree.of_rel {Q : α → β → Prop} {m : Run α} {n : Run β} {s t : Store}
    (h : Store.relabelling.Rel Q m n) (h' : Store.relabelling.Rel (fun b a => Q a b) n m)
    (hs : s.Relabelled t) : Agree Q (m.exec s) (n.exec t) := by
  have he := h hs
  have he' := h' hs.symm
  generalize m.exec s = x at he he' ⊢
  generalize n.exec t = y at he he' ⊢
  cases he with
  | returned hq hr => exact .returned hq hr
  | stopped hr => exact .stopped hr
  | excused he =>
      cases he' with
      | stopped hr => exact .stopped hr.symm
      | excused he' => exact .endless he he'

/-- What comes of two parses is the same value, or a failure at the same position. -/
inductive Parsed.SameButLabels : Parsed → Parsed → Prop
  | value (v : Value) : SameButLabels (.value v) (.value v)
  | failure {f f' : ParseFailure} (src : f.src = f'.src)
      (position : f.position = f'.position) :
      SameButLabels (.failure f) (.failure f')

theorem Parsed.SameButLabels.symm {o o' : Parsed} (h : o.SameButLabels o') :
    o'.SameButLabels o := by
  cases h with
  | value v => exact .value v
  | failure hs hp => exact .failure hs.symm hp.symm

namespace Parser

variable {p q : Parser}

/-- A parser with other labels runs alike. -/
theorem Relabelled.rel_run (h : p.Relabelled q) (limits : Limits) (src : Text) (pos : Int) :
    Store.relabelling.Rel Reply.SameButLabels (p.run limits src pos)
      (q.run limits src pos) := by
  have hl := Store.runLazy_relabelled limits.rounds limits.depth
  refine Coupling.Rel.mono (Coupling.eval_relabelled hl h rfl rfl) ?_
  exact fun _ _ hr => hr.sameButLabels

theorem Relabelled.skip_eof (h : p.Relabelled q) : (p.skip .eof).Relabelled (q.skip .eof) := by
  have hparts : ∀ pq ∈ [p, .eof].zip [q, .eof], pq.1.Relabelled pq.2 :=
    List.forall_mem_cons.mpr ⟨h, List.forall_mem_singleton.mpr .eof⟩
  have hseq : (Parser.seq [p, .eof]).Relabelled (.seq [q, .eof]) := .seq rfl hparts
  exact hseq.map _

/-- A parser with other labels parses alike. -/
theorem Relabelled.rel_parse (h : p.Relabelled q) (limits : Limits) (src : Text) :
    Store.relabelling.Rel Parsed.SameButLabels (p.parse limits src) (q.parse limits src) := by
  refine Coupling.Rel.bind (h.skip_eof.rel_run limits src 0) ?_
  rintro _ _ (⟨hr⟩ | ⟨hr⟩)
  · exact .pure (.value _)
  · -- the entries in the log have different labels, and the log does not matter
    refine Coupling.Rel.bind (Q := fun _ _ => True)
      (fun _ _ hs => .returned trivial ⟨hs.slots, hs.scope⟩) ?_
    rintro _ _ -
    exact .pure (.failure rfl (congrArg (Position.ofOffset src) hr.furthest))

/-- **Labels never influence parsing.** Take two parsers of the library that differ in
labels only, in two stores that do. Runs of them reply with the same status, the same
furthest offset, and on success with the same index and value, at all limits and at every
offset. Parses of them come to the same value or to failures at the same position. If one of
them is broken off, so is the other, and for the same reason unless it would never end. -/
theorem run_relabelled (h : p.Relabelled q) {s t : Store} (hs : s.Relabelled t)
    (limits : Limits) (src : Text) (pos : Int) :
    Run.Agree Reply.SameButLabels ((p.run limits src pos).exec s)
      ((q.run limits src pos).exec t)
      ∧ Run.Agree Parsed.SameButLabels ((p.parse limits src).exec s)
          ((q.parse limits src).exec t) := by
  constructor
  · refine .of_rel (h.rel_run limits src pos) ?_ hs
    exact (h.symm.rel_run limits src pos).mono fun _ _ hr => hr.symm
  · refine .of_rel (h.rel_parse limits src) ?_ hs
    exact (h.symm.rel_parse limits src).mono fun _ _ ho => ho.symm

end Parser

/-! ### A grammar with other labels -/

/-- The grammar of lists, where a list is called a list and the other lazy parser an
item. -/
def Store.labelledLists : Store :=
  Store.empty.allocate
    [.mk "brackets" fun _ _ _ => .ok (.parser (Parser.brackets.desc "a list"), []),
      .mk "alias" fun _ _ _ => .ok (.parser ((Parser.lazy 0).desc "an item"), [])]

/-- The two grammars of lists differ in their labels only. -/
theorem Store.lists_relabelled : lists.Relabelled labelledLists := by
  have hbuilder (name label : Text) {p : Parser} (hp : p.Relabelled p) :
      Slot.Relabelled ⟨.mk name fun _ _ _ => .ok (.parser p, []), 0, none⟩
        ⟨.mk name fun _ _ _ => .ok (.parser (p.desc label), []), 0, none⟩ := by
    refine ⟨.intro ?_ ?_, rfl, .none⟩
    · exact fun _ _ _ _ _ => .ok (.parser (.descRight hp label)) rfl
    · rintro _ _ _ _ _ _ _ _ _ ⟨⟩ ⟨⟩ _ ⟨⟩
  have hitem : Parser.item.IsLibrary := by
    refine .orElse (fun _ => Parser.IsPlain.isLibrary) (.intro ⟨id, trivial⟩ ?_) ?_
    · exact fun _ h => nomatch h
    · exact .lazy (fun _ => Parser.IsPlain.isLibrary) 1
  have hbrackets : Parser.brackets.IsLibrary := by
    have hφ : ∀ p : Parser, p.IsPlain → _ := fun _ => Parser.IsPlain.isLibrary
    exact .skip hφ (.andThen hφ (.literal hφ _) (.sepBy hφ hitem (.literal hφ _)))
      (.literal hφ _)
  exact ⟨.cons (hbuilder _ _ hbrackets.relabelled_self) (.cons (hbuilder _ _ (.lazy 0)) .nil),
    .nil⟩

/-- The two grammars of lists fail at the same offset of a list that is not finished, where
they expect the same by different names. -/
theorem Parser.run_relabelled_lists :
    let src : Text := "[1,x"
    let o := ((lazy 0).run ⟨3, 4⟩ src (0 : Nat)).exec .lists
    let o' := ((lazy 0).run ⟨3, 4⟩ src (0 : Nat)).exec .labelledLists
    (lazy 0).Relabelled (lazy 0) ∧ Store.lists.Relabelled .labelledLists
      ∧ o.1 = .ok (.failure ⟨3, [.text "'['", .text "/[0-9]/"]⟩)
      ∧ o'.1 = .ok (.failure ⟨3, [.text "/[0-9]/", .text "an item"]⟩)
      ∧ Run.Agree Reply.SameButLabels o o' := by
  intro src o o'
  have hs := Store.lists_relabelled
  exact ⟨.lazy 0, hs, rfl, rfl, (run_relabelled (.lazy 0) hs ⟨3, 4⟩ src (0 : Nat)).1⟩

end Furthest
