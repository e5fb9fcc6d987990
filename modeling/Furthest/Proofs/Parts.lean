import Furthest.Parser

/-!
# Parts of Parsers

A parser is put together from parts, and so are the parsers that its callbacks return: the
parts of a `chain` are the parser it starts with and every parser that its function returns.
Statements about all parsers are proved by induction along parts, and a condition on the
nodes of a parser is passed on to everything that the parser can come to run by itself.

A lazy parser has no parts: what it stands for depends on the store.

A condition that says something about custom parsers, patterns and negative lookaheads only
holds throughout everything that the library's combinators make of parsers throughout which
it holds.

## Main results

* `Parser.partRec`: induction along parts.
* `Parser.Throughout`: a condition on all nodes of a parser.
* `Parser.Throughout.seqMap`, `Parser.Throughout.alternatives`, `Parser.Throughout.times`:
  the combinators pass such a condition on.
-/

namespace Furthest

namespace Parser

/-! ### Parts -/

/-- The parsers that a parser is put together from. -/
inductive Part : Parser → Parser → Prop
  | map {p : Parser} {f : Value → Effect Value} : Part p (.map p f)
  | chain {p : Parser} {next : Value → Parser} : Part p (.chain p next)
  | chainNext {p : Parser} {next : Value → Parser} (v : Value) : Part (next v) (.chain p next)
  | desc {p : Parser} {label : Text} : Part p (.desc p label)
  | repeated {p : Parser} {least : Nat} {extra : Option Nat} : Part p (.repeated p least extra)
  | seq {p : Parser} {ps : List Parser} (h : p ∈ ps) : Part p (.seq ps)
  | altFirst {p : Parser} {ps : List Parser} : Part p (.alt p ps)
  | altOther {p q : Parser} {ps : List Parser} (h : q ∈ ps) : Part q (.alt p ps)
  | lookahead {p : Parser} : Part p (.lookahead p)
  | notFollowedBy {p : Parser} {label : Label} : Part p (.notFollowedBy p label)
  | custom {act : Text → Int → Parser} (src : Text) (pos : Int) :
      Part (act src pos) (.custom act)
  | inspect {p : Parser} {next : Reply → Parser} : Part p (.inspect p next)
  | inspectNext {p : Parser} {next : Reply → Parser} (r : Reply) :
      Part (next r) (.inspect p next)
  | note {n : Note} {p : Parser} : Part p (.note n p)

mutual

/-- No parser has an infinite chain of parts. -/
theorem acc_part : (p : Parser) → Acc Part p
  | .literal _ | .regex .. | .charTest .. | .takeWhile _ | .succeed _ | .fail _ | .eof | .index
  | .anyChar | .rest | .lazy _ | .answer _ | .raise _ => ⟨_, fun _ h => nomatch h⟩
  | .map p _ | .desc p _ | .repeated p .. | .lookahead p | .notFollowedBy p _ | .note _ p =>
    ⟨_, fun _ h => by cases h; exact acc_part p⟩
  | .chain p next => ⟨_, fun _ h => by
      cases h with
      | chain => exact acc_part p
      | chainNext v => exact acc_part (next v)⟩
  | .seq ps => ⟨_, fun q h => by
      cases h with
      | seq h => exact acc_part_of_mem ps q h⟩
  | .alt p ps => ⟨_, fun q h => by
      cases h with
      | altFirst => exact acc_part p
      | altOther h => exact acc_part_of_mem ps q h⟩
  | .custom act => ⟨_, fun _ h => by
      cases h with
      | custom src pos => exact acc_part (act src pos)⟩
  | .inspect p next => ⟨_, fun _ h => by
      cases h with
      | inspect => exact acc_part p
      | inspectNext r => exact acc_part (next r)⟩

/-- No parser of a list has an infinite chain of parts. -/
theorem acc_part_of_mem : (ps : List Parser) → ∀ q ∈ ps, Acc Part q
  | [] => fun _ h => nomatch h
  | p :: ps => fun q h => by
      have hp : Acc Part p := acc_part p
      have hps : ∀ q ∈ ps, Acc Part q := acc_part_of_mem ps
      rcases List.mem_cons.mp h with rfl | h
      · exact hp
      · exact hps q h

end

/-- **Induction along parts.** What holds of a parser as soon as it holds of its parts holds
of all parsers. -/
theorem partRec {motive : Parser → Prop}
    (step : ∀ p, (∀ q, Part q p → motive q) → motive p) (p : Parser) : motive p :=
  (WellFounded.intro acc_part).induction p step

/-- A condition holds of all nodes of a parser, those of the parsers that its callbacks
return included. -/
inductive Throughout (φ : Parser → Prop) : Parser → Prop
  | intro {p : Parser} (here : φ p) (parts : ∀ q, Part q p → Throughout φ q) : Throughout φ p

namespace Throughout

variable {φ : Parser → Prop} {p : Parser}

/-- The condition holds of the node at the top. -/
theorem here (h : Throughout φ p) : φ p := by
  cases h with
  | intro h _ => exact h

/-- The condition is passed on to the parts. -/
theorem part (h : Throughout φ p) {q : Parser} (hq : Part q p) : Throughout φ q := by
  cases h with
  | intro _ h => exact h q hq

/-- A weaker condition. -/
theorem mono {ψ : Parser → Prop} (h : Throughout φ p) (hψ : ∀ q, φ q → ψ q) :
    Throughout ψ p := by
  induction h with
  | intro here _ ih => exact .intro (hψ _ here) ih

end Throughout

/-! ### Conditions on nodes -/

/-- A node of a custom parser, whose action makes up replies of its own. -/
def IsCustom : Parser → Prop
  | .custom _ | .answer _ | .inspect .. => True
  | _ => False

/-- What a node expects is told by a text. Only the label of a negative lookahead may be
another value. -/
def HasTextLabel : Parser → Prop
  | .notFollowedBy _ label => ∃ t, label = .text t
  | _ => True

/-- A node about which nothing is left open: it is not custom, it has no pattern, and its
label, if it has one, is a text. -/
def IsPlain : Parser → Prop
  | .regex .. | .notFollowedBy .. => False
  | p => ¬ p.IsCustom

/-- The condition leaves out custom parsers. -/
theorem IsPlain.not_isCustom {p : Parser} (h : p.IsPlain) : ¬ p.IsCustom := by
  cases p with
  | regex | notFollowedBy => exact h.elim
  | _ => exact h

/-! ### The combinators -/

section

variable {φ : Parser → Prop} (hφ : ∀ p, IsPlain p → φ p) {p q : Parser}
include hφ

namespace Throughout

theorem literal (text : Text) : Throughout φ (.literal text) :=
  .intro (hφ _ id) fun _ h => nomatch h

theorem succeed (value : Value) : Throughout φ (.succeed value) :=
  .intro (hφ _ id) fun _ h => nomatch h

theorem fail (label : Text) : Throughout φ (.fail label) :=
  .intro (hφ _ id) fun _ h => nomatch h

theorem eof : Throughout φ .eof := .intro (hφ _ id) fun _ h => nomatch h

theorem index : Throughout φ .index := .intro (hφ _ id) fun _ h => nomatch h

theorem lazy (id : Nat) : Throughout φ (.lazy id) := .intro (hφ _ (·)) fun _ h => nomatch h

theorem map (h : Throughout φ p) (f : Value → Effect Value) : Throughout φ (p.map f) := by
  refine .intro (hφ _ id) ?_
  rintro _ ⟨⟩
  exact h

theorem chain (h : Throughout φ p) {next : Value → Parser} (hn : ∀ v, Throughout φ (next v)) :
    Throughout φ (p.chain next) := by
  refine .intro (hφ _ id) fun q hq => ?_
  cases hq with
  | chain => exact h
  | chainNext v => exact hn v

theorem raise (fault : Fault) : Throughout φ (.raise fault) :=
  .intro (hφ _ id) fun _ h => nomatch h

theorem note (n : Note) (h : Throughout φ p) : Throughout φ (.note n p) := by
  refine .intro (hφ _ id) ?_
  rintro _ ⟨⟩
  exact h

theorem seq {ps : List Parser} (h : ∀ p ∈ ps, Throughout φ p) : Throughout φ (.seq ps) := by
  refine .intro (hφ _ id) ?_
  rintro _ (_ | _ | _ | _ | _ | hp)
  exact h _ hp

theorem alternatives {ps : List Parser} (h : ∀ p ∈ ps, Throughout φ p) :
    Throughout φ (.alternatives ps) := by
  cases ps with
  | nil => exact .fail hφ _
  | cons p ps =>
      refine .intro (hφ _ id) fun q hq => h q ?_
      cases hq with
      | altFirst => exact List.mem_cons_self
      | altOther hq => exact List.mem_cons_of_mem p hq

theorem times (h : Throughout φ p) (least : Nat) (most : Option Nat) :
    Throughout φ (p.times least most) := by
  refine .intro (hφ _ id) ?_
  rintro _ ⟨⟩
  exact h

/-- Several parsers, one after the other, whatever is made of their values. -/
theorem seqMap {ps : List Parser} (h : ∀ p ∈ ps, Throughout φ p)
    (f : List Value → Effect Value) : Throughout φ (.seqMap ps f) :=
  .map hφ (.seq hφ h) _

theorem andThen (hp : Throughout φ p) (hq : Throughout φ q) : Throughout φ (p.andThen q) :=
  .map hφ (.seq hφ (List.forall_mem_cons.mpr ⟨hp, List.forall_mem_singleton.mpr hq⟩)) _

theorem skip (hp : Throughout φ p) (hq : Throughout φ q) : Throughout φ (p.skip q) :=
  .map hφ (.seq hφ (List.forall_mem_cons.mpr ⟨hp, List.forall_mem_singleton.mpr hq⟩)) _

theorem orElse (hp : Throughout φ p) (hq : Throughout φ q) : Throughout φ (p.orElse q) :=
  .alternatives hφ (List.forall_mem_cons.mpr ⟨hp, List.forall_mem_singleton.mpr hq⟩)

theorem optional (hp : Throughout φ p) (default : Value) : Throughout φ (p.optional default) :=
  .orElse hφ hp (.succeed hφ default)

theorem ap (hp : Throughout φ p) (hq : Throughout φ q) : Throughout φ (p.ap q) :=
  .seqMap hφ (List.forall_mem_cons.mpr ⟨hp, List.forall_mem_singleton.mpr hq⟩) _

theorem mark (hp : Throughout φ p) : Throughout φ p.mark := by
  refine .seqMap hφ ?_ _
  rw [List.forall_mem_cons, List.forall_mem_cons, List.forall_mem_singleton]
  exact ⟨.index hφ, hp, .index hφ⟩

theorem sepBy1 (hp : Throughout φ p) (hq : Throughout φ q) : Throughout φ (p.sepBy1 q) := by
  refine .seqMap hφ ?_ _
  rw [List.forall_mem_cons, List.forall_mem_singleton]
  exact ⟨hp, .times hφ (.andThen hφ hq hp) 0 none⟩

theorem sepBy (hp : Throughout φ p) (hq : Throughout φ q) : Throughout φ (p.sepBy q) :=
  .orElse hφ (.sepBy1 hφ hp hq) (.map hφ (.succeed hφ .none) _)

end Throughout

end

end Parser

end Furthest
