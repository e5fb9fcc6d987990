import Furthest.Proofs.Resolution

/-!
# Lazy Parsers Are Transparent

A grammar is a store of lazy parsers that refer to each other, with builders that always
return the same parser. While such a grammar is used, its lazy parsers become resolved one
by one, in an order that depends on which parsers are run on which texts. None of this can
be seen in a reply: a store that the grammar has become is a copy of it, which differs in
what is resolved and in nothing else, and runs in two copies stay side by side.

## Main results

* `Store.Presents.force`: an attempt at resolving comes to the same in all copies of a
  grammar.
* `Store.Presents.outcome_run_eq`: runs come to the same in all copies of a grammar.
* `Store.Presents.yields_lazy`: a lazy parser yields what the parser yields that its builder
  returns.
* `Store.lazy_transparent`: **lazy parsers are transparent.**
-/

namespace Furthest

namespace Store

variable {g s t : Store} {target : Nat → Parser} {id : Nat}

/-! ### Grammars and their copies -/

/-- A fresh grammar: no lazy parser is resolved yet, and every builder always returns the
same parser, whatever the number of the call. It makes no further lazy parsers, as these
would be other ones in every call. -/
structure Presents (g : Store) (target : Nat → Parser) : Prop where
  /-- No lazy parser is resolved. -/
  unresolved : ∀ (j : Nat) (slot : Slot), g.slots[j]? = some slot → slot.resolved = none
  /-- All calls of a builder return the same parser. -/
  constant : ∀ (j : Nat) (slot : Slot), g.slots[j]? = some slot → ∀ attempt next,
    slot.builder.call attempt g.scope next = .ok (.parser (target j), [])

/-- A copy of a grammar, in which any of the lazy parsers may be resolved already. -/
structure CopyOf (g : Store) (target : Nat → Parser) (s : Store) : Prop where
  /-- The scope is that of the grammar. -/
  scope : s.scope = g.scope
  /-- The builders are those of the grammar. -/
  builders : ∀ j : Nat, s.slots[j]?.map Slot.builder = g.slots[j]?.map Slot.builder
  /-- What is resolved is resolved to what its builder returns. -/
  resolved : ∀ (j : Nat) (slot : Slot) (p : Parser), s.slots[j]? = some slot →
    slot.resolved = some p → resolution j (.parser (target j)) = .ok p

/-- A grammar is a copy of itself. -/
theorem Presents.copyOf (hg : g.Presents target) : CopyOf g target g where
  scope := rfl
  builders _ := rfl
  resolved := by
    intro j slot p hj hp
    rw [hg.unresolved j slot hj] at hp
    cases hp

/-- A call of a builder in a copy returns the parser that it always returns. -/
theorem CopyOf.call_eq (h : CopyOf g target s) (hg : g.Presents target) {slot : Slot}
    (hs : s.slots[id]? = some slot) (attempt next : Nat) :
    slot.builder.call attempt s.scope next = .ok (.parser (target id), []) := by
  have hb := h.builders id
  rw [hs] at hb
  obtain ⟨old, hold, hbuilder⟩ := Option.map_eq_some_iff.mp hb.symm
  rw [h.scope, ← hbuilder]
  exact hg.constant id old hold attempt next

/-- Counting a call leaves a copy. -/
theorem CopyOf.called (h : CopyOf g target s) (id : Nat) (name : Text) :
    CopyOf g target (s.called id name) where
  scope := h.scope
  builders := by
    intro j
    rw [← h.builders j, called_slots, Array.getElem?_modify]
    split
    · rw [Option.map_map]
      rfl
    · rfl
  resolved := by
    intro j slot p hj hp
    obtain ⟨old, hold, -, hr⟩ := exists_of_called hj
    exact h.resolved j old p hold (hr ▸ hp)

/-- Resolving a lazy parser to what its builder returns leaves a copy. -/
theorem CopyOf.completed (h : CopyOf g target s) {p : Parser}
    (hp : resolution id (.parser (target id)) = .ok p) (name : Text) :
    CopyOf g target (s.completed id name p []) where
  scope := h.scope
  builders := by
    intro j
    rw [← h.builders j, completed_slots, List.map_nil, Array.append_empty,
      Array.getElem?_modify]
    split
    · rw [Option.map_map]
      rfl
    · rfl
  resolved := by
    intro j slot q hj hq
    rw [completed_slots, List.map_nil, Array.append_empty, Array.getElem?_modify] at hj
    split at hj
    · next hid =>
      subst hid
      obtain ⟨old, hold, rfl⟩ := Option.map_eq_some_iff.mp hj
      obtain rfl := Option.some.inj hq
      exact hp
    · exact h.resolved j slot q hj hq

/-- What an attempt at resolving comes to in a grammar. -/
def forced (g : Store) (target : Nat → Parser) (id : Nat) : Except Stop Parser :=
  match g.slots[id]? with
  | none => .error (.fault .unknownLazy)
  | some _ => (resolution id (.parser (target id))).mapError Stop.fault

/-- **An attempt at resolving comes to the same in all copies of a grammar, and leaves a
copy.** -/
theorem Presents.force (hg : g.Presents target) (h : CopyOf g target s) (id : Nat) :
    (Store.force id).outcome s = g.forced target id
      ∧ CopyOf g target ((Store.force id).after s) := by
  have hforced {slot : Slot} (hs : s.slots[id]? = some slot) :
      g.forced target id = (resolution id (.parser (target id))).mapError Stop.fault := by
    have hb := h.builders id
    rw [hs] at hb
    obtain ⟨old, hold, -⟩ := Option.map_eq_some_iff.mp hb.symm
    rw [Store.forced, hold]
  have hf := forcing s id
  simp only [Run.outcome, Run.after]
  generalize (Store.force id).exec s = r at hf ⊢
  cases hf with
  | unknown hs =>
      have hb := h.builders id
      rw [hs] at hb
      have hnone : g.slots[id]? = none := Option.map_eq_none_iff.mp hb.symm
      rw [Store.forced, hnone]
      exact ⟨rfl, h⟩
  | known hs hp =>
      rw [hforced hs, h.resolved _ _ _ hs hp]
      exact ⟨rfl, h⟩
  | raised hs _ hc =>
      rw [h.call_eq hg hs] at hc
      cases hc
  | refused hs _ hc hr =>
      rw [h.call_eq hg hs] at hc
      obtain ⟨rfl, rfl⟩ := Prod.mk.inj (Except.ok.inj hc)
      rw [hforced hs, hr]
      exact ⟨rfl, h.called _ _⟩
  | built hs _ hc hr =>
      rw [h.call_eq hg hs] at hc
      obtain ⟨rfl, rfl⟩ := Prod.mk.inj (Except.ok.inj hc)
      rw [hforced hs, hr]
      exact ⟨rfl, (h.called _ _).completed hr _⟩

/-- Every store that a grammar has become is a copy of it. -/
theorem Later.copyOf (h : g.Later s) (hg : g.Presents target) : CopyOf g target s := by
  induction h with
  | start => exact hg.copyOf
  | noted _ _ ih | reported _ _ _ ih => exact ⟨ih.scope, ih.builders, ih.resolved⟩
  | forced _ id ih => exact (hg.force ih id).2

/-! ### Runs in copies -/

/-- The coupling of two copies of a grammar. -/
def copies (g : Store) (target : Nat → Parser) : Coupling where
  related s t := CopyOf g target s ∧ CopyOf g target t
  excused _ := False
  noted := by
    rintro s t notes ⟨h, h'⟩
    exact ⟨⟨h.scope, h.builders, h.resolved⟩, ⟨h'.scope, h'.builders, h'.resolved⟩⟩
  reported := by
    rintro s t offset expected ⟨h, h'⟩
    exact ⟨⟨h.scope, h.builders, h.resolved⟩, ⟨h'.scope, h'.builders, h'.resolved⟩⟩

theorem Presents.forces (hg : g.Presents target) : (copies g target).Forces := by
  rintro id s t ⟨h, h'⟩
  obtain ⟨ho, hc⟩ := hg.force h id
  obtain ⟨ho', hc'⟩ := hg.force h' id
  exact .of_outcome_eq (ho.trans ho'.symm) ⟨hc, hc'⟩

/-- **Runs come to the same in all copies of a grammar.** -/
theorem Presents.outcome_run_eq (hg : g.Presents target) (h : CopyOf g target s)
    (h' : CopyOf g target t) (p : Parser) (limits : Limits) (src : Text) (pos : Int) :
    (p.run limits src pos).outcome s = (p.run limits src pos).outcome t :=
  (Coupling.run_alike hg.forces p (.inl rfl) (.inl rfl) src pos).outcome_eq (fun _ he => he)
    ⟨h, h'⟩

/-- A lazy parser whose builder does not return it itself is resolved to what its builder
returns. -/
theorem Presents.exec_force (hg : g.Presents target) (h : CopyOf g target s)
    (hid : id < g.slots.size) (hr : resolution id (.parser (target id)) = .ok (target id)) :
    (Store.force id).exec s = (.ok (target id), (Store.force id).after s) := by
  have hforced : g.forced target id = .ok (target id) := by
    rw [Store.forced, Array.getElem?_eq_getElem hid, hr]
    rfl
  exact Prod.ext ((hg.force h id).1.trans hforced) rfl

/-- A lazy parser comes to what the parser comes to that its builder returns, one level
deeper. -/
theorem Presents.outcome_run_lazy (hg : g.Presents target) (h : CopyOf g target s)
    (hid : id < g.slots.size) (hr : resolution id (.parser (target id)) = .ok (target id))
    (limits : Limits) (src : Text) (pos : Int) :
    ((Parser.lazy id).run ⟨limits.depth + 1, limits.rounds⟩ src pos).outcome s
      = ((target id).run limits src pos).outcome s := by
  calc ((Parser.lazy id).run ⟨limits.depth + 1, limits.rounds⟩ src pos).outcome s
      = ((target id).run limits src pos).outcome ((Store.force id).after s) :=
        congrArg Prod.fst (Run.exec_bind_of_ok (hg.exec_force h hid hr))
    _ = ((target id).run limits src pos).outcome s := hg.outcome_run_eq (hg.force h id).2 h ..

/-- **A lazy parser yields what the parser yields that its builder returns.** -/
theorem Presents.yields_lazy (hg : g.Presents target) (h : CopyOf g target s)
    (hid : id < g.slots.size) (src : Text) (pos : Int) (o : Except Fault Reply) :
    (Parser.lazy id).Yields src pos s o ↔ (target id).Yields src pos s o := by
  cases hr : resolution id (.parser (target id)) with
  | error fault =>
      -- the builder returns the lazy parser itself
      rw [eq_lazy_of_resolution hr]
  | ok q =>
      obtain rfl : target id = q := Operand.parser.inj (eq_parser_of_resolution hr)
      have hrun (limits : Limits) := hg.outcome_run_lazy h hid hr limits src pos
      constructor
      · rintro ⟨⟨_ | depth, rounds⟩, hl⟩
        · cases o <;> cases hl
        · exact ⟨⟨depth, rounds⟩, by rw [← hrun, hl]⟩
      · rintro ⟨limits, hl⟩
        exact ⟨⟨limits.depth + 1, limits.rounds⟩, by rw [hrun, hl]⟩

end Store

/-! ### Descriptions -/

/-- The reply of a parser with a label for failures at its start. -/
def Reply.described (reply : Reply) (pos : Int) (label : Text) : Reply :=
  match reply with
  | success index value record => success index value record
  | failure record =>
    if record.furthest = pos then mismatch pos (.text label) else failure record

namespace Parser

variable {p q : Parser} {src : Text} {pos : Int} {s : Store}

/-- A label changes nothing about a run but its reply. -/
theorem run_desc (p : Parser) (label : Text) (limits : Limits) (src : Text) (pos : Int) :
    (p.desc label).run limits src pos
      = (fun r : Reply => r.described pos label) <$> p.run limits src pos := by
  have hrun : (p.desc label).run limits = (p.run limits).desc label := rfl
  rw [hrun, Action.desc, ← bind_pure_comp]
  refine bind_congr fun r => ?_
  cases r with
  | success => rfl
  | failure record =>
      simp only [Reply.described]
      split
      · rfl
      · rfl

theorem outcome_run_desc (p : Parser) (label : Text) (limits : Limits) (src : Text) (pos : Int)
    (s : Store) : ((p.desc label).run limits src pos).outcome s
      = ((p.run limits src pos).outcome s).map (·.described pos label) := by
  rw [Run.outcome, run_desc, Run.exec_map]

/-- What a parser with a label yields. -/
theorem yields_desc {label : Text} {o : Except Fault Reply} :
    (p.desc label).Yields src pos s o
      ↔ ∃ o', p.Yields src pos s o' ∧ o = o'.map (·.described pos label) := by
  constructor
  · rintro ⟨limits, h⟩
    rw [outcome_run_desc] at h
    cases hp : (p.run limits src pos).outcome s with
    | ok r =>
        rw [hp] at h
        refine ⟨.ok r, ⟨limits, hp⟩, ?_⟩
        cases o <;> cases h
        rfl
    | error e =>
        rw [hp] at h
        cases o with
        | ok r => cases h
        | error fault =>
            obtain rfl : e = .fault fault := Except.error.inj h
            exact ⟨.error fault, ⟨limits, hp⟩, rfl⟩
  · rintro ⟨o', ⟨limits, h⟩, rfl⟩
    refine ⟨limits, ?_⟩
    rw [outcome_run_desc, h]
    cases o' <;> rfl

/-- Parsers that yield the same do so with a label. -/
theorem yields_desc_congr (h : ∀ o, p.Yields src pos s o ↔ q.Yields src pos s o) (label : Text)
    (o : Except Fault Reply) :
    (p.desc label).Yields src pos s o ↔ (q.desc label).Yields src pos s o := by
  simp only [yields_desc, h]

end Parser

namespace Store

/-- **Lazy parsers are transparent.** In every store that a grammar has become, by whatever
runs and parses in whatever order, a run comes to the same as in the fresh grammar: the same
reply, or the same fault. And a lazy parser, with or without a label, yields what the parser
yields that its builder returns. -/
theorem lazy_transparent {g s : Store} {target : Nat → Parser} (hg : g.Presents target)
    (hs : g.Later s) (src : Text) (pos : Int) :
    (∀ (p : Parser) (limits : Limits),
        (p.run limits src pos).outcome s = (p.run limits src pos).outcome g)
      ∧ (∀ id < g.slots.size, ∀ o,
          (Parser.lazy id).Yields src pos s o ↔ (target id).Yields src pos s o)
      ∧ (∀ id < g.slots.size, ∀ label o,
          ((Parser.lazy id).desc label).Yields src pos s o
            ↔ ((target id).desc label).Yields src pos s o)
      ∧ (∀ (p : Parser) (limits : Limits), g.Later ((p.run limits src pos).after s))
      ∧ ∀ (p : Parser) (limits : Limits), g.Later ((p.parse limits src).after s) := by
  have hcopy := hs.copyOf hg
  have hlazy (id : Nat) (hid : id < g.slots.size) := hg.yields_lazy hcopy hid src pos
  refine ⟨?_, hlazy, ?_, ?_, ?_⟩
  · exact fun p limits => hg.outcome_run_eq hcopy hg.copyOf p limits src pos
  · exact fun id hid => Parser.yields_desc_congr (hlazy id hid)
  · exact fun p limits => hs.run p limits src pos
  · exact fun p limits => hs.parse p limits src

/-- The second lazy parser of the grammar of lists, whose builder returns the first one.
After a run that has resolved both, it comes to what it comes to in the fresh grammar, and
it yields what the first one yields. -/
theorem lists_transparent :
    let target : Nat → Parser
      | 0 => .brackets
      | _ => .lazy 0
    let s := ((Parser.lazy 1).run ⟨2, 3⟩ "[1]" 0).after lists
    lists.Presents target ∧ lists.Later s
      ∧ s.slots.toList.map (fun slot => slot.resolved.isSome) = [true, true]
      ∧ ((Parser.lazy 1).run ⟨4, 4⟩ "[1,[2]]" 0).outcome s
          = ((Parser.lazy 1).run ⟨4, 4⟩ "[1,[2]]" 0).outcome lists
      ∧ ∀ o, (Parser.lazy 1).Yields "[1,[2]]" 0 s o
          ↔ (Parser.lazy 0).Yields "[1,[2]]" 0 s o := by
  intro target s
  have hslots : ∀ (j : Nat) (slot : Slot), lists.slots[j]? = some slot → slot.resolved = none
      ∧ ∀ attempt next,
          slot.builder.call attempt lists.scope next = .ok (.parser (target j), []) := by
    intro j slot hj
    match j with
    | 0 =>
        cases hj
        exact ⟨rfl, fun _ _ => rfl⟩
    | 1 =>
        cases hj
        exact ⟨rfl, fun _ _ => rfl⟩
    | j + 2 => cases hj
  have hg : lists.Presents target :=
    ⟨fun j slot hj => (hslots j slot hj).1, fun j slot hj => (hslots j slot hj).2⟩
  have hs : lists.Later s := Later.start.run (.lazy 1) ⟨2, 3⟩ "[1]" 0
  obtain ⟨hrun, hlazy, -⟩ := lazy_transparent hg hs "[1,[2]]" 0
  exact ⟨hg, hs, rfl, hrun _ _, hlazy 1 (by decide)⟩

end Store

end Furthest
