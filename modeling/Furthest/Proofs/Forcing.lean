import Furthest.Proofs.Coupling
import Furthest.Proofs.Parts

/-!
# Resolving Lazy Parsers

`Store.force` is the only step of a run that looks at a lazy parser or changes one. This
module says once all that the step can do: `Store.Forcing` has one clause for each way
through it, and what is proved about lazy parsers is proved by cases on these clauses.

What a lazy parser stands for depends on the store, so a condition on everything that a run
can come to has to be passed on through builders. `Builder.Makes` passes it on to the
results of a builder and to the builders of the lazy parsers that are made on the way,
`Store.Admits` to everything that a store holds.

## Main results

* `Store.forcing`: the clauses are all that resolving a lazy parser can do.
* `Store.force_admits`: resolving a lazy parser keeps a condition on the store, and the
  result meets it.
* `Store.lists`: a grammar with two lazy parsers that refer to each other.
-/

namespace Furthest

namespace Store

/-! ### The steps -/

/-- The store after a call of a lazy parser's builder, which has the given name, has been
counted and noted. -/
def called (s : Store) (id : Nat) (name : Text) : Store :=
  (s.countCall id).noted [{ tag := buildTag, items := [.text name] }]

/-- The store after a lazy parser has been resolved to a parser, by a builder that has the
given name and has made further lazy parsers. -/
def completed (s : Store) (id : Nat) (name : Text) (p : Parser) (made : List Builder) :
    Store :=
  Store.resolve { s.allocate made with log := (s.allocate made).log.push (.resolved name) } id
    p

@[simp] theorem called_scope (s : Store) (id : Nat) (name : Text) :
    (s.called id name).scope = s.scope := rfl

@[simp] theorem called_slots (s : Store) (id : Nat) (name : Text) :
    (s.called id name).slots
      = s.slots.modify id fun slot => { slot with calls := slot.calls + 1 } := rfl

@[simp] theorem completed_log (s : Store) (id : Nat) (name : Text) (p : Parser)
    (made : List Builder) : (s.completed id name p made).log = s.log.push (.resolved name) :=
  rfl

@[simp] theorem completed_slots (s : Store) (id : Nat) (name : Text) (p : Parser)
    (made : List Builder) : (s.completed id name p made).slots
      = (s.slots ++ (made.map fun b => (⟨b, 0, none⟩ : Slot)).toArray).modify id
          fun slot => { slot with resolved := some p } := rfl

/-- What resolving a lazy parser comes to: its outcome and the store after it. -/
inductive Forcing (s : Store) (id : Nat) : Except Stop Parser × Store → Prop
  /-- There is no lazy parser with this number. -/
  | unknown (h : s.slots[id]? = none) : Forcing s id (.error (.fault .unknownLazy), s)
  /-- It is resolved already: nothing happens. -/
  | known {slot : Slot} {p : Parser} (h : s.slots[id]? = some slot)
      (hp : slot.resolved = some p) :
      Forcing s id (.ok p, s)
  /-- The call of its builder raises a fault. -/
  | raised {slot : Slot} {fault : Fault} (h : s.slots[id]? = some slot)
      (hn : slot.resolved = none)
      (hc : slot.builder.call (slot.calls + 1) s.scope s.slots.size = .error fault) :
      Forcing s id (.error (.fault fault), s.called id slot.builder.name)
  /-- The call of its builder returns something that it cannot be resolved to. -/
  | refused {slot : Slot} {o : Operand} {made : List Builder} {fault : Fault}
      (h : s.slots[id]? = some slot) (hn : slot.resolved = none)
      (hc : slot.builder.call (slot.calls + 1) s.scope s.slots.size = .ok (o, made))
      (hr : resolution id o = .error fault) :
      Forcing s id (.error (.fault fault), s.called id slot.builder.name)
  /-- The call of its builder returns another parser. -/
  | built {slot : Slot} {o : Operand} {made : List Builder} {p : Parser}
      (h : s.slots[id]? = some slot) (hn : slot.resolved = none)
      (hc : slot.builder.call (slot.calls + 1) s.scope s.slots.size = .ok (o, made))
      (hr : resolution id o = .ok p) :
      Forcing s id
        (.ok p, (s.called id slot.builder.name).completed id slot.builder.name p made)

/-- The clauses are all that resolving a lazy parser can do. -/
theorem forcing (s : Store) (id : Nat) : Forcing s id ((force id).exec s) := by
  have hget : (get : Run Store).exec s = (.ok s, s) := rfl
  rw [force, Run.exec_bind_of_ok hget]
  cases h : s.slots[id]? with
  | none => exact .unknown h
  | some slot =>
      cases hn : slot.resolved with
      | some p => simpa only [hn] using .known h hn
      | none =>
          have hsize : (s.called id slot.builder.name).slots.size = s.slots.size := by simp
          simp only [hn]
          rw [Run.exec_bind_of_ok (Run.exec_modify _ _),
            Run.exec_bind_of_ok (Run.exec_note _ _),
            Run.exec_bind_of_ok (Run.exec_get _), ← called, called_scope, hsize]
          cases hc : slot.builder.call (slot.calls + 1) s.scope s.slots.size with
          | error fault =>
              rw [Run.exec_bind_of_error (Run.exec_ofExcept _ _)]
              exact .raised h hn hc
          | ok r =>
              obtain ⟨o, made⟩ := r
              rw [Run.exec_bind_of_ok (Run.exec_ofExcept _ _)]
              cases hr : resolution id o with
              | error fault =>
                  rw [Run.exec_bind_of_error (Run.exec_ofExcept _ _)]
                  exact .refused h hn hc hr
              | ok p =>
                  rw [Run.exec_bind_of_ok (Run.exec_ofExcept _ _)]
                  exact .built h hn hc hr

/-- Only a parser is something to be resolved to. -/
theorem eq_parser_of_resolution {id : Nat} {o : Operand} {p : Parser}
    (h : resolution id o = .ok p) : o = .parser p := by
  cases o with
  | parser q =>
      simp only [resolution] at h
      split at h
      · cases h
      · rw [Except.ok.inj h]
  | pattern _ => cases h
  | bytesPattern _ => cases h
  | value _ => cases h

/-- The only parser that a lazy parser cannot be resolved to is itself. -/
theorem eq_lazy_of_resolution {id : Nat} {p : Parser} {fault : Fault}
    (h : resolution id (.parser p) = .error fault) : p = .lazy id := by
  simp only [resolution] at h
  split at h
  · next hi =>
    simp only [isLazy] at hi
    split at hi
    · rw [eq_of_beq hi]
    · cases hi
  · cases h

/-! ### The lazy parsers afterwards -/

/-- Counting a call changes neither the builder nor the resolution of a lazy parser. -/
theorem exists_of_called {s : Store} {id j : Nat} {name : Text} {slot : Slot}
    (h : (s.called id name).slots[j]? = some slot) :
    ∃ old, s.slots[j]? = some old ∧ slot.builder = old.builder
      ∧ slot.resolved = old.resolved := by
  rw [called_slots, Array.getElem?_modify] at h
  split at h
  · obtain ⟨old, hold, rfl⟩ := Option.map_eq_some_iff.mp h
    exact ⟨old, hold, rfl, rfl⟩
  · exact ⟨slot, h, rfl, rfl⟩

/-- When a lazy parser has been resolved to `p`, every lazy parser was there before or is
one of those its builder has made, and it is resolved as before or to `p`. -/
theorem exists_of_completed {s : Store} {id j : Nat} {name : Text} {p : Parser}
    {made : List Builder} {slot : Slot}
    (h : (s.completed id name p made).slots[j]? = some slot) :
    ((∃ old, s.slots[j]? = some old ∧ slot.builder = old.builder ∧ slot.calls = old.calls
        ∧ (slot.resolved = old.resolved ∨ slot.resolved = some p))
      ∨ (slot.builder ∈ made ∧ (slot.resolved = none ∨ slot.resolved = some p))) := by
  have hnew : ∀ old : Slot, (s.slots ++ (made.map fun b => (⟨b, 0, none⟩ : Slot)).toArray)[j]?
      = some old → s.slots[j]? = some old ∨ (old.builder ∈ made ∧ old.resolved = none) := by
    intro old hold
    rw [Array.getElem?_append] at hold
    split at hold
    · exact .inl hold
    · rw [List.getElem?_toArray, List.getElem?_map] at hold
      obtain ⟨b, hb, rfl⟩ := Option.map_eq_some_iff.mp hold
      exact .inr ⟨List.mem_of_getElem? hb, rfl⟩
  rw [completed_slots, Array.getElem?_modify] at h
  split at h
  · obtain ⟨old, hold, rfl⟩ := Option.map_eq_some_iff.mp h
    rcases hnew old hold with hs | ⟨hb, -⟩
    · exact .inl ⟨old, hs, rfl, rfl, .inr rfl⟩
    · exact .inr ⟨hb, .inr rfl⟩
  · rcases hnew slot h with hs | ⟨hb, hn⟩
    · exact .inl ⟨slot, hs, rfl, rfl, .inl rfl⟩
    · exact .inr ⟨hb, .inl hn⟩

end Store

/-! ### Conditions on everything that a store leads to -/

/-- Whatever parsers with a condition the scope holds, the calls of the builder return
parsers that have it, and so do the calls of the builders of the lazy parsers they make. -/
inductive Builder.Makes (φ : Parser → Prop) : Builder → Prop
  | intro {name : Text} {call : Nat → Scope → Nat → Except Fault (Operand × List Builder)}
      (result : ∀ k scope next p made, (∀ e ∈ scope, ∀ q, e.2 = .parser q → φ q) →
        call k scope next = .ok (.parser p, made) → φ p)
      (further : ∀ k scope next o made, (∀ e ∈ scope, ∀ q, e.2 = .parser q → φ q) →
        call k scope next = .ok (o, made) → ∀ b ∈ made, Builder.Makes φ b) :
      Builder.Makes φ (.mk name call)

namespace Builder.Makes

variable {φ : Parser → Prop} {b : Builder} {k next : Nat} {scope : Scope} {bs : List Builder}

/-- A builder that always returns the same parser. -/
theorem constant {p : Parser} (hp : φ p) (name : Text) :
    (Builder.mk name fun _ _ _ => .ok (.parser p, [])).Makes φ := by
  refine .intro ?_ ?_
  · rintro _ _ _ _ _ _ ⟨⟩
    exact hp
  · rintro _ _ _ _ _ _ ⟨⟩ _ ⟨⟩

/-- The result of a call. -/
theorem result (h : b.Makes φ) (hs : ∀ e ∈ scope, ∀ q, e.2 = .parser q → φ q) {p : Parser}
    (hc : b.call k scope next = .ok (.parser p, bs)) : φ p := by
  cases h with
  | intro hr _ => exact hr k scope next p bs hs hc

/-- The builders of the lazy parsers that a call makes. -/
theorem made (h : b.Makes φ) (hs : ∀ e ∈ scope, ∀ q, e.2 = .parser q → φ q) {o : Operand}
    (hc : b.call k scope next = .ok (o, bs)) : ∀ b' ∈ bs, b'.Makes φ := by
  cases h with
  | intro _ hf => exact hf k scope next o bs hs hc

end Builder.Makes

/-- All parsers that a store can lead to have a condition: those in its scope, those that
its lazy parsers are resolved to, and those that their builders return. -/
structure Store.Admits (φ : Parser → Prop) (s : Store) : Prop where
  /-- The parsers with names. -/
  scope : ∀ e ∈ s.scope, ∀ p, e.2 = .parser p → φ p
  /-- The builders. -/
  builders : ∀ (j : Nat) (slot : Slot), s.slots[j]? = some slot → slot.builder.Makes φ
  /-- The lazy parsers that are resolved. -/
  resolved : ∀ (j : Nat) (slot : Slot) (p : Parser), s.slots[j]? = some slot →
    slot.resolved = some p → φ p

namespace Store

variable {φ : Parser → Prop} {s : Store}

/-- Notes do not matter. -/
theorem Admits.noted (s : Store) (notes : List Note) (h : s.Admits φ) :
    (s.noted notes).Admits φ :=
  ⟨h.scope, h.builders, h.resolved⟩

/-- The log does not matter. -/
theorem Admits.reported (s : Store) (offset : Int) (expected : List Value) (h : s.Admits φ) :
    (s.reported offset expected).Admits φ :=
  ⟨h.scope, h.builders, h.resolved⟩

/-- A call that has been counted does not matter. -/
theorem Admits.called (h : s.Admits φ) (id : Nat) (name : Text) :
    (s.called id name).Admits φ where
  scope := h.scope
  builders := by
    intro j slot hj
    obtain ⟨old, hold, hb, -⟩ := exists_of_called hj
    exact hb ▸ h.builders j old hold
  resolved := by
    intro j slot p hj hp
    obtain ⟨old, hold, -, hr⟩ := exists_of_called hj
    exact h.resolved j old p hold (hr ▸ hp)

/-- A lazy parser may be resolved to a parser that has the condition. -/
theorem Admits.completed (h : s.Admits φ) (id : Nat) (name : Text) {p : Parser}
    {made : List Builder} (hp : φ p) (hm : ∀ b ∈ made, b.Makes φ) :
    (s.completed id name p made).Admits φ where
  scope := h.scope
  builders := by
    intro j slot hj
    rcases exists_of_completed hj with ⟨old, hold, hb, -⟩ | ⟨hb, -⟩
    · exact hb ▸ h.builders j old hold
    · exact hm _ hb
  resolved := by
    intro j slot q hj hq
    rcases exists_of_completed hj with ⟨old, hold, -, -, hr | hr⟩ | ⟨-, hr | hr⟩
    · exact h.resolved j old q hold (hr ▸ hq)
    · exact Option.some.inj (hr ▸ hq) ▸ hp
    · rw [hr] at hq
      cases hq
    · exact Option.some.inj (hr ▸ hq) ▸ hp

/-- A store in which nothing has happened but that lazy parsers have been added. -/
theorem admits_allocate {bs : List Builder} (h : ∀ b ∈ bs, b.Makes φ) :
    (empty.allocate bs).Admits φ := by
  have hslots : ∀ (j : Nat) (slot : Slot), (empty.allocate bs).slots[j]? = some slot →
      slot.builder ∈ bs ∧ slot.resolved = none := by
    intro j slot hj
    have hget : (bs.map fun b => (⟨b, 0, none⟩ : Slot))[j]? = some slot := by
      simpa [allocate, empty] using hj
    obtain ⟨b, hb, rfl⟩ := List.mem_map.mp (List.mem_of_getElem? hget)
    exact ⟨hb, rfl⟩
  refine ⟨?_, fun j slot hj => h _ (hslots j slot hj).1, ?_⟩
  · rintro _ ⟨⟩
  · intro j slot p hj hp
    rw [(hslots j slot hj).2] at hp
    cases hp

/-- The coupling of a store with itself, as long as everything that it leads to has a
condition. -/
def admitting (φ : Parser → Prop) : Coupling := .same (Admits φ) Admits.noted Admits.reported

/-- **Resolving a lazy parser keeps a condition on everything that the store leads to, and
the result has it.** -/
theorem force_admits (φ : Parser → Prop) (id : Nat) :
    (admitting φ).Rel (fun p q => p = q ∧ φ p) (force id) (force id) := by
  rintro s _ ⟨rfl, h⟩
  have hf := forcing s id
  generalize (force id).exec s = r at hf
  cases hf with
  | unknown _ => exact .stopped ⟨rfl, h⟩
  | known hs hp => exact .returned ⟨rfl, h.resolved _ _ _ hs hp⟩ ⟨rfl, h⟩
  | raised hs _ _ => exact .stopped ⟨rfl, h.called _ _⟩
  | refused hs _ _ _ => exact .stopped ⟨rfl, h.called _ _⟩
  | built hs _ hc hr =>
      obtain rfl := eq_parser_of_resolution hr
      have hm := h.builders _ _ hs
      have hp := hm.result h.scope hc
      exact .returned ⟨rfl, hp⟩ ⟨rfl, (h.called _ _).completed _ _ hp (hm.made h.scope hc)⟩

end Store

/-! ### A grammar -/

/-- A digit, as a pattern. -/
def Regex.Pattern.digit : Regex.Pattern :=
  { source := "[0-9]", flags := Regex.Flags.unicode, groups := 0, names := []
    node := .chars
      { items := [.range 48 57], negated := false, ignoreCase := false, ascii := false } }

/-- A digit or a list. -/
def Parser.item : Parser := (regex .digit 0).orElse (lazy 1)

/-- A list of items in brackets, with commas between them. -/
def Parser.brackets : Parser :=
  ((literal "[").andThen (item.sepBy (literal ","))).skip (literal "]")

/-- Two lazy parsers that refer to each other: the first one is built as a list, whose items
may be the second one, and the second one is built as the first one. -/
def Store.lists : Store :=
  Store.empty.allocate
    [.mk "brackets" fun _ _ _ => .ok (.parser .brackets, []),
      .mk "alias" fun _ _ _ => .ok (.parser (.lazy 0), [])]

/-- A condition that holds of the pattern for digits and of all nodes about which nothing is
left open holds of everything that the grammar leads to. -/
theorem Store.lists_admits {φ : Parser → Prop} (hφ : ∀ p, p.IsPlain → φ p)
    (hdigit : φ (.regex .digit 0)) : lists.Admits (Parser.Throughout φ) := by
  have hitem : Parser.item.Throughout φ :=
    .orElse hφ (.intro hdigit fun _ h => nomatch h) (.lazy hφ 1)
  have hbrackets : Parser.brackets.Throughout φ :=
    .skip hφ (.andThen hφ (.literal hφ _) (.sepBy hφ hitem (.literal hφ _))) (.literal hφ _)
  refine admits_allocate (List.forall_mem_cons.mpr ⟨.constant hbrackets _, ?_⟩)
  exact List.forall_mem_singleton.mpr (.constant (.lazy hφ 0) _)

end Furthest
