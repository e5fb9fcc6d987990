import Furthest.Fault

/-!
# Effects of callbacks

Callbacks do two things besides returning something: they may leave notes in a journal, and
they may raise a fault. Notes that were left before a fault stay in the journal. A callback
cannot read the journal, so that what it returns depends on its arguments alone.

## Main definitions

* `Note`: an entry of the journal.
* `Effect`: a computation with these effects.

## Main results

* `Effect` is a lawful monad.
-/

namespace Furthest

/-- An entry of the journal: a tag and what was noted under it. -/
structure Note where
  /-- What the entry is about. -/
  tag : Text
  /-- What was noted. -/
  items : List Value

/-- The notes of a run in the order in which they were left. -/
abbrev Journal := Array Note

/-- A computation that may leave notes and may raise a fault. -/
structure Effect (α : Type) where
  /-- The notes it leaves. -/
  notes : List Note
  /-- What it returns, or the fault it raises. -/
  outcome : Except Fault α

namespace Effect

/-- Raises a fault. -/
def raise (fault : Fault) : Effect α := ⟨[], .error fault⟩

/-- Returns the result of a computation that may raise a fault. -/
def ofExcept (e : Except Fault α) : Effect α := ⟨[], e⟩

/-- Leaves a note. -/
def note (n : Note) : Effect Unit := ⟨[n], .ok ()⟩

/-- One computation and then another, which is left out if the first one raises a fault. -/
protected def bind (e : Effect α) (f : α → Effect β) : Effect β :=
  match e.outcome with
  | .ok a =>
    let next := f a
    ⟨e.notes ++ next.notes, next.outcome⟩
  | .error fault => ⟨e.notes, .error fault⟩

instance : Monad Effect where
  pure a := ⟨[], .ok a⟩
  bind := Effect.bind

instance : LawfulMonad Effect := LawfulMonad.mk' Effect
  (by
    rintro α ⟨notes, outcome⟩
    cases outcome <;> simp [Functor.map, Effect.bind])
  (by
    intro α β a f
    rfl)
  (by
    rintro α β γ ⟨notes, outcome⟩ f g
    cases outcome with
    | error fault => rfl
    | ok a =>
      cases h : (f a).outcome <;> simp [bind, Effect.bind, h])

end Effect

end Furthest
