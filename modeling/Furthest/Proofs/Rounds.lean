import Furthest.Proofs.RepetitionLaws

/-!
# The Rounds of a Repetition

A repetition has two loops, which share their values, their failures and their offset: one
for the required rounds, which all have to match, and one for the optional rounds, which
stops at the first one that does not match, at the upper limit, or, if there is none, behind
a round that has matched the empty text. This module says what a repetition comes to in
terms of its rounds.

`LedgerAction.Matches` lists rounds that match one after the other, each one in the store
that the one before it has left. From every offset there are such rounds up to one that does
not go on (`LedgerAction.exists_matches`), and what the loops make of them is said once, for
each way in which they can end: `LedgerAction.Ends` for the optional rounds,
`LedgerAction.Course` for the whole.

Rounds of a parser that never goes back tile the text between the offset and the index of
the repetition.

## Main results

* `LedgerAction.repeated_course`: every repetition takes one of the courses.
* `LedgerAction.Course.exec_repeated`: what a repetition of a given course comes to.
* `Match.Tile.flatten_slices`: rounds that tile a part of a text are that part, joined.
-/

namespace Furthest

/-! ### Matches that follow each other -/

/-- A match: where it starts, its value, and where it ends. -/
structure Match where
  /-- The offset at which it starts. -/
  start : Nat
  /-- The value. -/
  value : Value
  /-- The index behind it. -/
  stop : Nat

namespace LedgerAction

/-- An action matches again and again, each time where the match before has ended and in the
store that it has left: from an offset to an index, with these matches and these
failures. -/
inductive Matches (a : LedgerAction) (src : Text) :
    Store → Nat → List Match → Ledger → Nat → Store → Prop
  | nil (s : Store) (pos : Nat) : Matches a src s pos [] [] pos s
  | cons {s t u : Store} {pos i index : Nat} {v : Value} {l k : Ledger} {ms : List Match}
      (h : (a src pos).exec s = (.ok ⟨some (i, v), l⟩, t))
      (hs : Matches a src t i ms k index u) :
      Matches a src s pos (⟨pos, v, i⟩ :: ms) (l ++ k) index u

variable {a : LedgerAction} {src : Text} {s t u : Store}
  {pos i index n rounds : Nat} {v : Value} {l k : Ledger} {ms : List Match}
  {values : List Value}

theorem Matches.append {ns : List Match} (h : Matches a src s pos ms l i t)
    (h' : Matches a src t i ns k index u) :
    Matches a src s pos (ms ++ ns) (l ++ k) index u := by
  induction h with
  | nil => exact h'
  | cons h _ ih =>
      rw [List.append_assoc]
      exact .cons h (ih h')

/-- The values of a match and of the matches behind it, in front of which other values
stand. -/
theorem values_cons (pos i : Nat) (v : Value) (ms : List Match) (values : List Value) :
    ((⟨pos, v, i⟩ :: ms : List Match).map Match.value).reverse ++ values
      = (ms.map Match.value).reverse ++ v :: values := by
  rw [List.map_cons, List.reverse_cons, List.append_assoc, List.singleton_append]

/-- Required rounds that match leave the other ones. -/
theorem Matches.exec_required (h : Matches a src s pos ms l i t)
    (finish : Progress → Run Attempt) (n : Nat) (values : List Value) (k : Ledger) :
    (required a src finish (ms.length + n) ⟨values, k, pos⟩).exec s
      = (required a src finish n
          ⟨(ms.map Match.value).reverse ++ values, k ++ l, i⟩).exec t := by
  induction h generalizing values k with
  | nil => simp
  | cons h _ ih =>
      rw [List.length_cons, Nat.add_right_comm, required, Run.exec_bind_of_ok h, values_cons,
        ← List.append_assoc]
      exact ih _ _

/-- Optional rounds that match leave the other ones. -/
theorem Matches.exec_upTo (h : Matches a src s pos ms l i t) (n : Nat) (values : List Value)
    (k : Ledger) :
    (upTo a src (ms.length + n) ⟨values, k, pos⟩).exec s
      = (upTo a src n ⟨(ms.map Match.value).reverse ++ values, k ++ l, i⟩).exec t := by
  induction h generalizing values k with
  | nil => simp
  | cons h _ ih =>
      rw [List.length_cons, Nat.add_right_comm, upTo, Run.exec_bind_of_ok h, values_cons,
        ← List.append_assoc]
      exact ih _ _

/-- Rounds without an upper limit that match, and not the empty text, leave the other
ones. -/
theorem Matches.exec_unbounded (h : Matches a src s pos ms l i t)
    (hne : ∀ m ∈ ms, m.start ≠ m.stop) (n : Nat) (values : List Value) (k : Ledger) :
    (unbounded a src (ms.length + n) ⟨values, k, pos⟩).exec s
      = (unbounded a src n ⟨(ms.map Match.value).reverse ++ values, k ++ l, i⟩).exec t := by
  induction h generalizing values k with
  | nil => simp
  | @cons s t u pos i index v l k' ms h _ ih =>
      rw [List.forall_mem_cons] at hne
      have hindex : ¬ i = pos := fun h => hne.1 h.symm
      rw [List.length_cons, Nat.add_right_comm, unbounded, Run.exec_bind_of_ok h, values_cons,
        ← List.append_assoc]
      simp only [if_neg hindex]
      exact ih hne.2 _ _

/-- **Every run of rounds comes to an end**, after a number of rounds or before, where the
next round is not one of those that go on. -/
theorem exists_matches (a : LedgerAction) (src : Text) (go : Match → Prop)
    (n : Nat) (s : Store) (pos : Nat) :
    ∃ ms l i t, Matches a src s pos ms l i t ∧ (∀ m ∈ ms, go m)
      ∧ (ms.length = n ∨ ms.length < n ∧ ∀ j v k u,
          (a src i).exec t = (.ok ⟨some (j, v), k⟩, u) → ¬ go ⟨i, v, j⟩) := by
  induction n generalizing s pos with
  | zero => exact ⟨[], [], pos, s, .nil s pos, List.forall_mem_nil _, .inl rfl⟩
  | succ n ih =>
      by_cases h : ∃ j v k u, (a src pos).exec s = (.ok ⟨some (j, v), k⟩, u) ∧ go ⟨pos, v, j⟩
      · obtain ⟨j, v, k, u, hexec, hgo⟩ := h
        obtain ⟨ms, l, i, t, hms, hall, hend⟩ := ih u j
        refine ⟨_, _, i, t, .cons hexec hms, List.forall_mem_cons.mpr ⟨hgo, hall⟩, ?_⟩
        rw [List.length_cons]
        rcases hend with hend | ⟨hlt, hend⟩
        · exact .inl (congrArg (· + 1) hend)
        · exact .inr ⟨Nat.succ_lt_succ hlt, hend⟩
      · refine ⟨[], [], pos, s, .nil s pos, List.forall_mem_nil _, .inr ⟨Nat.succ_pos n, ?_⟩⟩
        exact fun j v k u hexec hgo => h ⟨j, v, k, u, hexec, hgo⟩

/-! ### How a repetition ends -/

/-- What the optional rounds of a repetition come to: the matches, the failures and the
index at which they end, or why they are broken off. -/
inductive Ends (a : LedgerAction) (src : Text) (rounds : Nat) (s : Store) (pos : Nat) :
    Option Nat → Except Stop (List Match × Ledger × Nat) × Store → Prop
  /-- There are as many rounds as there may be. -/
  | full {t : Store} {i : Nat} {ms : List Match} {l : Ledger}
      (h : Matches a src s pos ms l i t) :
      Ends a src rounds s pos (some ms.length) (.ok (ms, l, i), t)
  /-- The next round does not match. -/
  | refused {extra : Option Nat} {t u : Store} {i : Nat} {ms : List Match} {l k : Ledger}
      (h : Matches a src s pos ms l i t) (hmore : ∀ n, extra = some n → ms.length < n)
      (hgo : extra = none → ms.length < rounds ∧ ∀ m ∈ ms, m.start ≠ m.stop)
      (hr : (a src i).exec t = (.ok ⟨none, k⟩, u)) :
      Ends a src rounds s pos extra (.ok (ms, l ++ k, i), u)
  /-- The last round has matched the empty text, and there is no upper limit. -/
  | idle {t u : Store} {i : Nat} {v : Value} {ms : List Match} {l k : Ledger}
      (h : Matches a src s pos ms l i t) (hlt : ms.length < rounds)
      (hne : ∀ m ∈ ms, m.start ≠ m.stop) (hr : (a src i).exec t = (.ok ⟨some (i, v), k⟩, u)) :
      Ends a src rounds s pos none (.ok (ms ++ [⟨i, v, i⟩], l ++ k, i), u)
  /-- The next round is broken off. -/
  | broken {extra : Option Nat} {t u : Store} {i : Nat} {ms : List Match} {l : Ledger}
      {e : Stop} (h : Matches a src s pos ms l i t)
      (hmore : ∀ n, extra = some n → ms.length < n)
      (hgo : extra = none → ms.length < rounds ∧ ∀ m ∈ ms, m.start ≠ m.stop)
      (hr : (a src i).exec t = (.error e, u)) : Ends a src rounds s pos extra (.error e, u)
  /-- The limits do not suffice. -/
  | exhausted {t : Store} {i : Nat} {ms : List Match} {l : Ledger}
      (h : Matches a src s pos ms l i t) (hlength : ms.length = rounds)
      (hne : ∀ m ∈ ms, m.start ≠ m.stop) :
      Ends a src rounds s pos none (.error .exhausted, t)

/-- Where the optional rounds go on, the next one is run, and they end if it does not
match. -/
theorem Matches.exec_further {extra : Option Nat} (h : Matches a src s pos ms l i t)
    (hmore : ∀ n, extra = some n → ms.length < n)
    (hgo : extra = none → ms.length < rounds ∧ ∀ m ∈ ms, m.start ≠ m.stop)
    (values : List Value) (k : Ledger) :
    ∃ f, (further a rounds extra src ⟨values, k, pos⟩).exec s = (a src i >>= f).exec t
      ∧ ∀ k', f ⟨none, k'⟩
        = pure ⟨some (i, .list (values.reverse ++ ms.map Match.value)), k ++ (l ++ k')⟩ := by
  cases extra with
  | some n =>
      obtain ⟨m, rfl⟩ : ∃ m, n = ms.length + (m + 1) :=
        ⟨n - ms.length - 1, by have := hmore n rfl; omega⟩
      rw [further, h.exec_upTo, upTo]
      exact ⟨_, rfl, fun k' => by simp [Progress.close]⟩
  | none =>
      obtain ⟨hlt, hne⟩ := hgo rfl
      obtain ⟨m, rfl⟩ : ∃ m, rounds = ms.length + (m + 1) := ⟨rounds - ms.length - 1, by omega⟩
      rw [further, h.exec_unbounded hne, unbounded]
      exact ⟨_, rfl, fun k' => by simp [Progress.close]⟩

/-- The loop of the optional rounds does what it comes to. -/
theorem Ends.exec_further {extra : Option Nat} {o : Except Stop (List Match × Ledger × Nat)}
    (h : Ends a src rounds s pos extra (o, u)) (values : List Value) (k : Ledger) :
    (further a rounds extra src ⟨values, k, pos⟩).exec s
      = (o.map fun r =>
          ⟨some (r.2.2, .list (values.reverse ++ r.1.map Match.value)), k ++ r.2.1⟩,
        u) := by
  cases h with
  | full h =>
      have hrun := h.exec_upTo 0 values k
      rw [Nat.add_zero] at hrun
      simp [further, hrun, upTo, Progress.close, Except.map]
  | refused h hmore hgo hr =>
      obtain ⟨f, hrun, hf⟩ := h.exec_further hmore hgo values k
      rw [hrun, Run.exec_bind_of_ok hr, hf]
      rfl
  | @idle _ _ _ _ ms _ _ h hlt hne hr =>
      obtain ⟨m, rfl⟩ : ∃ m, rounds = ms.length + (m + 1) := ⟨rounds - ms.length - 1, by omega⟩
      rw [further, h.exec_unbounded hne, unbounded, Run.exec_bind_of_ok hr]
      simp [Progress.close, Progress.next, Except.map]
  | broken h hmore hgo hr =>
      obtain ⟨f, hrun, -⟩ := h.exec_further hmore hgo values k
      rw [hrun, Run.exec_bind_of_error hr]
      rfl
  | exhausted h hlength hne =>
      have hrun := h.exec_unbounded hne 0 values k
      rw [Nat.add_zero, hlength] at hrun
      rw [further, hrun]
      rfl

/-- The optional rounds come to an end in one of these ways. -/
theorem exists_ends (a : LedgerAction) (src : Text) (rounds : Nat)
    (extra : Option Nat) (s : Store) (pos : Nat) :
    ∃ o u, Ends a src rounds s pos extra (o, u) := by
  cases extra with
  | some n =>
      obtain ⟨ms, l, i, t, h, -, rfl | ⟨hlt, hend⟩⟩ :=
        exists_matches a src (fun _ => True) n s pos
      · exact ⟨_, _, .full h⟩
      · have hmore : ∀ n', some n = some n' → ms.length < n' := by
          rintro _ ⟨⟩
          exact hlt
        rcases hr : (a src i).exec t with ⟨e | ⟨_ | ⟨j, v⟩, k⟩, u⟩
        · exact ⟨_, _, .broken h hmore nofun hr⟩
        · exact ⟨_, _, .refused h hmore nofun hr⟩
        · exact absurd trivial (hend j v k u hr)
  | none =>
      obtain ⟨ms, l, i, t, h, hne, hlength | ⟨hlt, hend⟩⟩ :=
        exists_matches a src (fun m => m.start ≠ m.stop) rounds s pos
      · exact ⟨_, _, .exhausted h hlength hne⟩
      · rcases hr : (a src i).exec t with ⟨e | ⟨_ | ⟨j, v⟩, k⟩, u⟩
        · exact ⟨_, _, .broken h nofun (fun _ => ⟨hlt, hne⟩) hr⟩
        · exact ⟨_, _, .refused h nofun (fun _ => ⟨hlt, hne⟩) hr⟩
        · obtain rfl : i = j := not_not.mp (hend j v k u hr)
          exact ⟨_, _, .idle h hlt hne hr⟩

/-! ### The course of a repetition -/

/-- What a whole repetition comes to. -/
inductive Course (a : LedgerAction) (src : Text) (rounds least : Nat)
    (extra : Option Nat) (s : Store) (pos : Nat) : Except Stop Attempt × Store → Prop
  /-- A required round does not match. -/
  | missed {t u : Store} {i : Nat} {ms : List Match} {l k : Ledger}
      (h : Matches a src s pos ms l i t) (hlt : ms.length < least)
      (hr : (a src i).exec t = (.ok ⟨none, k⟩, u)) :
      Course a src rounds least extra s pos (.ok ⟨none, l ++ k⟩, u)
  /-- A required round is broken off. -/
  | broken {t u : Store} {i : Nat} {ms : List Match} {l : Ledger} {e : Stop}
      (h : Matches a src s pos ms l i t) (hlt : ms.length < least)
      (hr : (a src i).exec t = (.error e, u)) :
      Course a src rounds least extra s pos (.error e, u)
  /-- All required rounds match, and the optional ones come to an end. -/
  | ended {t u : Store} {j : Nat} {ms : List Match} {l : Ledger}
      {o : Except Stop (List Match × Ledger × Nat)} (h : Matches a src s pos ms l j t)
      (hlength : ms.length = least) (hends : Ends a src rounds t j extra (o, u)) :
      Course a src rounds least extra s pos
        (o.map fun r => ⟨some (r.2.2, .list ((ms ++ r.1).map Match.value)), l ++ r.2.1⟩, u)

/-- The loop does what a repetition comes to. -/
theorem Course.exec_repeated {least : Nat} {extra : Option Nat}
    {r : Except Stop Attempt × Store} (h : Course a src rounds least extra s pos r) :
    (repeated a rounds least extra src pos).exec s = r := by
  cases h with
  | @missed _ _ _ ms _ _ h hlt hr =>
      obtain ⟨m, rfl⟩ : ∃ m, least = ms.length + (m + 1) := ⟨least - ms.length - 1, by omega⟩
      rw [repeated, h.exec_required, required, Run.exec_bind_of_ok hr]
      rfl
  | @broken _ _ _ ms _ _ h hlt hr =>
      obtain ⟨m, rfl⟩ : ∃ m, least = ms.length + (m + 1) := ⟨least - ms.length - 1, by omega⟩
      rw [repeated, h.exec_required, required, Run.exec_bind_of_error hr]
  | ended h hlength hends =>
      have hrun := h.exec_required (further a rounds extra src) 0 [] []
      rw [Nat.add_zero, hlength] at hrun
      rw [repeated, hrun, required, hends.exec_further]
      simp

/-- **Every repetition takes one of these courses.** -/
theorem repeated_course (a : LedgerAction) (src : Text) (rounds least : Nat)
    (extra : Option Nat) (s : Store) (pos : Nat) :
    Course a src rounds least extra s pos
      ((repeated a rounds least extra src pos).exec s) := by
  suffices h : ∃ r, Course a src rounds least extra s pos r by
    obtain ⟨r, h⟩ := h
    rwa [h.exec_repeated]
  obtain ⟨ms, l, i, t, h, -, hlength | ⟨hlt, hend⟩⟩ :=
    exists_matches a src (fun _ => True) least s pos
  · obtain ⟨o, u, hends⟩ := exists_ends a src rounds extra t i
    exact ⟨_, .ended h hlength hends⟩
  · rcases hr : (a src i).exec t with ⟨e | ⟨_ | ⟨j, v⟩, k⟩, u⟩
    · exact ⟨_, .broken h hlt hr⟩
    · exact ⟨_, .missed h hlt hr⟩
    · exact absurd trivial (hend j v k u hr)

/-- **A repetition is broken off** by a round, behind required rounds and optional ones that
all match, or because there are as many optional rounds as the limit allows. -/
theorem Course.exists_broken {least : Nat} {extra : Option Nat} {e : Stop}
    (h : Course a src rounds least extra s pos (.error e, u)) :
    ∃ ms l j t ns k i u, Matches a src s pos ms l j t ∧ Matches a src t j ns k i u
      ∧ ms.length ≤ least ∧ (∀ n, extra = some n → ns.length ≤ n)
      ∧ (extra = none → ∀ m ∈ ns, m.start ≠ m.stop)
      ∧ ((a src i).outcome u = .error e ∨ e = .exhausted ∧ extra = none
        ∧ ns.length = rounds) := by
  generalize hr : (Except.error e, u) = r at h
  cases h with
  | missed => cases hr
  | @broken t u i ms l e h hlt hexec =>
      cases hr
      exact ⟨ms, l, i, t, [], [], i, t, h, .nil t i, hlt.le, fun _ _ => Nat.zero_le _,
        fun _ => List.forall_mem_nil _, .inl (congrArg Prod.fst hexec)⟩
  | @ended t u j ms l o h hlength hends =>
      cases hends with
      | full | refused | idle => cases hr
      | @broken _ t' _ i ns k e h' hmore hgo hexec =>
          cases hr
          exact ⟨ms, l, j, t, ns, k, i, t', h, h', hlength.le, fun n hn => (hmore n hn).le,
            fun hn => (hgo hn).2, .inl (congrArg Prod.fst hexec)⟩
      | @exhausted _ i ns k h' hlength' hne =>
          cases hr
          exact ⟨ms, l, j, t, ns, k, i, _, h, h', hlength.le, nofun, fun _ => hne,
            .inr ⟨rfl, rfl, hlength'⟩⟩

end LedgerAction

/-! ### Tiles -/

namespace Match

variable {m : Match} {ms ns : List Match} {pos index : Nat}

/-- Matches tile a text from an offset to an index: the first one starts at the offset, each
other one where the one before it ends, none ends before its own start, and the last one
ends at the index. -/
def Tile : Nat → List Match → Nat → Prop
  | pos, [], index => pos = index
  | pos, m :: ms, index => m.start = pos ∧ pos ≤ m.stop ∧ Tile m.stop ms index

theorem Tile.le (h : Tile pos ms index) : pos ≤ index := by
  induction ms generalizing pos with
  | nil => exact h.le
  | cons m ms ih =>
      obtain ⟨-, hle, h⟩ := h
      exact hle.trans (ih h)

theorem tile_append : Tile pos (ms ++ ns) index ↔ ∃ i, Tile pos ms i ∧ Tile i ns index := by
  induction ms generalizing pos with
  | nil => simp [Tile]
  | cons m ms ih => simp [Tile, ih, and_assoc]

/-- Each of the matches that do not match the empty text takes a character. -/
theorem Tile.length_le (h : Tile pos ms index) (hne : ∀ m ∈ ms, m.start ≠ m.stop) :
    pos + ms.length ≤ index := by
  induction ms generalizing pos with
  | nil => exact h.le
  | cons m ms ih =>
      obtain ⟨rfl, hle, h⟩ := h
      rw [List.forall_mem_cons] at hne
      have hlength := ih h hne.2
      have hstart := hne.1
      rw [List.length_cons]
      omega

/-- A part of a text, and the part behind it. -/
theorem slice_append_slice (src : Text) {i j k : Nat} (hij : i ≤ j) (hjk : j ≤ k) :
    src.slice i j ++ src.slice j k = src.slice i k := by
  obtain ⟨m, rfl⟩ := Nat.exists_eq_add_of_le hij
  obtain ⟨n, rfl⟩ := Nat.exists_eq_add_of_le hjk
  simp only [Text.slice_natCast]
  rw [Nat.add_sub_cancel_left, Nat.add_sub_cancel_left, Nat.add_assoc, Nat.add_sub_cancel_left,
    List.take_add, List.drop_drop]

/-- **Matches that tile a part of a text are that part, joined**, without a gap and without
an overlap. -/
theorem Tile.flatten_slices (src : Text) (h : Tile pos ms index) :
    (ms.map fun m => src.slice m.start m.stop).flatten = src.slice pos index := by
  induction ms generalizing pos with
  | nil =>
      obtain rfl : pos = index := h
      simp [Text.slice]
  | cons m ms ih =>
      obtain ⟨rfl, hle, h⟩ := h
      rw [List.map_cons, List.flatten_cons, ih h, slice_append_slice src hle h.le]

/-- A match whose value has the positions around it. -/
def marked (src : Text) (m : Match) : Match :=
  { m with value := .mark (.ofOffset src m.start) m.value (.ofOffset src m.stop) }

end Match

namespace LedgerAction

/-! ### Marks -/

/-- An action whose values have the positions around the match. -/
def marked (a : LedgerAction) : LedgerAction :=
  fun src pos => Attempt.marked src pos <$> a src pos

variable {a : LedgerAction} {src : Text} {s t u : Store}
  {pos i index rounds : Nat} {l : Ledger} {ms : List Match}

theorem exec_marked {r : Except Stop Attempt} (h : (a src pos).exec s = (r, t)) :
    (a.marked src pos).exec s = (r.map (Attempt.marked src pos), t) := by
  rw [marked, Run.exec_map, Run.outcome, Run.after, h]

theorem Matches.marked (h : Matches a src s pos ms l i t) :
    Matches a.marked src s pos (ms.map (Match.marked src)) l i t := by
  induction h with
  | nil => exact .nil _ _
  | cons h _ ih => exact .cons (exec_marked h) ih

/-- Marks change nothing about where the matches end. -/
theorem forall_marked_start_ne (h : ∀ m ∈ ms, m.start ≠ m.stop) :
    ∀ m ∈ ms.map (Match.marked src), m.start ≠ m.stop := by
  rw [List.forall_mem_map]
  exact h

theorem Ends.marked {extra : Option Nat}
    (h : Ends a src rounds s pos extra (.ok (ms, l, index), u)) :
    Ends a.marked src rounds s pos extra (.ok (ms.map (Match.marked src), l, index), u) := by
  cases h with
  | full h =>
      rw [← List.length_map (Match.marked src)]
      exact .full h.marked
  | refused h hmore hgo hr =>
      refine .refused h.marked ?_ (fun hn => ?_) (exec_marked hr)
      · rwa [List.length_map]
      · rw [List.length_map]
        exact ⟨(hgo hn).1, forall_marked_start_ne (hgo hn).2⟩
  | idle h hlt hne hr =>
      rw [List.map_append]
      exact .idle h.marked (by rwa [List.length_map]) (forall_marked_start_ne hne)
        (exec_marked hr)

end LedgerAction

end Furthest
