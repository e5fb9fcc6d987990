import Furthest.Proofs.CharacterRuns
import Furthest.Proofs.PatternRuns
import Mathlib.Computability.Language

/-!
# Longest Texts of a Language

A pattern takes what its first alternative that leads to the end takes, whether another one
would take more or not. This module has the rules by which what it takes is the longest text
of a language nevertheless. They go from the end of the pattern to its start: what follows
is known to take the longest text of its language, and a node before it puts its own
language in front.

* A character and a run of characters are put in front of whatever follows. A run takes as
  many characters as there are, and it has to be known of what follows that it does not
  start with one of them: then giving back characters of the run is in vain.
* Of two alternatives the first one has to *cover* the second one: where texts of both
  stand, that of the first one is at least as long. This holds where the second one starts
  with none of the characters that the first one starts with, and where it takes nothing at
  all.

## Main definitions

* `Text.Longest`, `Text.Found`: the longest text of a language that a text starts with.
* `Covers`: an alternative that may be tried first.
* `Regex.Takes`: what follows in a match takes the longest text of a language.

## Main results

* `Text.found_one_cons`, `Text.found_runs`, `Text.Found.add_left`, `Text.Found.add_right`:
  the longest text of a language that is put together.
* `Regex.greedily_chars`: a greedy repetition takes all the characters of a set.
* `Regex.Takes.char`, `Regex.Takes.run`, `Regex.Takes.alt`, `Regex.Takes.optional`: **the
  rules for nodes.**
* `Regex.Takes.matchAt?`: **what a pattern matches.**
-/

namespace Furthest

/-! ### Languages -/

/-- The texts of one character of a set. -/
def Charset.one (chars : Text) : Language CodePoint := {w | ∃ c ∈ chars, w = [c]}

/-- The runs of characters of a set, of at least one. -/
def Charset.runs (chars : Text) : Language CodePoint := {w | w ≠ [] ∧ ∀ c ∈ w, c ∈ chars}

/-- All texts of a language start with a character of a set. -/
def LedBy (l : Language CodePoint) (chars : Text) : Prop :=
  ∀ w ∈ l, ∃ c ∈ chars, ∃ v, w = c :: v

/-- No text of a language starts with a character of a set. -/
def Avoids (l : Language CodePoint) (chars : Text) : Prop := ∀ w ∈ l, Text.NotLedBy chars w

/-- Where texts of both languages stand, that of the first one is at least as long. -/
def Covers (m l : Language CodePoint) : Prop :=
  ∀ t w v, w ∈ m → v ∈ l → w <+: t → v <+: t → v.length ≤ w.length

section

variable {l l' m : Language CodePoint} {chars chars' t w : Text} {c : CodePoint}

theorem mem_one_mul : t ∈ Charset.one chars * l ↔ ∃ c ∈ chars, ∃ v ∈ l, t = c :: v := by
  rw [Language.mem_mul]
  constructor
  · rintro ⟨_, ⟨c, hc, rfl⟩, v, hv, rfl⟩
    exact ⟨c, hc, v, hv, rfl⟩
  · rintro ⟨c, hc, v, hv, rfl⟩
    exact ⟨[c], ⟨c, hc, rfl⟩, v, hv, rfl⟩

theorem mem_runs_mul :
    t ∈ Charset.runs chars * l
      ↔ ∃ d ≠ [], (∀ c ∈ d, c ∈ chars) ∧ ∃ v ∈ l, t = d ++ v := by
  rw [Language.mem_mul]
  constructor
  · rintro ⟨d, ⟨hne, hd⟩, v, hv, rfl⟩
    exact ⟨d, hne, hd, v, hv, rfl⟩
  · rintro ⟨d, hne, hd, v, hv, rfl⟩
    exact ⟨d, ⟨hne, hd⟩, v, hv, rfl⟩

theorem ledBy_one : LedBy (Charset.one chars) chars := by
  rintro w ⟨c, hc, rfl⟩
  exact ⟨c, hc, [], rfl⟩

theorem ledBy_runs : LedBy (Charset.runs chars) chars := by
  rintro w ⟨hne, hw⟩
  obtain ⟨c, w, rfl⟩ := List.exists_cons_of_ne_nil hne
  exact ⟨c, hw c List.mem_cons_self, w, rfl⟩

/-- What a text starts with does not depend on what follows. -/
theorem LedBy.mul (h : LedBy m chars) : LedBy (m * l) chars := by
  rintro _ ⟨w, hw, v, -, rfl⟩
  obtain ⟨c, hc, w, rfl⟩ := h w hw
  exact ⟨c, hc, w ++ v, rfl⟩

/-- A language whose texts start with the characters of a set starts with none of those of
another. -/
theorem LedBy.avoids (h : LedBy l chars) (hdisjoint : ∀ c ∈ chars, c ∉ chars') :
    Avoids l chars' := by
  intro w hw
  obtain ⟨c, hc, v, rfl⟩ := h w hw
  exact Text.notLedBy_cons (hdisjoint c hc)

theorem avoids_one : Avoids 1 chars := by
  intro w hw
  rw [(Language.mem_one w).mp hw]
  exact Text.notLedBy_nil chars

theorem Avoids.add (h : Avoids l chars) (h' : Avoids l' chars) : Avoids (l + l') chars := by
  rintro w (hw | hw)
  · exact h w hw
  · exact h' w hw

/-- An alternative covers what starts with none of its characters. -/
theorem LedBy.covers (h : LedBy m chars) (h' : Avoids l chars) : Covers m l := by
  intro t w v hw hv hwt hvt
  obtain ⟨c, hc, w, rfl⟩ := h w hw
  cases v with
  | nil => exact Nat.zero_le _
  | cons d v =>
      obtain ⟨t, rfl⟩ := hwt
      have hdc : d = c := (List.cons_prefix_cons.mp hvt).1
      exact absurd hc (h' _ hv c (by rw [hdc]; rfl))

theorem Covers.add (h : Covers m l) (h' : Covers m l') : Covers m (l + l') := by
  rintro t w v hw (hv | hv) hwt hvt
  · exact h t w v hw hv hwt hvt
  · exact h' t w v hw hv hwt hvt

/-- One character in front of both alternatives changes nothing. -/
theorem Covers.one_mul (h : Covers m l) :
    Covers (Charset.one chars * m) (Charset.one chars' * l) := by
  intro t w v hw hv hwt hvt
  obtain ⟨c, -, w, hw', rfl⟩ := mem_one_mul.mp hw
  obtain ⟨d, -, v, hv', rfl⟩ := mem_one_mul.mp hv
  cases t with
  | nil => exact absurd (List.prefix_nil.mp hwt) (List.cons_ne_nil c w)
  | cons e t =>
      have hle := h t w v hw' hv' (List.cons_prefix_cons.mp hwt).2
        (List.cons_prefix_cons.mp hvt).2
      exact Nat.succ_le_succ hle

end

/-! ### The longest text -/

namespace Text

variable {l l' m : Language CodePoint} {chars t w d rest : Text} {c : CodePoint}
  {o o' : Option Text}

/-- A text starts with a text of a language and with no longer one. -/
structure Longest (l : Language CodePoint) (t w : Text) : Prop where
  /-- It belongs to the language. -/
  mem : w ∈ l
  /-- The text starts with it. -/
  start : w <+: t
  /-- No other one is longer. -/
  longest : ∀ v ∈ l, v <+: t → v.length ≤ w.length

/-- The longest text of a language that a text starts with, or none if there is none. -/
def Found (l : Language CodePoint) (t : Text) : Option Text → Prop
  | some w => Longest l t w
  | none => ∀ w ∈ l, ¬ w <+: t

theorem Longest.unique {v : Text} (h : Longest l t w) (h' : Longest l t v) : w = v := by
  have hlength := Nat.le_antisymm (h'.longest w h.mem h.start) (h.longest v h'.mem h'.start)
  exact (List.prefix_of_prefix_length_le h.start h'.start hlength.le).eq_of_length hlength

/-- What is found is determined. -/
theorem Found.unique (h : Found l t o) (h' : Found l t o') : o = o' := by
  match o, o' with
  | some w, some v => rw [Longest.unique h h']
  | some w, none => exact absurd h.start (h' w h.mem)
  | none, some v => exact absurd h'.start (h v h'.mem)
  | none, none => rfl

/-- Where nothing more is asked for, the empty text is found. -/
theorem found_nil (t : Text) : Found 1 t (some []) where
  mem := (Language.mem_one []).mpr rfl
  start := List.nil_prefix
  longest v hv _ := by rw [(Language.mem_one v).mp hv]

/-- A text that starts with none of the first characters has nothing. -/
theorem found_none (h : LedBy l chars) (ht : NotLedBy chars t) : Found l t none := by
  intro w hw hwt
  obtain ⟨c, hc, v, rfl⟩ := h w hw
  obtain ⟨t, rfl⟩ := hwt
  exact ht c rfl hc

/-- A character in front. -/
theorem found_one_cons (hc : c ∈ chars) (h : Found l t o) :
    Found (Charset.one chars * l) (c :: t) (o.map (c :: ·)) := by
  cases o with
  | none =>
      intro v hv hvt
      obtain ⟨d, -, v, hv', rfl⟩ := mem_one_mul.mp hv
      exact h v hv' (List.cons_prefix_cons.mp hvt).2
  | some w =>
      refine ⟨mem_one_mul.mpr ⟨c, hc, w, h.mem, rfl⟩,
        List.cons_prefix_cons.mpr ⟨rfl, h.start⟩, ?_⟩
      intro v hv hvt
      obtain ⟨d, -, v, hv', rfl⟩ := mem_one_mul.mp hv
      exact Nat.succ_le_succ (h.longest v hv' (List.cons_prefix_cons.mp hvt).2)

/-- A run that is cut short is followed by one of its own characters, and so by no text of a
language without them but the empty one. -/
theorem prefix_of_runs {e v : Text} (he : ∀ c ∈ e, c ∈ chars) (hv : NotLedBy chars v)
    (hd : ∀ c ∈ d, c ∈ chars) (hrest : NotLedBy chars rest) (h : e ++ v <+: d ++ rest) :
    v <+: rest ∧ e.length ≤ d.length := by
  induction e generalizing d with
  | nil =>
      refine ⟨?_, Nat.zero_le _⟩
      cases d with
      | nil => exact h
      | cons c d =>
          cases v with
          | nil => exact List.nil_prefix
          | cons b v =>
              have hbc : b = c := (List.cons_prefix_cons.mp h).1
              rw [List.forall_mem_cons] at hd
              exact absurd hd.1 (hv c (by rw [hbc]; rfl))
  | cons b e ih =>
      rw [List.forall_mem_cons] at he
      cases d with
      | nil =>
          obtain ⟨t, ht⟩ := h
          have hhead : rest.head? = some b := by
            rw [← List.nil_append rest, ← ht]
            rfl
          exact absurd he.1 (hrest b hhead)
      | cons c d =>
          rw [List.forall_mem_cons] at hd
          obtain ⟨hstart, hle⟩ := ih he.2 hd.2 (List.cons_prefix_cons.mp h).2
          exact ⟨hstart, Nat.succ_le_succ hle⟩

/-- A run in front of a language that does not start with its characters. -/
theorem found_runs (hne : d ≠ []) (hd : ∀ c ∈ d, c ∈ chars) (hrest : NotLedBy chars rest)
    (hl : Avoids l chars) (h : Found l rest o) :
    Found (Charset.runs chars * l) (d ++ rest) (o.map (d ++ ·)) := by
  cases o with
  | none =>
      intro v hv hvt
      obtain ⟨e, -, he, v, hv', rfl⟩ := mem_runs_mul.mp hv
      exact h v hv' (prefix_of_runs he (hl v hv') hd hrest hvt).1
  | some w =>
      refine ⟨mem_runs_mul.mpr ⟨d, hne, hd, w, h.mem, rfl⟩,
        (List.prefix_append_right_inj d).mpr h.start, ?_⟩
      intro v hv hvt
      obtain ⟨e, -, he, v, hv', rfl⟩ := mem_runs_mul.mp hv
      obtain ⟨hstart, hle⟩ := prefix_of_runs he (hl v hv') hd hrest hvt
      have hlongest := h.longest v hv' hstart
      rw [List.length_append, List.length_append]
      omega

/-- What the first alternative finds is the longest. -/
theorem Found.add_left (h : Found m t (some w)) (hcovers : Covers m l) :
    Found (m + l) t (some w) where
  mem := .inl h.mem
  start := h.start
  longest := by
    rintro v (hv | hv) hvt
    · exact h.longest v hv hvt
    · exact hcovers t w v h.mem hv h.start hvt

/-- Where the first alternative finds nothing, the second one decides. -/
theorem Found.add_right (h : Found m t none) (h' : Found l t o) : Found (m + l) t o := by
  cases o with
  | none =>
      rintro v (hv | hv)
      · exact h v hv
      · exact h' v hv
  | some w =>
      refine ⟨.inr h'.mem, h'.start, ?_⟩
      rintro v (hv | hv) hvt
      · exact absurd hvt (h v hv)
      · exact h'.longest v hv hvt

end Text

/-! ### Nodes -/

namespace Regex

section

variable {src rest w : Text} {set : CharSet} {pos : Nat}

/-- **A greedy repetition takes all the characters of a set**, if nothing that comes behind
it asks for one of them back: where that does not match behind them all, it does not match
before any of them. -/
theorem greedily_chars (h : src.RestAt pos (w ++ rest)) (hw : ∀ c ∈ w, set.holds c = true)
    (hrest : ∀ c, rest.head? = some c → set.holds c = false) {fuel : Nat}
    (hfuel : w.length < fuel) {last : Option Nat} (hlast : last ≠ some pos)
    {groups : List (Option (Nat × Nat))} {k : State → Option State}
    (hk : k ⟨pos + w.length, groups⟩ = none → ∀ i < w.length, k ⟨pos + i, groups⟩ = none) :
    greedily ((Node.chars set).step src) fuel none last ⟨pos, groups⟩ k
      = k ⟨pos + w.length, groups⟩ := by
  induction w generalizing pos fuel last with
  | nil =>
      obtain ⟨fuel, rfl⟩ := Nat.exists_eq_succ_of_ne_zero (Nat.ne_zero_of_lt hfuel)
      have hgo : ¬ ((none : Option Nat) = some 0 ∨ last = some pos) := by simp [hlast]
      simp only [greedily, if_neg hgo, step_chars_none h hrest]
      rfl
  | cons c w ih =>
      obtain ⟨fuel, rfl⟩ := Nat.exists_eq_succ_of_ne_zero (Nat.ne_zero_of_lt hfuel)
      have hgo : ¬ ((none : Option Nat) = some 0 ∨ last = some pos) := by simp [hlast]
      have hlength : pos + (c :: w).length = pos + 1 + w.length := by
        rw [List.length_cons]
        omega
      rw [List.forall_mem_cons] at hw
      rw [hlength, List.length_cons] at hk
      rw [List.length_cons] at hfuel
      have hnext : some pos ≠ some (pos + 1) := by simp
      have htail := ih h.next hw.2 (Nat.lt_of_succ_lt_succ hfuel) hnext fun hnone i hi => by
        rw [Nat.add_assoc, Nat.add_comm 1]
        exact hk hnone (i + 1) (by omega)
      simp only [greedily, if_neg hgo, step_chars_cons h, if_pos hw.1,
        Option.map_none, htail, hlength]
      -- the rounds end behind all the characters, and only where nothing follows is one
      -- given back
      split
      · next hsome => exact hsome.symm
      · next hnone => rw [hnone, ← Nat.add_zero pos, hk hnone 0 (by omega)]

end

/-- What follows in a match takes the longest text of a language that stands at an offset.
It ends behind that text, and where none stands there is no match. -/
def Takes (src : Text) (k : State → Option State) (l : Language CodePoint) : Prop :=
  ∀ pos rest groups, src.RestAt pos rest →
    ∃ o, Text.Found l rest o ∧ k ⟨pos, groups⟩ = o.map fun w => ⟨pos + w.length, groups⟩

namespace Takes

variable {src chars : Text} {set : CharSet} {k k' : State → Option State}
  {l m : Language CodePoint} {first second body : Node}

/-- At the end of the pattern nothing more is asked for. -/
theorem done (src : Text) : Takes src some 1 :=
  fun _ rest _ _ => ⟨some [], Text.found_nil rest, rfl⟩

/-- What is put in front of a text moves the offset at which the text starts. -/
theorem map_ends {f : Text → Text} {pos start : Nat} (o : Option Text)
    (hf : ∀ w, start + w.length = pos + (f w).length) (groups : List (Option (Nat × Nat))) :
    o.map (fun w => (⟨start + w.length, groups⟩ : State))
      = (o.map f).map fun w => ⟨pos + w.length, groups⟩ := by
  rw [Option.map_map]
  congr 1
  funext w
  simp only [Function.comp_apply, hf w]

/-- A character of a set, and what follows. -/
theorem char (hset : ∀ c, set.holds c = decide (c ∈ chars)) (hk : Takes src k l) :
    Takes src (fun st => (Node.chars set).step src st k) (Charset.one chars * l) := by
  intro pos rest groups h
  cases rest with
  | nil => exact ⟨none, Text.found_none ledBy_one.mul (Text.notLedBy_nil _),
      step_chars_nil h groups k⟩
  | cons c rest =>
      simp only [step_chars_cons h]
      by_cases hc : c ∈ chars
      · obtain ⟨o, hfound, hsome⟩ := hk (pos + 1) rest groups h.next
        refine ⟨o.map (c :: ·), Text.found_one_cons hc hfound, ?_⟩
        rw [hset, decide_eq_true hc, if_pos rfl, hsome]
        refine map_ends o (fun w => ?_) groups
        rw [List.length_cons]
        omega
      · refine ⟨none, Text.found_none ledBy_one.mul (Text.notLedBy_cons hc), ?_⟩
        rw [hset, decide_eq_false hc, if_neg Bool.false_ne_true]
        rfl

/-- What does not match behind a run, and does not start with one of its characters, does
not match before any character of the run either. -/
theorem none_before {d rest : Text} {pos : Nat} (hk : Takes src k l) (hl : Avoids l chars)
    (h : src.RestAt pos (d ++ rest)) (hd : ∀ c ∈ d, c ∈ chars)
    (groups : List (Option (Nat × Nat))) (hnone : k ⟨pos + d.length, groups⟩ = none) :
    ∀ i < d.length, k ⟨pos + i, groups⟩ = none := by
  intro i hi
  obtain ⟨e, c, f, rfl, rfl⟩ : ∃ e c f, d = e ++ c :: f ∧ e.length = i :=
    ⟨d.take i, d[i], d.drop (i + 1), by
      rw [List.cons_getElem_drop_succ, List.take_append_drop],
      List.length_take_of_le hi.le⟩
  have hempty : [] ∉ l := by
    obtain ⟨o, hfound, hsome⟩ := hk _ rest groups h.advance
    rw [hnone, eq_comm, Option.map_eq_none_iff] at hsome
    subst hsome
    exact fun hmem => hfound [] hmem List.nil_prefix
  rw [List.append_assoc] at h
  obtain ⟨o, hfound, hsome⟩ := hk _ _ groups h.advance
  cases o with
  | none => exact hsome
  | some w =>
      cases w with
      | nil => exact absurd hfound.mem hempty
      | cons b w =>
          have hbc : b = c := (List.cons_prefix_cons.mp hfound.start).1
          have hc : c ∈ chars := hd c (List.mem_append_right e List.mem_cons_self)
          exact absurd hc (hl _ hfound.mem c (by rw [hbc]; rfl))

/-- A run of characters of a set, and what follows. -/
theorem run (hset : ∀ c, set.holds c = decide (c ∈ chars)) (hk : Takes src k l)
    (hl : Avoids l chars) :
    Takes src (fun st => (Node.repeated .greedy 1 none (.chars set)).step src st k)
      (Charset.runs chars * l) := by
  intro pos rest groups h
  obtain ⟨d, rest, rfl, hd, hrest⟩ := Text.exists_notLedBy chars rest
  have hend : ∀ b, rest.head? = some b → set.holds b = false := fun b hb => by
    rw [hset, decide_eq_false (hrest b hb)]
  have hstep : (Node.repeated .greedy 1 none (.chars set)).step src ⟨pos, groups⟩ k
      = (Node.chars set).step src ⟨pos, groups⟩ fun st =>
          greedily ((Node.chars set).step src) (src.length + 2) none none st k := rfl
  simp only [hstep]
  cases d with
  | nil => exact ⟨none, Text.found_none ledBy_runs.mul hrest, step_chars_none h hend groups _⟩
  | cons c d =>
      rw [List.forall_mem_cons] at hd
      have hholds : ∀ b ∈ d, set.holds b = true := fun b hb => by
        rw [hset, decide_eq_true (hd.2 b hb)]
      have hfuel : d.length < src.length + 2 := by
        have hlength := h.length_eq
        rw [List.length_append, List.length_cons] at hlength
        omega
      -- the run takes all the characters that stand here, whether what follows matches
      -- behind them or not
      have hrun := greedily_chars h.next hholds hend hfuel (Option.some_ne_none _).symm
        (none_before hk hl h.next hd.2 groups)
      obtain ⟨o, hfound, hsome⟩ := hk _ rest groups h.next.advance
      refine ⟨o.map (c :: d ++ ·), Text.found_runs (List.cons_ne_nil c d)
        (List.forall_mem_cons.mpr hd) hrest hl hfound, ?_⟩
      rw [step_chars_cons h, hset, decide_eq_true hd.1, if_pos rfl, hrun, hsome]
      refine map_ends o (fun w => ?_) groups
      rw [List.length_append, List.length_cons]
      omega

/-- The first of two continuations that leads to the end. -/
theorem orElse (hk : Takes src k m) (hk' : Takes src k' l) (hcovers : Covers m l) :
    Takes src (fun st => match k st with | some r => some r | none => k' st) (m + l) := by
  intro pos rest groups h
  obtain ⟨o, hfound, hsome⟩ := hk pos rest groups h
  simp only [hsome]
  cases o with
  | some w => exact ⟨some w, hfound.add_left hcovers, rfl⟩
  | none =>
      obtain ⟨o, hfound', hsome'⟩ := hk' pos rest groups h
      exact ⟨o, hfound.add_right hfound', hsome'⟩

/-- One of two nodes, and what follows. -/
theorem alt (hfirst : Takes src (fun st => first.step src st k) m)
    (hsecond : Takes src (fun st => second.step src st k) l) (hcovers : Covers m l) :
    Takes src (fun st => (Node.alt first second).step src st k) (m + l) :=
  orElse hfirst hsecond hcovers

/-- A node that may be left out, and what follows. -/
theorem optional (hbody : Takes src (fun st => body.step src st k) m) (hk : Takes src k l)
    (hcovers : Covers m l) :
    Takes src (fun st => (Node.repeated .greedy 0 (some 1) body).step src st k) (m + l) :=
  orElse hbody hk hcovers

/-- **A pattern matches the longest text of its language**, or none if none stands at the
offset. -/
theorem matchAt? {p : Pattern} {rest : Text} {pos : Nat}
    (hk : Takes src (fun st => p.node.step src st some) l)
    (hp : p.showsTrail = false) (h : src.RestAt pos rest)
    (hsrc : src.length < Text.offsetLimit) :
    ∃ o, Text.Found l rest o
      ∧ p.matchAt? src pos 0 = .ok (o.map fun w => (pos + w.length, w)) := by
  obtain ⟨o, hfound, hsome⟩ := hk pos rest (List.replicate (p.groups + 1) none) h
  have hmatch : p.node.match? src p.groups pos = _ := hsome
  refine ⟨o, hfound, ?_⟩
  rw [Pattern.matchAt?_eq hp h hsrc, hmatch]
  cases o with
  | none => rfl
  | some w =>
      obtain ⟨t, rfl⟩ := hfound.start
      have hspan : Pattern.span src pos (pos + w.length) = w := by
        rw [Pattern.span, h.drop, Nat.add_sub_cancel_left, List.take_left]
      rw [Option.map_some, Option.map_some, Option.map_some, hspan]

end Takes

end Regex

end Furthest
