import Furthest.Proofs.Ledger

/-!
# Outcomes of Runs

What a particular grammar does with a text is put together from what its parts do. This
module holds the rules for that: `S.Settles p pos o` says that the parser `p`, run at an
offset, has the outcome `o`, which is a match with its index and its value, or a failure. A
`Setting` fixes the text, the limits, and a property of stores that such a run keeps.

Outcomes leave out what failed on the way, with one exception that the rules need: failures
are those of a ledger, whose labels are texts, so that merging them raises no fault. Where a
rule asks for the outcomes of several parts, these are listed by `Setting.Row` for a
sequence and by `Setting.Rounds` for a repetition.

## Main results

* `Setting.Settles.seq`, `Setting.Settles.alternatives`, `Setting.Settles.many` and others:
  the rules.
* `Setting.Settles.exec_parse`: a match up to the end is the outcome of a parse.
-/

namespace Furthest

/-! ### What is left of a text -/

/-- What is left of a text at an offset. -/
structure Text.RestAt (src : Text) (pos : Nat) (rest : Text) : Prop where
  /-- The offset is not behind the end. -/
  le : pos ≤ src.length
  /-- The text from the offset on. -/
  drop : src.drop pos = rest

namespace Text.RestAt

variable {src rest w : Text} {pos : Nat} {c : CodePoint}

theorem of_le (h : pos ≤ src.length) : src.RestAt pos (src.drop pos) := ⟨h, rfl⟩

/-- At the start, all is left. -/
theorem start (src : Text) : src.RestAt 0 src := ⟨Nat.zero_le _, rfl⟩

theorem length_eq (h : src.RestAt pos rest) : pos + rest.length = src.length := by
  have hle := h.le
  rw [← h.drop, List.length_drop]
  omega

/-- If a character is left, the offset lies before the end. -/
theorem lt_length (h : src.RestAt pos (c :: rest)) : pos < src.length := by
  have hlen := h.length_eq
  rw [List.length_cons] at hlen
  omega

theorem not_lt_length (h : src.RestAt pos []) : ¬ pos < src.length := by
  have hlen := h.length_eq
  rw [List.length_nil] at hlen
  omega

/-- Behind a part of what is left. -/
theorem advance (h : src.RestAt pos (w ++ rest)) : src.RestAt (pos + w.length) rest := by
  refine ⟨?_, ?_⟩
  · have hlen := h.length_eq
    rw [List.length_append] at hlen
    omega
  · rw [← List.drop_drop, h.drop, List.drop_left]

/-- Behind a character. -/
theorem next (h : src.RestAt pos (c :: rest)) : src.RestAt (pos + 1) rest :=
  advance (w := [c]) h

/-- Behind all that is left. -/
theorem finish (h : src.RestAt pos rest) : src.RestAt (pos + rest.length) [] := by
  rw [← List.append_nil rest] at h
  exact h.advance

/-- A text stands at the offset if what is left starts with it. -/
theorem standsAt_eq (h : src.RestAt pos rest) (part : Text) :
    src.standsAt part pos = part.isPrefixOf rest := by
  rw [standsAt, sliceFrom, bound_natCast, Nat.min_eq_left h.le, h.drop,
    decide_eq_true (Int.ofNat_le.mpr h.le), Bool.true_and]

/-- The part of the text between two offsets is what is left at the first one, up to the
second one. -/
theorem slice_eq (h : src.RestAt pos (w ++ rest)) :
    src.slice pos (pos + w.length : Nat) = w := by
  rw [slice_natCast, h.drop, Nat.add_sub_cancel_left, List.take_left]

/-- The character at the offset is the first one that is left. -/
theorem lookUp_eq (h : src.RestAt pos (c :: rest)) : src.lookUp pos = .ok c := by
  have hget : src[pos]? = some c := by
    rw [← List.head?_drop, h.drop]
    rfl
  rw [lookUp, charAt?, if_pos (Int.natCast_nonneg pos), Int.toNat_natCast, hget]

end Text.RestAt

/-- Another text of the same length does not stand here. -/
theorem Text.not_prefix_append {t w : Text} (rest : Text) (hlength : t.length = w.length)
    (hne : t ≠ w) : ¬ t <+: w ++ rest := by
  intro h
  exact hne ((List.prefix_of_prefix_length_le h (List.prefix_append w rest)
    hlength.le).eq_of_length hlength)

/-! ### Leaves -/

namespace Action

variable {src rest t : Text} {pos : Nat} {c : CodePoint}

theorem literal_eq (h : src.RestAt pos (t ++ rest)) :
    literal t src pos = pure (.matched (pos + t.length : Nat) (.text t)) := by
  have hs : src.standsAt t pos = true := by
    rw [h.standsAt_eq, List.isPrefixOf_iff_prefix]
    exact List.prefix_append t rest
  simp only [literal, ofReply, if_pos hs]
  rfl

theorem literal_eq_mismatch (h : src.RestAt pos rest) (ht : ¬ t <+: rest) :
    literal t src pos = pure (.mismatch pos (.text ("'" ++ t ++ "'"))) := by
  have hs : ¬ src.standsAt t pos = true := by
    rwa [h.standsAt_eq, List.isPrefixOf_iff_prefix]
  simp only [literal, ofReply, if_neg hs]

theorem regex_eq {pattern : Regex.Pattern} {group stop : Nat}
    (h : pattern.matchAt? src pos group = .ok (some (stop, t))) :
    regex pattern group src pos = pure (.matched stop (.text t)) := by
  simp only [regex, h]
  rfl

theorem regex_eq_mismatch {pattern : Regex.Pattern} {group : Nat}
    (h : pattern.matchAt? src pos group = .ok none) :
    regex pattern group src pos = pure (.mismatch pos (.text pattern.label)) := by
  simp only [regex, h]
  rfl

/-- The test of the first character that is left. -/
theorem charTest_eq (h : src.RestAt pos (c :: rest)) (label : Text)
    (test : CodePoint → Effect Bool) :
    charTest label test src pos = (do
      if ← Run.perform (test c) then return .matched (pos + 1 : Nat) (.char c)
      else return .mismatch pos (.text label)) := by
  rw [charTest, if_pos (Int.ofNat_lt.mpr h.lt_length), charAt, h.lookUp_eq,
    Run.ofExcept, pure_bind]
  rfl

/-- At the end there is no character to test. -/
theorem charTest_eq_mismatch (h : src.RestAt pos []) (label : Text)
    (test : CodePoint → Effect Bool) :
    charTest label test src pos = pure (.mismatch pos (.text label)) := by
  rw [charTest, if_neg (mt Int.ofNat_lt.mp h.not_lt_length)]

theorem anyChar_eq (h : src.RestAt pos (c :: rest)) :
    anyChar src pos = pure (.matched (pos + 1 : Nat) (.char c)) := by
  rw [anyChar, if_pos (Int.ofNat_lt.mpr h.lt_length), charAt, h.lookUp_eq,
    Run.ofExcept, pure_bind]
  rfl

theorem anyChar_eq_mismatch (h : src.RestAt pos []) :
    anyChar src pos = pure (.mismatch pos (.text "any character")) := by
  rw [anyChar, if_neg (mt Int.ofNat_lt.mp h.not_lt_length)]

theorem eof_eq (h : ¬ pos < src.length) : eof src pos = pure (.matched pos .none) := by
  simp only [eof, ofReply, if_neg (mt Int.ofNat_lt.mp h)]

theorem eof_eq_mismatch (h : pos < src.length) :
    eof src pos = pure (.mismatch pos (.text "EOF")) := by
  simp only [eof, ofReply, if_pos (Int.ofNat_lt.mpr h)]

end Action

/-! ### Outcomes -/

/-- What runs depend on besides the parser and the offset. -/
structure Setting where
  /-- The text. -/
  src : Text
  /-- The limits. -/
  limits : Limits
  /-- A property of the stores in which parsers are run. -/
  inv : Store → Prop

namespace Setting

variable {S : Setting} {p q : Parser} {pos i j : Nat} {v w : Value}
  {o o' : Option (Nat × Value)} {m : Run Reply} {rest : Text}

/-- A computation has an outcome in all stores with the property, and keeps it. -/
def Comes (S : Setting) (m : Run Reply) (o : Option (Nat × Value)) : Prop :=
  ∀ s, S.inv s → ∃ l t, S.inv t ∧ m.exec s = (.ok (Attempt.reply ⟨o, l⟩), t)

/-- A parser has an outcome at an offset: a match that ends at an index, with a value, or a
failure. -/
def Settles (S : Setting) (p : Parser) (pos : Nat) (o : Option (Nat × Value)) : Prop :=
  S.Comes (p.run S.limits S.src pos) o

theorem Comes.reply (o : Option (Nat × Value)) (l : Ledger) :
    S.Comes (pure (Attempt.reply ⟨o, l⟩)) o := fun s hs => ⟨l, s, hs, rfl⟩

theorem Comes.matched (i : Nat) (v : Value) : S.Comes (pure (.matched i v)) (some (i, v)) :=
  .reply (some (i, v)) []

theorem Comes.mismatch (pos : Nat) (label : Text) :
    S.Comes (pure (.mismatch pos (.text label))) none := by
  rw [Reply.mismatch, ← Ledger.record_single]
  exact .reply none [⟨pos, label⟩]

/-- A computation with an outcome, and what comes after it. -/
theorem Comes.bind (h : S.Comes m o) {f : Reply → Run Reply}
    (hf : ∀ l, S.Comes (f (Attempt.reply ⟨o, l⟩)) o') : S.Comes (m >>= f) o' := by
  intro s hs
  obtain ⟨l, t, ht, he⟩ := h s hs
  rw [Run.exec_bind_of_ok he]
  exact hf l t ht

/-- An attempt that is merged onto the reply before it, and what comes after. -/
theorem Comes.attempt (h : S.Comes m o) {last : Option Reply} {l : Ledger}
    (hc : Attempt.Carries last l) {f : Reply → Run Reply}
    (hf : ∀ k, S.Comes (f (Attempt.reply ⟨o, l ++ k⟩)) o') :
    S.Comes (m >>= fun r => Run.merge r last >>= f) o' := by
  refine h.bind fun k => ?_
  have hm : Run.merge (Attempt.reply ⟨o, k⟩) last = pure (Attempt.reply ⟨o, l ++ k⟩) := by
    rw [Run.merge, Attempt.merge_reply hc]
    rfl
  rw [hm, pure_bind]
  exact hf k

namespace Settles

/-! ### Leaves -/

theorem literal {t : Text} (h : S.src.RestAt pos (t ++ rest)) :
    S.Settles (.literal t) pos (some (pos + t.length, .text t)) := by
  have hrun : (Parser.literal t).run S.limits S.src pos = _ := Action.literal_eq h
  rw [Settles, hrun]
  exact .matched _ _

theorem literal_none {t : Text} (h : S.src.RestAt pos rest) (ht : ¬ t <+: rest) :
    S.Settles (.literal t) pos none := by
  have hrun : (Parser.literal t).run S.limits S.src pos = _ := Action.literal_eq_mismatch h ht
  rw [Settles, hrun]
  exact .mismatch _ _

theorem literal_end {t : Text} (h : S.src.RestAt pos []) (ht : t ≠ []) :
    S.Settles (.literal t) pos none :=
  literal_none h fun hp => ht (List.prefix_nil.mp hp)

theorem succeed (v : Value) (pos : Nat) : S.Settles (.succeed v) pos (some (pos, v)) :=
  .matched pos v

/-- A test without effects. -/
theorem charTest {c : CodePoint} (h : S.src.RestAt pos (c :: rest)) (label : Text)
    {test : CodePoint → Bool} (hc : test c = true) :
    S.Settles (.charTest label fun c => pure (test c)) pos (some (pos + 1, .char c)) := by
  have hrun : (Parser.charTest label fun c => pure (test c)).run S.limits S.src pos = _ :=
    Action.charTest_eq h label _
  rw [Settles, hrun, Run.perform_pure, pure_bind, if_pos hc]
  exact .matched _ _

theorem charTest_none (h : S.src.RestAt pos rest) (label : Text) {test : CodePoint → Bool}
    (hc : ∀ c, rest.head? = some c → test c = false) :
    S.Settles (.charTest label fun c => pure (test c)) pos none := by
  have hrun : (Parser.charTest label fun c => pure (test c)).run S.limits S.src pos
      = pure (.mismatch pos (.text label)) := by
    rcases rest with - | ⟨c, rest⟩
    · exact Action.charTest_eq_mismatch h label _
    · have hfalse : ¬ test c = true := by
        rw [hc c rfl]
        exact Bool.false_ne_true
      refine (Action.charTest_eq h label _).trans ?_
      rw [Run.perform_pure, pure_bind, if_neg hfalse]
  rw [Settles, hrun]
  exact .mismatch _ _

theorem anyChar {c : CodePoint} (h : S.src.RestAt pos (c :: rest)) :
    S.Settles .anyChar pos (some (pos + 1, .char c)) := by
  have hrun : Parser.anyChar.run S.limits S.src pos = _ := Action.anyChar_eq h
  rw [Settles, hrun]
  exact .matched _ _

theorem anyChar_none (h : S.src.RestAt pos []) : S.Settles .anyChar pos none := by
  have hrun : Parser.anyChar.run S.limits S.src pos = _ := Action.anyChar_eq_mismatch h
  rw [Settles, hrun]
  exact .mismatch _ _

theorem eof (h : S.src.RestAt pos []) : S.Settles .eof pos (some (pos, .none)) := by
  have hrun : Parser.eof.run S.limits S.src pos = _ := Action.eof_eq h.not_lt_length
  rw [Settles, hrun]
  exact .matched _ _

theorem eof_none {c : CodePoint} (h : S.src.RestAt pos (c :: rest)) :
    S.Settles .eof pos none := by
  have hrun : Parser.eof.run S.limits S.src pos = _ := Action.eof_eq_mismatch h.lt_length
  rw [Settles, hrun]
  exact .mismatch _ _

theorem regex {pattern : Regex.Pattern} {group stop : Nat} {t : Text}
    (h : pattern.matchAt? S.src pos group = .ok (some (stop, t))) :
    S.Settles (.regex pattern group) pos (some (stop, .text t)) := by
  have hrun : (Parser.regex pattern group).run S.limits S.src pos = _ := Action.regex_eq h
  rw [Settles, hrun]
  exact .matched _ _

theorem regex_none {pattern : Regex.Pattern} {group : Nat}
    (h : pattern.matchAt? S.src pos group = .ok none) :
    S.Settles (.regex pattern group) pos none := by
  have hrun : (Parser.regex pattern group).run S.limits S.src pos = _ :=
    Action.regex_eq_mismatch h
  rw [Settles, hrun]
  exact .mismatch _ _

/-! ### One parser -/

/-- A function that neither leaves a note nor raises a fault. -/
theorem map (h : S.Settles p pos (some (i, v))) {f : Value → Effect Value}
    (hf : f v = pure w) :
    S.Settles (p.map f) pos (some (i, w)) := by
  refine Comes.bind h fun l => ?_
  simp only [Attempt.reply]
  rw [hf, Run.perform_pure, pure_bind, Ledger.carried_record]
  exact .reply (some (i, w)) l

theorem map_none (h : S.Settles p pos none) (f : Value → Effect Value) :
    S.Settles (p.map f) pos none := Comes.bind h fun l => .reply none l

theorem desc (h : S.Settles p pos (some (i, v))) (label : Text) :
    S.Settles (p.desc label) pos (some (i, v)) := Comes.bind h fun l => .reply (some (i, v)) l

theorem desc_none (h : S.Settles p pos none) (label : Text) :
    S.Settles (p.desc label) pos none := by
  refine Comes.bind h fun l => ?_
  simp only [Attempt.reply]
  split
  · exact .mismatch pos label
  · exact .reply none l

/-- The parser that is made of the value goes on where the match ends. -/
theorem chain {next : Value → Parser} (h : S.Settles p pos (some (i, v)))
    (hn : S.Settles (next v) i o) :
    S.Settles (p.chain next) pos o := by
  refine Comes.bind h fun l => ?_
  have hcomes := Comes.attempt (f := pure) hn (Attempt.carries_reply ⟨some (i, v), l⟩)
    fun k => .reply o (l ++ k)
  simp only [bind_pure] at hcomes
  exact hcomes

theorem chain_none (h : S.Settles p pos none) (next : Value → Parser) :
    S.Settles (p.chain next) pos none := Comes.bind h fun l => .reply none l

theorem notFollowedBy (h : S.Settles p pos none) (label : Text) :
    S.Settles (.notFollowedBy p (.text label)) pos (some (pos, .none)) :=
  Comes.bind h fun _ => .matched pos .none

theorem notFollowedBy_none (h : S.Settles p pos (some (i, v))) (label : Text) :
    S.Settles (.notFollowedBy p (.text label)) pos none :=
  Comes.bind h fun _ => .mismatch pos label

end Settles

/-! ### Sequences -/

/-- Parsers match one after the other, from an offset to an index, with these values. -/
inductive Row (S : Setting) : List Parser → Nat → List Value → Nat → Prop
  | nil (pos : Nat) : Row S [] pos [] pos
  | cons {p : Parser} {ps : List Parser} {pos i j : Nat} {v : Value} {vs : List Value}
      (h : S.Settles p pos (some (i, v))) (hs : Row S ps i vs j) :
      Row S (p :: ps) pos (v :: vs) j

section

variable {ps qs : List Parser} {vs : List Value} {last : Option Reply} {l : Ledger}

theorem Row.comes_seqFrom (h : S.Row ps pos vs j) (values : List Value)
    (hc : Attempt.Carries last l) :
    S.Comes (Action.seqFrom values last (ps.map fun p => p.run S.limits) S.src pos)
      (some (j, .list (values.reverse ++ vs))) := by
  induction h generalizing values last l with
  | nil pos =>
      rw [List.append_nil, List.map_nil, Action.seqFrom, Attempt.after_reply hc]
      exact .reply _ l
  | @cons p ps pos i j v vs h _ ih =>
      refine Comes.attempt h hc fun k => ?_
      have hvalues : values.reverse ++ v :: vs = (v :: values).reverse ++ vs := by
        rw [List.reverse_cons, List.append_assoc, List.singleton_append]
      rw [hvalues]
      exact ih (v :: values) (Attempt.carries_reply ⟨some (i, v), l ++ k⟩)

theorem Row.comes_seqFrom_none (h : S.Row ps pos vs j) (hp : S.Settles p j none)
    (qs : List Parser) (values : List Value) (hc : Attempt.Carries last l) :
    S.Comes (Action.seqFrom values last
      ((ps ++ p :: qs).map fun p => p.run S.limits) S.src pos)
      none := by
  induction h generalizing values last l with
  | nil pos => exact Comes.attempt hp hc fun k => .reply none (l ++ k)
  | @cons _ _ _ i _ v _ h _ ih =>
      refine Comes.attempt h hc fun k => ?_
      exact ih hp (v :: values) (Attempt.carries_reply ⟨some (i, v), l ++ k⟩)

namespace Settles

/-- A sequence matches if its parsers match in a row. -/
theorem seq (h : S.Row ps pos vs j) : S.Settles (.seq ps) pos (some (j, .list vs)) := by
  rw [Settles, Parser.run, Parser.eval_seq]
  exact h.comes_seqFrom [] (l := []) rfl

/-- A sequence fails if one of its parsers does, behind a row of others. -/
theorem seq_none (h : S.Row ps pos vs j) (hp : S.Settles p j none) (qs : List Parser) :
    S.Settles (.seq (ps ++ p :: qs)) pos none := by
  rw [Settles, Parser.run, Parser.eval_seq]
  exact h.comes_seqFrom_none hp qs [] (l := []) rfl

theorem andThen (hp : S.Settles p pos (some (i, v))) (hq : S.Settles q i (some (j, w))) :
    S.Settles (p.andThen q) pos (some (j, w)) :=
  (seq (.cons hp (.cons hq (.nil j)))).map rfl

theorem andThen_none_left (hp : S.Settles p pos none) (q : Parser) :
    S.Settles (p.andThen q) pos none :=
  (seq_none (.nil pos) hp [q]).map_none _

theorem andThen_none_right (hp : S.Settles p pos (some (i, v))) (hq : S.Settles q i none) :
    S.Settles (p.andThen q) pos none :=
  (seq_none (.cons hp (.nil i)) hq []).map_none _

theorem skip (hp : S.Settles p pos (some (i, v))) (hq : S.Settles q i (some (j, w))) :
    S.Settles (p.skip q) pos (some (j, v)) :=
  (seq (.cons hp (.cons hq (.nil j)))).map rfl

theorem skip_none_left (hp : S.Settles p pos none) (q : Parser) :
    S.Settles (p.skip q) pos none :=
  (seq_none (.nil pos) hp [q]).map_none _

theorem skip_none_right (hp : S.Settles p pos (some (i, v))) (hq : S.Settles q i none) :
    S.Settles (p.skip q) pos none :=
  (seq_none (.cons hp (.nil i)) hq []).map_none _

end Settles

/-! ### Choices -/

theorem comes_altFrom_none (h : ∀ p ∈ ps, S.Settles p pos none) (l : Ledger) :
    S.Comes (Action.altFrom (Attempt.reply ⟨none, l⟩)
      (ps.map fun p => p.run S.limits) S.src pos)
      none := by
  induction ps generalizing l with
  | nil => exact .reply none l
  | cons p ps ih =>
      rw [List.forall_mem_cons] at h
      exact Comes.attempt h.1 (Attempt.carries_reply ⟨none, l⟩) fun k => ih h.2 (l ++ k)

theorem comes_altFrom (h : ∀ p ∈ ps, S.Settles p pos none) (hq : S.Settles q pos (some (i, v)))
    (qs : List Parser) (l : Ledger) :
    S.Comes (Action.altFrom (Attempt.reply ⟨none, l⟩)
      ((ps ++ q :: qs).map fun p => p.run S.limits) S.src pos) (some (i, v)) := by
  induction ps generalizing l with
  | nil =>
      refine Comes.attempt hq (Attempt.carries_reply ⟨none, l⟩) fun k => ?_
      exact .reply (some (i, v)) (l ++ k)
  | cons p ps ih =>
      rw [List.forall_mem_cons] at h
      exact Comes.attempt h.1 (Attempt.carries_reply ⟨none, l⟩) fun k => ih h.2 (l ++ k)

namespace Settles

/-- A choice matches as the first of its parsers that does. -/
theorem alternatives (h : ∀ p ∈ ps, S.Settles p pos none) (hq : S.Settles q pos (some (i, v)))
    (qs : List Parser) : S.Settles (.alternatives (ps ++ q :: qs)) pos (some (i, v)) := by
  cases ps with
  | nil =>
      rw [List.nil_append, Parser.alternatives, Settles, Parser.run, Parser.eval_alt]
      exact Comes.bind hq fun l => .reply (some (i, v)) l
  | cons p ps =>
      rw [List.forall_mem_cons] at h
      rw [List.cons_append, Parser.alternatives, Settles, Parser.run, Parser.eval_alt]
      exact Comes.bind h.1 fun l => comes_altFrom h.2 hq qs l

theorem alternatives_head (hq : S.Settles q pos (some (i, v))) (qs : List Parser) :
    S.Settles (.alternatives (q :: qs)) pos (some (i, v)) := by
  have hnone : ∀ p ∈ ([] : List Parser), S.Settles p pos none := List.forall_mem_nil _
  exact alternatives hnone hq qs

/-- A choice fails if all of its parsers do. -/
theorem alternatives_none (h : ∀ p ∈ ps, S.Settles p pos none) :
    S.Settles (.alternatives ps) pos none := by
  cases ps with
  | nil => exact .mismatch pos _
  | cons p ps =>
      rw [List.forall_mem_cons] at h
      rw [Parser.alternatives, Settles, Parser.run, Parser.eval_alt]
      exact Comes.bind h.1 fun l => comes_altFrom_none h.2 l

end Settles

end

/-! ### Repetitions -/

/-- A parser matches again and again, from an offset to an index, with these values, and
never the empty text. -/
inductive Rounds (S : Setting) (p : Parser) : Nat → List Value → Nat → Prop
  | nil (pos : Nat) : Rounds S p pos [] pos
  | cons {pos i j : Nat} {v : Value} {vs : List Value} (h : S.Settles p pos (some (i, v)))
      (hne : i ≠ pos) (hs : Rounds S p i vs j) : Rounds S p pos (v :: vs) j

theorem Rounds.comes_unbounded {vs : List Value} (h : S.Rounds p pos vs j)
    (hend : S.Settles p j none) {n : Nat} (hn : vs.length < n) (values : List Value)
    {last : Option Reply} {l : Ledger} (hc : Attempt.Carries last l) :
    S.Comes (Action.unbounded (p.run S.limits) S.src n ⟨values, last, pos⟩)
      (some (j, .list (values.reverse ++ vs))) := by
  induction h generalizing n values last l with
  | nil pos =>
      obtain ⟨n, rfl⟩ := Nat.exists_eq_succ_of_ne_zero (Nat.ne_zero_of_lt hn)
      refine Comes.attempt hend hc fun k => ?_
      have hc' := Attempt.carries_reply ⟨none, l ++ k⟩
      change S.Comes (pure (.after (some (Attempt.reply ⟨none, l ++ k⟩)) pos _)) _
      rw [List.append_nil, Attempt.after_reply hc']
      exact .reply _ (l ++ k)
  | @cons pos i j v vs h hne _ ih =>
      obtain ⟨n, rfl⟩ := Nat.exists_eq_succ_of_ne_zero (Nat.ne_zero_of_lt hn)
      refine Comes.attempt h hc fun k => ?_
      have hvalues : values.reverse ++ v :: vs = (v :: values).reverse ++ vs := by
        rw [List.reverse_cons, List.append_assoc, List.singleton_append]
      have hindex : ¬ (i : Int) = pos := by omega
      simp only [Attempt.reply, if_neg hindex]
      rw [hvalues]
      exact ih hend (Nat.lt_of_succ_lt_succ hn) (v :: values)
        (Attempt.carries_reply ⟨some (i, v), l ++ k⟩)

/-- Required rounds that match, and what comes after them. -/
theorem Rounds.comes_required {vs : List Value} (h : S.Rounds p pos vs j)
    {finish : Action.Progress → Run Reply} {values : List Value}
    (hf : ∀ last l, Attempt.Carries last l →
      S.Comes (finish ⟨vs.reverse ++ values, last, j⟩) o)
    {last : Option Reply} {l : Ledger} (hc : Attempt.Carries last l) :
    S.Comes
      (Action.required (p.run S.limits) S.src finish vs.length ⟨values, last, pos⟩) o := by
  induction h generalizing values last l with
  | nil pos => exact hf last l hc
  | @cons pos i j v vs h _ _ ih =>
      refine Comes.attempt h hc fun k => ?_
      refine ih (fun last l hc => ?_) (Attempt.carries_reply ⟨some (i, v), l ++ k⟩)
      rw [← List.singleton_append, ← List.append_assoc, ← List.reverse_cons]
      exact hf last l hc

/-- Required rounds that match, and one that does not. -/
theorem Rounds.comes_required_none {vs : List Value} (h : S.Rounds p pos vs j)
    (hend : S.Settles p j none) (finish : Action.Progress → Run Reply) {n : Nat}
    (hn : vs.length < n) (values : List Value) {last : Option Reply} {l : Ledger}
    (hc : Attempt.Carries last l) :
    S.Comes (Action.required (p.run S.limits) S.src finish n ⟨values, last, pos⟩) none := by
  obtain ⟨n, rfl⟩ := Nat.exists_eq_succ_of_ne_zero (Nat.ne_zero_of_lt hn)
  induction h generalizing n values last l with
  | nil pos => exact Comes.attempt hend hc fun k => .reply none (l ++ k)
  | @cons pos i j v vs h _ _ ih =>
      rw [List.length_cons] at hn
      obtain ⟨n, rfl⟩ := Nat.exists_eq_succ_of_ne_zero (by omega : n ≠ 0)
      refine Comes.attempt h hc fun k => ?_
      exact ih hend (v :: values) (Attempt.carries_reply ⟨some (i, v), l ++ k⟩) n (by omega)

namespace Settles

/-- A repetition with a least number of rounds matches these and then as often as its parser
does, if the limits suffice for one more round. -/
theorem atLeast {vs ws : List Value} (h : S.Rounds p pos vs i) (hs : S.Rounds p i ws j)
    (hend : S.Settles p j none) (hrounds : ws.length < S.limits.rounds) :
    S.Settles (p.atLeast vs.length) pos (some (j, .list (vs ++ ws))) := by
  have hnone : Attempt.Carries none [] := rfl
  refine h.comes_required (fun last l hc => ?_) hnone
  have hcomes := hs.comes_unbounded hend hrounds (vs.reverse ++ []) hc
  rw [List.append_nil, List.reverse_reverse] at hcomes
  rw [List.append_nil]
  exact hcomes

/-- A repetition of exactly as many rounds as match. -/
theorem times {vs : List Value} (h : S.Rounds p pos vs j) :
    S.Settles (p.times vs.length (some vs.length)) pos (some (j, .list vs)) := by
  have hnone : Attempt.Carries none [] := rfl
  have hextra : (some vs.length).map (· - vs.length) = some 0 := by
    rw [Option.map_some, Nat.sub_self]
  rw [Parser.times, hextra]
  refine h.comes_required (fun last l hc => ?_) hnone
  change S.Comes (pure (.after last j (.list (vs.reverse ++ []).reverse))) _
  rw [List.append_nil, List.reverse_reverse, Attempt.after_reply hc]
  exact .reply (some (j, .list vs)) l

/-- A repetition fails if a required round does. -/
theorem atLeast_none {vs : List Value} (h : S.Rounds p pos vs j) (hend : S.Settles p j none)
    {n : Nat} (hn : vs.length < n) : S.Settles (p.atLeast n) pos none := by
  have hnone : Attempt.Carries none [] := rfl
  exact h.comes_required_none hend _ hn [] hnone

/-- A repetition matches as often as its parser does, if the limits suffice for one more
round. -/
theorem many {vs : List Value} (h : S.Rounds p pos vs j) (hend : S.Settles p j none)
    (hrounds : vs.length < S.limits.rounds) : S.Settles p.many pos (some (j, .list vs)) :=
  atLeast (.nil pos) h hend hrounds

/-- Elements with separators between them, where no separator and element follow the last
one. -/
theorem sepBy {vs : List Value} (h : S.Settles p pos (some (i, v)))
    (hs : S.Rounds (q.andThen p) i vs j) (hend : S.Settles (q.andThen p) j none)
    (hrounds : vs.length < S.limits.rounds) :
    S.Settles (p.sepBy q) pos (some (j, .list (v :: vs))) := by
  have hrow : S.Row [p, (q.andThen p).many] pos [v, .list vs] j :=
    .cons h (.cons (many hs hend hrounds) (.nil j))
  have helements : S.Settles (p.sepBy1 q) pos (some (j, .list (v :: vs))) := (seq hrow).map rfl
  exact alternatives_head helements _

/-- Where there is no first element, there are none. -/
theorem sepBy_nil (h : S.Settles p pos none) (q : Parser) :
    S.Settles (p.sepBy q) pos (some (pos, .list [])) := by
  have hnone : S.Settles (p.sepBy1 q) pos none := (seq_none (.nil pos) h _).map_none _
  have hempty : S.Settles ((Parser.succeed .none).map fun _ => pure (.list [])) pos
      (some (pos, .list [])) := (succeed .none pos).map rfl
  exact alternatives (List.forall_mem_singleton.mpr hnone) hempty []

/-! ### Parses -/

/-- **A match up to the end is the outcome of a parse.** -/
theorem exec_parse (h : S.Settles p 0 (some (S.src.length, v))) {s : Store} (hs : S.inv s) :
    ∃ t, S.inv t ∧ (p.parse S.limits S.src).exec s = (.ok (.value v), t) := by
  have hrest : S.src.RestAt S.src.length [] := ⟨le_rfl, List.drop_length⟩
  obtain ⟨l, t, ht, he⟩ := (h.skip (.eof hrest)) s hs
  refine ⟨t, ht, ?_⟩
  change ((p.skip .eof).run S.limits S.src 0).exec s = _ at he
  rw [Parser.parse, Run.exec_bind_of_ok he]
  rfl

/-- A run that fails, if the end of the text is demanded behind it, is a failed parse. -/
theorem exec_parse_none (h : S.Settles (p.skip .eof) 0 none) {s : Store} (hs : S.inv s) :
    ∃ f t, (p.parse S.limits S.src).exec s = (.ok (.failure f), t) := by
  obtain ⟨l, t, -, he⟩ := h s hs
  change ((p.skip .eof).run S.limits S.src 0).exec s = _ at he
  rw [Parser.parse, Run.exec_bind_of_ok he]
  exact ⟨_, _, rfl⟩

end Settles

/-! ### One store -/

/-- The setting of runs in one store, which leave it as it is. -/
def still (src : Text) (limits : Limits) (s : Store) : Setting := ⟨src, limits, (· = s)⟩

namespace Settles

variable {src : Text} {limits : Limits} {s : Store}

theorem exec_still (h : (still src limits s).Settles p pos o) :
    ∃ l, (p.run limits src pos).exec s = (.ok (Attempt.reply ⟨o, l⟩), s) := by
  obtain ⟨l, t, ht, he⟩ := h s rfl
  obtain rfl : t = s := ht
  exact ⟨l, he⟩

theorem parse_still (h : (still src limits s).Settles p 0 (some (src.length, v))) :
    (p.parse limits src).exec s = (.ok (.value v), s) := by
  obtain ⟨t, ht, he⟩ := h.exec_parse rfl
  obtain rfl : t = s := ht
  exact he

end Settles

end Setting

end Furthest
