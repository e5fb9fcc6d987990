import Furthest.Proofs.Replies
import Furthest.Proofs.Sequencing
import Furthest.Proofs.Transparency

/-!
# Laws of Descriptions

A description puts its own label in the place of what is expected at the start of a parser,
and leaves all failures further on as they are. So it is the last one that counts, and it
does not matter whether a function is applied to the value before or behind it. Neither does
it matter whether two parsers are described one by one or as a choice, as long as both fail:
where a failure at the start meets one further on, the latter wins in both cases, and where
two failures at the start meet, the union of the label with itself is that label.

The first laws hold of all parsers whatever, and say that two runs are the same. The law
about choices asks for labels that can be united, which the labels of the library can, as
they are texts.

## Main results

* `Record.join_described`: descriptions and merging can be exchanged.
* `Parser.desc_desc`, `Parser.map_desc`: the last description counts, and functions do not
  matter.
* `Parser.descriptions_compose`: **descriptions only relabel failures at the start, and
  compose.**
-/

namespace Furthest

/-! ### Records and replies -/

namespace Record

variable {r last : Record} {pos : Int}

/-- A record with a label for a failure at the start. -/
def described (r : Record) (pos : Int) (label : Text) : Record :=
  if r.furthest = pos then single pos (.text label) else r

@[simp] theorem furthest_described (r : Record) (pos : Int) (label : Text) :
    (r.described pos label).furthest = r.furthest := by
  rw [described]
  split
  · next h => exact h.symm
  · rfl

theorem described_of_eq (h : r.furthest = pos) (label : Text) :
    r.described pos label = single pos (.text label) := if_pos h

theorem described_of_ne (h : r.furthest ≠ pos) (label : Text) : r.described pos label = r :=
  if_neg h

/-- The union of a label with itself. -/
theorem join_single_self (pos : Int) (label : Text) :
    (single pos (.text label)).join (single pos (.text label))
      = .ok (single pos (.text label)) := by
  have hunion : unionExpected [.text label] [.text label] = .ok [.text label] := by
    have htexts : unionTexts [label] [label] = [label] :=
      (unionTexts_of_subset (List.pairwise_singleton _ _) (List.Subset.refl _)).1
    have hmap := unionExpected_map_text [label] [label]
    rwa [htexts] at hmap
  rw [join, if_neg (lt_irrefl _), if_pos rfl, single, hunion]
  rfl

/-- The failures that are merged at an offset stay there. -/
theorem furthest_of_join_eq {j : Record} (h : r.join last = .ok j)
    (heq : last.furthest = r.furthest) : j.furthest = r.furthest := by
  rw [join, if_neg heq.not_lt, if_pos heq.symm] at h
  rcases hunion : unionExpected r.expected last.expected with fault | labels
  · rw [hunion] at h
    cases h
  · rw [hunion] at h
    cases h
    exact heq

/-- **Descriptions and merging can be exchanged.** A description keeps the offset of a
record, so that the same one wins before and behind it. -/
theorem join_described {j : Record} (h : r.join last = .ok j) (pos : Int) (label : Text) :
    (r.described pos label).join (last.described pos label) = .ok (j.described pos label) := by
  rcases Int.lt_trichotomy last.furthest r.furthest with hlt | heq | hgt
  · rw [join, if_pos hlt] at h
    cases h
    rw [join, furthest_described, furthest_described, if_pos hlt]
  · have hj := furthest_of_join_eq h heq
    by_cases hpos : r.furthest = pos
    · rw [described_of_eq hpos, described_of_eq (heq.trans hpos),
        described_of_eq (hj.trans hpos), join_single_self]
    · rw [described_of_ne hpos, described_of_ne (heq ▸ hpos), described_of_ne (hj ▸ hpos), h]
  · have hne : ¬ r.furthest = last.furthest := by omega
    rw [join, if_neg (by omega), if_neg hne] at h
    cases h
    rw [join, furthest_described, furthest_described, if_neg (by omega), if_neg hne]

end Record

namespace Reply

theorem described_failure (r : Record) (pos : Int) (label : Text) :
    (failure r).described pos label = failure (r.described pos label) := by
  rw [described, Record.described]
  split
  · rfl
  · rfl

/-- The last description counts. -/
theorem described_described (r : Reply) (pos : Int) (a b : Text) :
    (r.described pos a).described pos b = r.described pos b := by
  cases r with
  | success index value record => rfl
  | failure record =>
      simp only [described_failure]
      by_cases hpos : record.furthest = pos
      · have hfirst : (record.described pos a).furthest = pos := by
          rwa [Record.furthest_described]
        rw [Record.described_of_eq hfirst, Record.described_of_eq hpos]
      · rw [Record.described_of_ne hpos]

end Reply

namespace Parser

variable {p q : Parser} {limits : Limits} {src : Text} {pos : Int} {s t u : Store} {r : Reply}
  {record last joined : Record} {f : Value → Effect Value}

/-! ### Descriptions of all parsers -/

/-- A description acts on the reply. -/
theorem exec_desc (h : (p.run limits src pos).exec s = (.ok r, t)) (label : Text) :
    ((p.desc label).run limits src pos).exec s = (.ok (r.described pos label), t) := by
  rw [run_desc, Run.exec_map, Run.outcome, Run.after, h]
  rfl

/-- **The last description counts.** -/
theorem desc_desc (p : Parser) (a b : Text) (limits : Limits) :
    ((p.desc a).desc b).run limits = (p.desc b).run limits := by
  funext src pos
  simp only [run_desc, Functor.map_map, Reply.described_described]

/-- **A function can be applied before or behind a description.** -/
theorem map_desc (p : Parser) (f : Value → Effect Value) (label : Text) (limits : Limits) :
    ((p.map f).desc label).run limits = ((p.desc label).map f).run limits := by
  funext src pos
  have hmap (q : Parser) : (q.map f).run limits = (q.run limits).map f := rfl
  rw [run_desc, hmap, hmap, Action.map, Action.map, run_desc]
  simp only [← bind_pure_comp, bind_assoc, pure_bind]
  refine bind_congr fun r => ?_
  cases r with
  | success index value record => simp [Reply.described]
  | failure record => simp [Reply.described_failure]

/-! ### Choices of two parsers that fail -/

/-- Two choices that fail: their records are merged. -/
theorem exec_alternatives_of_failures
    (hp : (p.run limits src pos).exec s = (.ok (.failure last), t))
    (hq : (q.run limits src pos).exec t = (.ok (.failure record), u))
    (hj : record.join last = .ok joined) :
    ((alternatives [p, q]).run limits src pos).exec s = (.ok (.failure joined), u) := by
  have hmerge : Run.merge (.failure record) (some (.failure last)) = pure (.failure joined) :=
    Run.merge_of_join hj
  rw [alternatives, run, eval_alt, Action.alt]
  refine (Run.exec_bind_of_ok hp).trans ?_
  refine (Run.exec_bind_of_ok hq).trans ?_
  rw [hmerge, pure_bind]
  rfl

/-- **Two failures can be described one by one or together.** -/
theorem exec_choice_desc (hp : p.IsLibrary) (hq : q.IsLibrary)
    (hs : s.Admits IsLibrary) {pos : Nat}
    (hfirst : (p.run limits src pos).exec s = (.ok (.failure last), t))
    (hsecond : (q.run limits src pos).exec t = (.ok (.failure record), u)) (label : Text) :
    ∃ joined, record.join last = .ok joined
      ∧ ((alternatives [p.desc label, q.desc label]).run limits src pos).exec s
          = (.ok (.failure (joined.described pos label)), u)
      ∧ (((alternatives [p, q]).desc label).run limits src pos).exec s
          = (.ok (.failure (joined.described pos label)), u) := by
  have ht : t.Admits IsLibrary := (Store.later_of_exec_run hfirst).admits hs
  obtain ⟨joined, hj, -⟩ :=
    (isTextual_of_run hq ht hsecond).exists_join (isTextual_of_run hp hs hfirst)
  refine ⟨joined, hj, ?_, ?_⟩
  · have hfirst' := exec_desc hfirst label
    have hsecond' := exec_desc hsecond label
    rw [Reply.described_failure] at hfirst' hsecond'
    exact exec_alternatives_of_failures hfirst' hsecond' (Record.join_described hj pos label)
  · have hchoice := exec_desc (exec_alternatives_of_failures hfirst hsecond hj) label
    rwa [Reply.described_failure] at hchoice

/-- **Descriptions only relabel failures at the start, and compose.** Of two descriptions
the last one counts, and a function can be applied before or behind one. A match and a
failure further on stay as they are, labels included, and a failure at the start has the
label alone. And two parsers that fail one after the other can be described one by one or as
a choice: the failures are equal, whichever of the two got further. -/
theorem descriptions_compose (hp : p.IsLibrary) (hq : q.IsLibrary) (a b label : Text)
    (f : Value → Effect Value) :
    (∀ limits, ((p.desc a).desc b).run limits = (p.desc b).run limits)
      ∧ (∀ limits, ((p.map f).desc label).run limits = ((p.desc label).map f).run limits)
      ∧ (∀ limits src (pos : Int) s t r, (p.run limits src pos).exec s = (.ok r, t) →
          r.isSuccess = true ∨ pos < r.record.furthest →
          ((p.desc label).run limits src pos).exec s = (.ok r, t))
      ∧ (∀ limits src (pos : Int) s t record,
          (p.run limits src pos).exec s = (.ok (.failure record), t) → record.furthest = pos →
          ((p.desc label).run limits src pos).exec s = (.ok (.mismatch pos (.text label)), t))
      ∧ ∀ s, s.Admits IsLibrary → ∀ limits src (pos : Nat) t u first second,
          (p.run limits src pos).exec s = (.ok (.failure first), t) →
          (q.run limits src pos).exec t = (.ok (.failure second), u) →
          ∃ joined, second.join first = .ok joined
            ∧ ((alternatives [p.desc label, q.desc label]).run limits src pos).exec s
                = (.ok (.failure (joined.described pos label)), u)
            ∧ (((alternatives [p, q]).desc label).run limits src pos).exec s
                = (.ok (.failure (joined.described pos label)), u) := by
  refine ⟨desc_desc p a b, map_desc p f label, ?_, ?_, ?_⟩
  · intro limits src pos s t r h hr
    have hdesc := exec_desc h label
    cases r with
    | success index value record => exact hdesc
    | failure record =>
        have hne : record.furthest ≠ pos := (hr.resolve_left Bool.false_ne_true).ne'
        rwa [Reply.described_failure, Record.described_of_ne hne] at hdesc
  · intro limits src pos s t record h hpos
    have hdesc := exec_desc h label
    rwa [Reply.described_failure, Record.described_of_eq hpos] at hdesc
  · intro s hs limits src pos t u first second hfirst hsecond
    exact exec_choice_desc hp hq hs hfirst hsecond label

/-- A list or a mark, both described as a list, where the list is not closed: its failure is
further on and wins, whether the two are described one by one or as a choice. -/
theorem descriptions_compose_unclosed :
    let p := lazy 0
    let q := literal "!"
    let label : Text := "a list"
    let record : Record := ⟨2, [.text "','", .text "']'"]⟩
    p.IsLibrary ∧ q.IsLibrary ∧ Store.lists.Admits IsLibrary
      ∧ (p.run ⟨3, 4⟩ "[1" (0 : Nat)).outcome .lists = .ok (.failure record)
      ∧ (q.run ⟨3, 4⟩ "[1" (0 : Nat)).outcome .lists = .ok (.mismatch 0 (.text "'!'"))
      ∧ ((alternatives [p.desc label, q.desc label]).run ⟨3, 4⟩ "[1" (0 : Nat)).outcome .lists
          = .ok (.failure record)
      ∧ (((alternatives [p, q]).desc label).run ⟨3, 4⟩ "[1" (0 : Nat)).outcome .lists
          = .ok (.failure record) := by
  intro p q label record
  have hp : p.IsLibrary := .lazy (fun _ => IsPlain.isLibrary) 0
  have hq : q.IsLibrary := .literal (fun _ => IsPlain.isLibrary) "!"
  have hs : Store.lists.Admits IsLibrary :=
    Store.lists_admits (fun _ => IsPlain.isLibrary) ⟨id, trivial⟩
  obtain ⟨t, hfirst⟩ : ∃ t, (p.run ⟨3, 4⟩ "[1" (0 : Nat)).exec .lists
    = (.ok (.failure record), t) :=
    ⟨_, rfl⟩
  have hsecond : (q.run ⟨3, 4⟩ "[1" (0 : Nat)).exec t = (.ok (.mismatch 0 (.text "'!'")), t) :=
    rfl
  obtain ⟨-, -, -, -, hchoice⟩ := descriptions_compose hp hq label label label pure
  obtain ⟨joined, hj, hone, hboth⟩ := hchoice _ hs ⟨3, 4⟩ "[1" 0 t t _ _ hfirst hsecond
  cases hj
  exact ⟨hp, hq, hs, congrArg Prod.fst hfirst, rfl, congrArg Prod.fst hone,
    congrArg Prod.fst hboth⟩

end Parser

end Furthest
