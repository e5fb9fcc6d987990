import Furthest.Proofs.Replies

/-!
# Merging in Any Order

Replies are merged in many orders: a sequence merges each part onto those before it, while
nested chains merge what comes later first. This module says what replies are merged to in
any order and in any groups, whatever texts their labels are. The greatest offset wins, and
of the records there those that have labels count. If there are several of them, their
labels are united and put in order. A single one keeps its labels as they are, in order or
not and with all repetitions. So the labels alone do not tell what they are united to, and
the laws of unions of sets do not apply: it matters how many records have them.

## Main definitions

* `Record.Unites`, `Record.IsJoin`: what several records come to, without regard to any
  order.
* `Reply.Grouping`: a way of merging replies.

## Main results

* `Record.IsJoin.join`: merging joins two records to that of all records behind them.
* `Record.IsJoin.unique`, `Record.IsJoin.perm`: what records come to is determined by them.
* `Record.join_of_covered`: sorted labels take in a record once.
* `Reply.Grouping.exists_merged`: what each grouping comes to.
* `Reply.merges_join`: **merging is a join of records**, in any order and in any groups.
-/

namespace Furthest

namespace Record

variable {rs ls : List Record} {r j last : Record} {xs ys : List Label}

/-! ### What labels come to -/

/-- The labels of a record are texts, in strictly increasing order. -/
def IsSorted (r : Record) : Prop :=
  ∃ ts : List Text, r.expected = ts.map .text ∧ ts.Pairwise (· < ·)

theorem IsSorted.isTextual (h : r.IsSorted) : r.IsTextual := h.imp fun _ h => h.1

/-- What the labels of several records come to: no labels, the labels of the only record as
they are, or the labels of all, each once and in increasing order. -/
inductive Unites : List Record → List Label → Prop
  /-- Without records there are no labels. -/
  | none : Unites [] []
  /-- A record alone keeps its labels. -/
  | one (r : Record) : Unites [r] r.expected
  /-- The labels of several records are put in order. -/
  | several {rs : List Record} {ts : List Text} (two_le : 2 ≤ rs.length)
      (sorted : ts.Pairwise (· < ·))
      (mem_iff : ∀ label, label ∈ ts.map Value.text ↔ ∃ r ∈ rs, label ∈ r.expected) :
      Unites rs (ts.map .text)

/-- No label is lost, and none comes from elsewhere. -/
theorem Unites.mem_iff (h : Unites rs xs) {label : Label} :
    label ∈ xs ↔ ∃ r ∈ rs, label ∈ r.expected := by
  cases h with
  | none => simp
  | one r => simp
  | several _ _ mem_iff => exact mem_iff label

theorem Unites.of_nil (h : Unites [] xs) : xs = [] := by
  cases h with
  | none => rfl
  | several two_le => simp at two_le

theorem Unites.isTextual (h : Unites rs xs) (ht : ∀ r ∈ rs, r.IsTextual) :
    ∃ ts : List Text, xs = ts.map .text := by
  cases h with
  | none => exact ⟨[], rfl⟩
  | one r => exact ht r List.mem_cons_self
  | several => exact ⟨_, rfl⟩

/-- Sorted labels stay sorted. -/
theorem Unites.isSorted (h : Unites rs xs) (hs : ∀ r ∈ rs, r.IsSorted) :
    ∃ ts : List Text, xs = ts.map .text ∧ ts.Pairwise (· < ·) := by
  cases h with
  | none => exact ⟨[], rfl, .nil⟩
  | one r => exact hs r List.mem_cons_self
  | several _ sorted _ => exact ⟨_, rfl, sorted⟩

theorem Unites.ne_nil (h : Unites rs xs) (hne : rs ≠ []) (hl : ∀ r ∈ rs, r.expected ≠ []) :
    xs ≠ [] := by
  obtain ⟨r, hr⟩ := List.exists_mem_of_ne_nil rs hne
  obtain ⟨label, hlabel⟩ := List.exists_mem_of_ne_nil r.expected (hl r hr)
  exact List.ne_nil_of_mem (h.mem_iff.mpr ⟨r, hr, hlabel⟩)

/-- What labels come to is determined by the records that have them. -/
theorem Unites.unique (h : Unites rs xs) (h' : Unites rs ys) : xs = ys := by
  cases h with
  | none => exact h'.of_nil.symm
  | one r =>
      cases h' with
      | one => rfl
      | several two_le => simp at two_le
  | @several _ ts two_le sorted mem_iff =>
      cases h' with
      | none => simp at two_le
      | one r => simp at two_le
      | @several _ us _ sorted' mem_iff' =>
          have hsame : ts = us := sorted.eq_of_mem_iff sorted' fun t => by
            have hmem := (mem_iff (.text t)).trans (mem_iff' (.text t)).symm
            simpa using hmem
          rw [hsame]

/-- It does not depend on the order of the records. -/
theorem Unites.perm (h : Unites rs xs) (hp : rs.Perm ls) : Unites ls xs := by
  cases h with
  | none =>
      obtain rfl := hp.nil_eq
      exact .none
  | one r =>
      obtain rfl := List.perm_singleton.mp hp.symm
      exact .one r
  | several two_le sorted mem_iff =>
      refine .several (hp.length_eq ▸ two_le) sorted fun label => (mem_iff label).trans ?_
      simp only [hp.mem_iff]

/-- **Uniting the labels of two groups unites those of all their records.** A group without
labels leaves the other one as it is; two groups with labels have two records at least. -/
theorem Unites.append (hr : Unites rs ys) (hl : Unites ls xs)
    (ht : ∀ r ∈ ls ++ rs, r.IsTextual) (hne : ∀ r ∈ ls ++ rs, r.expected ≠ []) :
    ∃ zs, unionExpected ys xs = .ok zs ∧ Unites (ls ++ rs) zs := by
  rw [List.forall_mem_append] at ht hne
  -- beside an empty group nothing is put in order, so these are no unions of sets
  by_cases hls : ls = []
  · subst hls
    obtain rfl := hl.of_nil
    refine ⟨ys, ?_, hr⟩
    cases ys <;> rfl
  by_cases hrs : rs = []
  · subst hrs
    obtain rfl := hr.of_nil
    exact ⟨xs, rfl, by rwa [List.append_nil]⟩
  have hxs := hl.ne_nil hls hne.1
  have hys := hr.ne_nil hrs hne.2
  obtain ⟨ts, rfl⟩ := hl.isTextual ht.1
  obtain ⟨us, rfl⟩ := hr.isTextual ht.2
  have hsorted : (unionTexts us ts).Pairwise (· < ·) := by
    rw [unionTexts_of_ne_nil (by simpa using hys) (by simpa using hxs)]
    exact Text.pairwise_sortedDistinct _
  refine ⟨_, unionExpected_map_text us ts, .several ?_ hsorted fun label => ?_⟩
  · have := List.length_pos_iff.mpr hls
    have := List.length_pos_iff.mpr hrs
    rw [List.length_append]
    omega
  · have hmem : label ∈ (unionTexts us ts).map Value.text
        ↔ label ∈ us.map Value.text ∨ label ∈ ts.map Value.text := by
      simp only [List.mem_map, mem_unionTexts, or_and_right, exists_or]
    rw [hmem, hr.mem_iff, hl.mem_iff]
    simp only [List.mem_append, or_and_right, exists_or, or_comm]

/-! ### What records come to -/

/-- The records at an offset that have labels. -/
def labelledAt (rs : List Record) (offset : Int) : List Record :=
  rs.filter fun r => decide (r.furthest = offset) && !r.expected.isEmpty

theorem mem_labelledAt {offset : Int} :
    r ∈ labelledAt rs offset ↔ r ∈ rs ∧ r.furthest = offset ∧ r.expected ≠ [] := by
  simp [labelledAt]

theorem labelledAt_append (ls rs : List Record) (offset : Int) :
    labelledAt (ls ++ rs) offset = labelledAt ls offset ++ labelledAt rs offset :=
  List.filter_append ..

/-- There are no records beyond the greatest offset. -/
theorem labelledAt_eq_nil {offset : Int} (h : ∀ r ∈ rs, r.furthest < offset) :
    labelledAt rs offset = [] := by
  rw [List.eq_nil_iff_forall_not_mem]
  intro r hr
  obtain ⟨hmem, heq, -⟩ := mem_labelledAt.mp hr
  exact (h r hmem).ne heq

/-- What several records come to: the greatest of their offsets, with the labels of those
that lie there. -/
structure IsJoin (rs : List Record) (j : Record) : Prop where
  /-- The offset is that of a record. -/
  exists_furthest : ∃ r ∈ rs, r.furthest = j.furthest
  /-- No record is further on. -/
  furthest_le : ∀ r ∈ rs, r.furthest ≤ j.furthest
  /-- The labels are those of the records at this offset. -/
  unites : Unites (labelledAt rs j.furthest) j.expected

namespace IsJoin

/-- A record alone. -/
theorem single (r : Record) : IsJoin [r] r := by
  refine ⟨⟨r, List.mem_cons_self, rfl⟩, List.forall_mem_singleton.mpr (le_refl _), ?_⟩
  by_cases h : r.expected = []
  · have hnil : labelledAt [r] r.furthest = [] := by simp [labelledAt, h]
    rw [hnil, h]
    exact .none
  · have hone : labelledAt [r] r.furthest = [r] := by simp [labelledAt, h]
    rw [hone]
    exact .one r

/-- The labels are those of the records that are furthest on. -/
theorem mem_expected (h : IsJoin rs j) {label : Label} :
    label ∈ j.expected ↔ ∃ r ∈ rs, r.furthest = j.furthest ∧ label ∈ r.expected := by
  rw [h.unites.mem_iff]
  constructor
  · rintro ⟨r, hr, hlabel⟩
    obtain ⟨hmem, heq, -⟩ := mem_labelledAt.mp hr
    exact ⟨r, hmem, heq, hlabel⟩
  · rintro ⟨r, hmem, heq, hlabel⟩
    exact ⟨r, mem_labelledAt.mpr ⟨hmem, heq, List.ne_nil_of_mem hlabel⟩, hlabel⟩

theorem isSorted (h : IsJoin rs j) (hs : ∀ r ∈ rs, r.IsSorted) : j.IsSorted :=
  h.unites.isSorted fun r hr => hs r (mem_labelledAt.mp hr).1

/-- **What records come to is determined by them.** -/
theorem unique {j' : Record} (h : IsJoin rs j) (h' : IsJoin rs j') : j = j' := by
  obtain ⟨r, hr, heq⟩ := h.exists_furthest
  obtain ⟨r', hr', heq'⟩ := h'.exists_furthest
  have hfurthest : j.furthest = j'.furthest :=
    le_antisymm (heq ▸ h'.furthest_le r hr) (heq' ▸ h.furthest_le r' hr')
  have hunites := h.unites
  rw [hfurthest] at hunites
  have hexpected := hunites.unique h'.unites
  rcases j with ⟨furthest, expected⟩
  rcases j' with ⟨furthest', expected'⟩
  exact Record.mk.injEq .. ▸ ⟨hfurthest, hexpected⟩

/-- **It does not depend on their order.** -/
theorem perm (h : IsJoin rs j) (hp : rs.Perm ls) : IsJoin ls j where
  exists_furthest := h.exists_furthest.imp fun _ hr => ⟨hp.mem_iff.mp hr.1, hr.2⟩
  furthest_le r hr := h.furthest_le r (hp.mem_iff.mpr hr)
  unites := h.unites.perm (hp.filter _)

/-- A group that is further on wins. -/
theorem append_of_lt (h : IsJoin rs r) (hl : ∀ q ∈ ls, q.furthest < r.furthest) :
    IsJoin (ls ++ rs) r where
  exists_furthest := h.exists_furthest.imp fun _ hq => ⟨List.mem_append_right ls hq.1, hq.2⟩
  furthest_le := List.forall_mem_append.mpr ⟨fun q hq => (hl q hq).le, h.furthest_le⟩
  unites := by
    rw [labelledAt_append, labelledAt_eq_nil hl, List.nil_append]
    exact h.unites

/-- **Merging two records joins what is behind them.** -/
theorem join (h : IsJoin rs r) (hl : IsJoin ls last) (ht : ∀ q ∈ ls ++ rs, q.IsTextual) :
    ∃ j, r.join last = .ok j ∧ IsJoin (ls ++ rs) j := by
  rcases Int.lt_trichotomy last.furthest r.furthest with hlt | heq | hgt
  · refine ⟨r, if_pos hlt, h.append_of_lt fun q hq => ?_⟩
    exact (hl.furthest_le q hq).trans_lt hlt
  · -- only here do the labels of both groups meet
    have hlabelled (q : Record)
      (hq : q ∈ labelledAt ls last.furthest ++ labelledAt rs r.furthest) :
        q ∈ ls ++ rs ∧ q.expected ≠ [] := by
      rw [← heq, ← labelledAt_append] at hq
      obtain ⟨hmem, -, hne⟩ := mem_labelledAt.mp hq
      exact ⟨hmem, hne⟩
    obtain ⟨labels, hunion, hunites⟩ := h.unites.append hl.unites
      (fun q hq => ht q (hlabelled q hq).1) fun q hq => (hlabelled q hq).2
    refine ⟨⟨last.furthest, labels⟩, ?_, ?_, ?_, ?_⟩
    · rw [Record.join, if_neg heq.not_lt, if_pos heq.symm, hunion]
      rfl
    · exact hl.exists_furthest.imp fun _ hq => ⟨List.mem_append_left rs hq.1, hq.2⟩
    · exact List.forall_mem_append.mpr ⟨hl.furthest_le, heq ▸ h.furthest_le⟩
    · rw [← heq] at hunites
      rwa [labelledAt_append]
  · refine ⟨last, ?_, (hl.append_of_lt fun q hq => ?_).perm List.perm_append_comm⟩
    · rw [Record.join, if_neg hgt.not_gt, if_neg hgt.ne]
    · exact (h.furthest_le q hq).trans_lt hgt

end IsJoin

/-- **Sorted labels take in a record once.** A record whose labels are there already changes
nothing, whichever of the two is merged onto the other. -/
theorem join_of_covered (hj : j.IsSorted) (hr : r.IsTextual) (hle : r.furthest ≤ j.furthest)
    (hsub : r.furthest = j.furthest → r.expected ⊆ j.expected) :
    j.join r = .ok j ∧ r.join j = .ok j := by
  rcases hle.lt_or_eq with hlt | heq
  · constructor
    · exact if_pos hlt
    · rw [join, if_neg hlt.not_gt, if_neg hlt.ne]
  · obtain ⟨ts, hts, hsorted⟩ := hj
    obtain ⟨us, hus⟩ := hr
    have hsubset : us ⊆ ts := fun t ht => by
      have hmem := hsub heq
      rw [hts, hus] at hmem
      simpa using hmem (List.mem_map_of_mem ht)
    obtain ⟨hleft, hright⟩ := unionTexts_of_subset hsorted hsubset
    constructor
    · rw [join, if_neg heq.not_lt, if_pos heq.symm, hts, hus,
        unionExpected_map_text, hleft, heq, ← hts]
      rfl
    · rw [join, if_neg heq.symm.not_lt, if_pos heq, hts, hus,
        unionExpected_map_text, hright, ← hts]
      rfl

/-- What records with sorted labels come to takes in each of them once, and itself. -/
theorem IsJoin.join_again (h : IsJoin rs j) (hs : ∀ q ∈ rs, q.IsSorted) (hr : r = j ∨ r ∈ rs) :
    j.join r = .ok j ∧ r.join j = .ok j := by
  have hsorted := h.isSorted hs
  rcases hr with rfl | hr
  · exact join_of_covered hsorted hsorted.isTextual (le_refl _) fun _ => List.Subset.refl _
  · refine join_of_covered hsorted (hs r hr).isTextual (h.furthest_le r hr)
      fun heq label hlabel => ?_
    exact h.mem_expected.mpr ⟨r, hr, heq, hlabel⟩

end Record

namespace Reply

open Record (IsJoin)

/-! ### Replies in groups -/

/-- A way of merging replies: a reply alone, or a group that is merged onto an earlier
group. -/
inductive Grouping where
  /-- A reply alone. -/
  | alone (reply : Reply)
  /-- A group that is merged onto an earlier one. -/
  | onto (later earlier : Grouping)

namespace Grouping

/-- The replies that are merged, the earliest one first. -/
def replies : Grouping → List Reply
  | alone r => [r]
  | onto later earlier => earlier.replies ++ later.replies

/-- The last reply. -/
def latest : Grouping → Reply
  | alone r => r
  | onto later _ => later.latest

/-- What the replies are merged to, group by group. -/
def merged : Grouping → Except Fault Reply
  | alone r => .ok r
  | onto later earlier => do
    let last ← earlier.merged
    (← later.merged).merge (some last)

/-- Replies that are merged one by one onto a group. -/
def followedBy (t : Grouping) (rs : List Reply) : Grouping :=
  rs.foldl (fun t r => .onto (.alone r) t) t

variable {t : Grouping} {rs : List Reply}

theorem replies_followedBy (t : Grouping) (rs : List Reply) :
    (t.followedBy rs).replies = t.replies ++ rs := by
  induction rs generalizing t with
  | nil => exact (List.append_nil _).symm
  | cons r rs ih =>
      rw [followedBy, List.foldl_cons, ← followedBy, ih, replies, replies, List.append_assoc,
        List.singleton_append]

/-- The last reply comes last. -/
theorem getLast?_replies (t : Grouping) : t.replies.getLast? = some t.latest := by
  induction t with
  | alone r => rfl
  | onto later earlier ihl _ => rw [replies, List.getLast?_append, ihl, latest, Option.some_or]

/-- **What each grouping comes to**: the last reply, with the join of all records. -/
theorem exists_merged (h : ∀ r ∈ t.replies, r.record.IsTextual) :
    ∃ j, t.merged = .ok (t.latest.withRecord j) ∧ IsJoin (t.replies.map record) j := by
  induction t with
  | alone r => exact ⟨r.record, by rw [merged, latest, withRecord_record], .single r.record⟩
  | onto later earlier ihl ihe =>
      have hparts := List.forall_mem_append.mp h
      obtain ⟨last, hlast, hjoinLast⟩ := ihe hparts.1
      obtain ⟨own, hown, hjoinOwn⟩ := ihl hparts.2
      have htextual : ∀ q ∈ earlier.replies.map record ++ later.replies.map record,
          q.IsTextual := by
        rw [← List.map_append]
        exact List.forall_mem_map.mpr h
      obtain ⟨j, hj, hjoin⟩ := hjoinOwn.join hjoinLast htextual
      refine ⟨j, ?_, by rwa [replies, List.map_append]⟩
      have hmerge : (later.latest.withRecord own).merge (some (earlier.latest.withRecord last))
          = .ok (later.latest.withRecord j) := by
        rw [merge_of_join (j := j) (by rwa [record_withRecord, record_withRecord]),
          withRecord_withRecord]
      rw [merged, hlast, hown]
      exact hmerge

/-- **Neither the order nor the grouping matters.** -/
theorem merged_of_perm {j : Record} (hj : IsJoin (rs.map record) j) (hp : t.replies.Perm rs)
    (h : ∀ r ∈ rs, r.record.IsTextual) : t.merged = .ok (t.latest.withRecord j) := by
  obtain ⟨j', hmerged, hj'⟩ := exists_merged fun r hr => h r (hp.mem_iff.mp hr)
  rw [hmerged, (hj'.perm (hp.map record)).unique hj]

/-- Merging one by one is a grouping. -/
theorem exists_mergeAll {q : Reply} (hq : t.merged = .ok q)
    (h : ∀ r ∈ t.replies ++ rs, r.record.IsTextual) :
    ∃ steps r, mergeAll (some q) rs = .ok steps ∧ (q :: steps).getLast? = some r
      ∧ (t.followedBy rs).merged = .ok r := by
  induction rs generalizing t q with
  | nil => exact ⟨[], q, rfl, rfl, hq⟩
  | cons a rs ih =>
      -- what has been merged so far stands for a group, which grows by one reply
      have hnext : ∀ r ∈ (onto (alone a) t).replies ++ rs, r.record.IsTextual := by
        rwa [replies, replies, List.append_assoc, List.singleton_append]
      obtain ⟨j, hj, -⟩ := exists_merged (t := onto (alone a) t) fun r hr =>
        hnext r (List.mem_append_left rs hr)
      obtain ⟨steps, r, hsteps, hlast, hr⟩ := ih hj hnext
      have hmerge : a.merge (some q) = .ok (a.withRecord j) := by
        rw [merged, hq] at hj
        exact hj
      refine ⟨a.withRecord j :: steps, r, ?_, ?_, hr⟩
      · rw [latest, latest] at hsteps
        rw [mergeAll, hmerge]
        simp only [bind, Except.bind, hsteps]
        rfl
      · rw [List.getLast?_cons_cons]
        exact hlast

end Grouping

variable {rs : List Reply}

/-- **Replies that are merged one by one** come to the last of them, with the join of all
records. -/
theorem exists_mergeAll_none (hne : rs ≠ []) (h : ∀ r ∈ rs, r.record.IsTextual) :
    ∃ steps r, mergeAll none rs = .ok steps ∧ steps.getLast? = some r
      ∧ r = (rs.getLast hne).withRecord r.record ∧ IsJoin (rs.map record) r.record := by
  obtain ⟨first, rest, rfl⟩ := List.exists_cons_of_ne_nil hne
  let t := (Grouping.alone first).followedBy rest
  have hreplies : t.replies = first :: rest := (Grouping.alone first).replies_followedBy rest
  obtain ⟨steps, r, hsteps, hlast, hr⟩ :=
    Grouping.exists_mergeAll (t := .alone first) rfl h
  obtain ⟨j, hj, hjoin⟩ := Grouping.exists_merged (t := t) (hreplies ▸ h)
  have hlatest : (first :: rest).getLast hne = t.latest := by
    rw [← Option.some_inj, ← List.getLast?_eq_some_getLast, ← hreplies, t.getLast?_replies]
  obtain rfl : r = t.latest.withRecord j := Except.ok.inj (hr.symm.trans hj)
  refine ⟨first :: steps, _, ?_, hlast, ?_, ?_⟩
  · rw [mergeAll, merge]
    simp only [bind, Except.bind, hsteps]
    rfl
  · rw [hlatest, record_withRecord]
  · rwa [record_withRecord, ← hreplies]

/-- **Merging is a join of records.** Replies that are merged one by one, each onto what
those before it have come to, come to the last of them with another record: the greatest
offset of all, and what the labels of the replies there are united to. In every other order
and every other grouping they come to the same record. Where all labels are sorted, those of
the record are sorted too, and merging it with one of the records once more, or with itself,
changes nothing. -/
theorem merges_join (hne : rs ≠ []) (h : ∀ r ∈ rs, r.record.IsTextual) :
    ∃ steps r, mergeAll none rs = .ok steps ∧ steps.getLast? = some r
      ∧ r = (rs.getLast hne).withRecord r.record
      ∧ IsJoin (rs.map record) r.record
      ∧ (∀ t : Grouping, t.replies.Perm rs → t.merged = .ok (t.latest.withRecord r.record))
      ∧ ((∀ q ∈ rs, q.record.IsSorted) → r.record.IsSorted
          ∧ ∀ again : Reply, again.record = r.record ∨ again.record ∈ rs.map record →
              r.merge (some again) = .ok r
                ∧ again.merge (some r) = .ok (again.withRecord r.record)) := by
  obtain ⟨steps, r, hsteps, hlast, hr, hjoin⟩ := exists_mergeAll_none hne h
  refine ⟨steps, r, hsteps, hlast, hr, hjoin, fun t hp => t.merged_of_perm hjoin hp
    h, fun hs => ?_⟩
  have hsorted : ∀ q ∈ rs.map record, q.IsSorted := List.forall_mem_map.mpr hs
  refine ⟨hjoin.isSorted hsorted, fun again hagain => ?_⟩
  obtain ⟨honto, hunder⟩ := hjoin.join_again hsorted hagain
  constructor
  · rw [merge_of_join honto, withRecord_record]
  · exact merge_of_join hunder

/-- Labels in no order, one of them twice. They stay as they are while they are the only
ones at their offset. When others join them they are put in order, and two groups in another
order come to the same. A failure with sorted labels can be merged onto itself. -/
theorem merges_join_unsorted :
    let unsorted : Reply := .failure ⟨3, [.text "b", .text "a", .text "b"]⟩
    let before : Reply := .failure ⟨-7, [.text "z"]⟩
    let mute : Reply := .success 5 .none ⟨3, []⟩
    let other : Reply := .success 9 (.text "v") ⟨3, [.text "c", .text "a"]⟩
    let sorted : Reply := .failure ⟨3, [.text "a", .text "c"]⟩
    let all : Record := ⟨3, [.text "a", .text "b", .text "c"]⟩
    let regrouped := Grouping.onto (.onto (.alone before) (.alone unsorted))
      (.onto (.alone other) (.alone mute))
    (∀ r ∈ [unsorted, before, mute, other], r.record.IsTextual)
      ∧ (mergeAll none [unsorted, before, mute]).map List.getLast?
          = .ok (some (mute.withRecord unsorted.record))
      ∧ (mergeAll none [unsorted, before, mute, other]).map List.getLast?
          = .ok (some (other.withRecord all))
      ∧ regrouped.merged = .ok (before.withRecord all)
      ∧ sorted.record.IsSorted ∧ sorted.merge (some sorted) = .ok sorted := by
  intro unsorted before mute other sorted all regrouped
  have htexts : ∀ r ∈ [unsorted, before, mute, other], r.record.IsTextual := by
    simp only [List.forall_mem_cons]
    exact ⟨⟨["b", "a", "b"], rfl⟩, ⟨["z"], rfl⟩, ⟨[], rfl⟩, ⟨["c", "a"], rfl⟩, nofun⟩
  have hlast : (mergeAll none [unsorted, before, mute, other]).map List.getLast?
      = .ok (some (other.withRecord all)) := rfl
  obtain ⟨steps, r, hsteps, hr, -, -, hgroups, -⟩ := merges_join (List.cons_ne_nil _ _) htexts
  obtain rfl : r = other.withRecord all := by
    rw [hsteps, Except.map, hr] at hlast
    exact Option.some.inj (Except.ok.inj hlast)
  have hperm : regrouped.replies.Perm [unsorted, before, mute, other] := List.perm_append_comm
  have hsorted : ∀ q ∈ [sorted], q.record.IsSorted :=
    List.forall_mem_singleton.mpr ⟨["a", "c"], rfl, by decide⟩
  obtain ⟨steps', r', hsteps', hr', -, -, -, hagain⟩ :=
    merges_join (List.cons_ne_nil _ _) fun q hq => (hsorted q hq).isTextual
  cases hsteps'
  cases hr'
  obtain ⟨htwice, -⟩ := (hagain hsorted).2 sorted (.inl rfl)
  exact ⟨htexts, rfl, hlast, hgroups regrouped hperm,
    hsorted sorted List.mem_cons_self, htwice⟩

end Reply

end Furthest
