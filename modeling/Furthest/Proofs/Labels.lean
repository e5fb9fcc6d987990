import Furthest.Reply
import Mathlib.Data.List.Sort

/-!
# Sets of Labels

The labels of a record are a set of texts, kept as a strictly increasing list. Such a list
is determined by its elements, which is what makes the union of labels independent of the
order in which failures are merged.

## Main results

* `Text.mem_sortedDistinct`, `Text.pairwise_sortedDistinct`: the list holds the same texts
  and is strictly increasing.
* `Text.sortedDistinct_congr`: it depends on nothing else.
* `Record.unionTexts_sortedDistinct`: the union of two such lists is such a list again.
* `Record.mem_unionTexts`: the union of any two lists holds the texts of both.
* `Record.unionTexts_of_subset`: what is in such a list already adds nothing to it.
-/

namespace Furthest

namespace Text

@[simp] theorem mem_insertSorted {x z : Text} {ys : List Text} :
    z ∈ insertSorted x ys ↔ z = x ∨ z ∈ ys := by
  induction ys with
  | nil => simp [insertSorted]
  | cons y ys ih =>
      simp only [insertSorted]
      split
      · next h => subst h; simp
      · split
        · simp
        · simp only [List.mem_cons, ih]
          grind

/-- A strictly increasing list stays so. -/
theorem pairwise_insertSorted {x : Text} {ys : List Text} (h : ys.Pairwise (· < ·)) :
    (insertSorted x ys).Pairwise (· < ·) := by
  induction ys with
  | nil => simp [insertSorted]
  | cons y ys ih =>
      obtain ⟨hy, hys⟩ := List.pairwise_cons.mp h
      simp only [insertSorted]
      split
      · exact h
      · next hne =>
        split
        · next hlt =>
          refine List.pairwise_cons.mpr ⟨fun z hz => ?_, h⟩
          rcases List.mem_cons.mp hz with rfl | hz
          · exact hlt
          · exact List.lt_trans hlt (hy z hz)
        · next hge =>
          have hlt : y < x :=
            (List.le_iff_lt_or_eq.mp (List.not_lt.mp hge)).resolve_right (Ne.symm hne)
          refine List.pairwise_cons.mpr ⟨fun z hz => ?_, ih hys⟩
          rcases mem_insertSorted.mp hz with rfl | hz
          · exact hlt
          · exact hy z hz

@[simp] theorem mem_sortedDistinct {z : Text} {xs : List Text} :
    z ∈ sortedDistinct xs ↔ z ∈ xs := by
  induction xs with
  | nil => simp [sortedDistinct]
  | cons x xs ih =>
      rw [sortedDistinct, List.foldr_cons, mem_insertSorted, ← sortedDistinct,
        ih, List.mem_cons]

/-- The texts of a list in increasing order, each once. -/
theorem pairwise_sortedDistinct (xs : List Text) : (sortedDistinct xs).Pairwise (· < ·) := by
  induction xs with
  | nil => exact List.Pairwise.nil
  | cons x xs ih => exact pairwise_insertSorted ih

/-- A strictly increasing list is determined by its elements. -/
theorem eq_sortedDistinct {xs ys : List Text} (h : ys.Pairwise (· < ·))
    (hm : ∀ z, z ∈ ys ↔ z ∈ xs) : ys = sortedDistinct xs :=
  h.eq_of_mem_iff (pairwise_sortedDistinct xs) fun z => by rw [hm, mem_sortedDistinct]

/-- Only the elements matter. -/
theorem sortedDistinct_congr {xs ys : List Text} (h : ∀ z, z ∈ xs ↔ z ∈ ys) :
    sortedDistinct xs = sortedDistinct ys :=
  eq_sortedDistinct (pairwise_sortedDistinct xs) fun z => by rw [mem_sortedDistinct, h]

/-- Only the empty list has no elements. -/
theorem sortedDistinct_eq_nil {xs : List Text} : sortedDistinct xs = [] ↔ xs = [] := by
  simp only [List.eq_nil_iff_forall_not_mem, mem_sortedDistinct]

end Text

namespace Record

variable {xs ys : List Text}

@[simp] theorem unionTexts_nil (xs : List Text) : unionTexts xs [] = xs := by
  cases xs <;> rfl

@[simp] theorem nil_unionTexts (ys : List Text) : unionTexts [] ys = ys := rfl

/-- Only where both sides have labels are they put in order. -/
theorem unionTexts_of_ne_nil (hx : xs ≠ []) (hy : ys ≠ []) :
    unionTexts xs ys = Text.sortedDistinct (xs ++ ys) := by
  simp [unionTexts, hx, hy]

/-- The union holds the labels of both sides, whether they are in order or not. -/
@[simp] theorem mem_unionTexts {z : Text} : z ∈ unionTexts xs ys ↔ z ∈ xs ∨ z ∈ ys := by
  by_cases hx : xs = []
  · simp [hx]
  · by_cases hy : ys = []
    · simp [hy]
    · rw [unionTexts_of_ne_nil hx hy, Text.mem_sortedDistinct, List.mem_append]

/-- The union of two sets of labels is the set of the labels of both. -/
theorem unionTexts_sortedDistinct (xs ys : List Text) :
    unionTexts (Text.sortedDistinct xs) (Text.sortedDistinct ys)
      = Text.sortedDistinct (xs ++ ys) := by
  by_cases hx : xs = []
  · subst hx
    rfl
  · by_cases hy : ys = []
    · subst hy
      rw [List.append_nil]
      exact unionTexts_nil _
    · rw [unionTexts_of_ne_nil (mt Text.sortedDistinct_eq_nil.mp hx)
        (mt Text.sortedDistinct_eq_nil.mp hy)]
      exact Text.sortedDistinct_congr fun z => by simp

/-- Labels that are in a set already add nothing to it. -/
theorem unionTexts_of_subset (hx : xs.Pairwise (· < ·)) (h : ys ⊆ xs) :
    unionTexts xs ys = xs ∧ unionTexts ys xs = xs := by
  by_cases hy : ys = []
  · simp [hy]
  · have hne : xs ≠ [] := fun hnil => hy (List.subset_nil.mp (hnil ▸ h))
    rw [unionTexts_of_ne_nil hne hy, unionTexts_of_ne_nil hy hne]
    constructor
    · exact (Text.eq_sortedDistinct hx fun z => by
        rw [List.mem_append, or_iff_left_of_imp (@h z)]).symm
    · exact (Text.eq_sortedDistinct hx fun z => by
        rw [List.mem_append, or_iff_right_of_imp (@h z)]).symm

end Record

end Furthest
