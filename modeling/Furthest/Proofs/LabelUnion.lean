import Furthest.Proofs.Labels

/-!
# The Union of Labels Is Not Empty

A record of a failure always has a label. Merging records keeps that, whatever the labels
are: the union of two lists of labels is not empty unless both of them are. For texts this
is clear, as the union holds all of them. Other values are listed in the order of the slots
of a hash table and then sorted, so it has to be shown that neither the table nor the sort
loses all of them.

## Main results

* `Value.Table.union_entries_ne_nil`: the union of two tables is not empty if the first one
  is not.
* `Value.sort_ne_nil`: sorting does not empty a list.
* `Record.unionExpected_ne_nil`: the union of labels is not empty if one side is not.
-/

namespace Furthest

namespace Value

namespace Table

/-! ### Tables -/

/-- Some slot of a table is taken. -/
def Taken (t : Table) : Prop := ∃ e, some e ∈ t

theorem entries_ne_nil {t : Table} : t.entries ≠ [] ↔ t.Taken := by
  have hmem : ∀ e, e ∈ t.entries ↔ some e ∈ t := fun e => by simp [entries]
  constructor
  · intro h
    obtain ⟨e, he⟩ := List.exists_mem_of_ne_nil _ h
    exact ⟨e, (hmem e).mp he⟩
  · rintro ⟨e, he⟩
    exact List.ne_nil_of_mem ((hmem e).mpr he)

theorem freeFrom?_lt {t : Table} {i slot : Nat} (h : freeFrom? t i = some slot) :
    slot < t.length := by
  obtain ⟨k, -, hk⟩ := List.exists_of_findSome?_eq_some h
  split at hk
  · next hs => exact Option.some.inj hk ▸ (List.getElem?_eq_some_iff.mp hs).1
  · cases hk

theorem slotFrom_lt {t : Table} (fuel : Nat) {i : Nat} (bits : Hash) (h : i < t.length) :
    slotFrom t fuel i bits < t.length := by
  induction fuel generalizing i bits with
  | zero => exact h
  | succ fuel ih =>
      simp only [slotFrom]
      split
      · next hs => exact freeFrom?_lt hs
      · exact ih _ (Nat.mod_lt _ (by omega))

@[simp] theorem length_place (t : Table) (e : Entry) : (place t e).length = t.length := by
  simp [place]

/-- A new entry takes a slot. -/
theorem taken_place {t : Table} (e : Entry) (h : 0 < t.length) : (place t e).Taken :=
  ⟨e, List.mem_set (slotFrom_lt _ _ (Nat.mod_lt _ h)) _⟩

theorem length_foldl_place (es : List Entry) (t : Table) :
    (es.foldl place t).length = t.length := by
  induction es generalizing t with
  | nil => rfl
  | cons e es ih => rw [List.foldl_cons, ih, length_place]

theorem taken_foldl_place {es : List Entry} {t : Table} (h : es ≠ []) (ht : 0 < t.length) :
    (es.foldl place t).Taken := by
  induction es generalizing t with
  | nil => exact absurd rfl h
  | cons e es ih =>
      by_cases hes : es = []
      · subst hes
        exact taken_place e ht
      · exact ih hes (by simpa using ht)

theorem sizeAbove_pos (n fuel : Nat) {size : Nat} (h : 0 < size) :
    0 < sizeAbove n fuel size := by
  induction fuel generalizing size with
  | zero => exact h
  | succ fuel ih =>
      simp only [sizeAbove]
      split
      · exact ih (by omega)
      · exact h

/-- The entries of a table that is not empty, moved to another table. -/
theorem moved {t : Table} (h : t.Taken) (n fuel : Nat) :
    (t.entries.foldl place (empty (sizeAbove n fuel 8))).Taken
      ∧ 0 < (t.entries.foldl place (empty (sizeAbove n fuel 8))).length := by
  have hpos : 0 < (empty (sizeAbove n fuel 8)).length := by
    simpa [empty] using sizeAbove_pos n fuel (by omega : 0 < 8)
  exact ⟨taken_foldl_place (entries_ne_nil.mpr h) hpos, by rwa [length_foldl_place]⟩

/-- A table to which an entry was added is not empty. -/
theorem taken_add {t : Table} (e : Entry) (h : 0 < t.length) :
    (add t e).Taken ∧ 0 < (add t e).length := by
  have hp := taken_place e h
  simp only [add]
  split
  · exact ⟨hp, by simpa using h⟩
  · exact moved hp _ _

theorem taken_foldl_add {es : List Entry} {t : Table} (h : es ≠ [] ∨ t.Taken)
    (ht : 0 < t.length) :
    (es.foldl add t).Taken ∧ 0 < (es.foldl add t).length := by
  induction es generalizing t with
  | nil => exact ⟨h.resolve_left fun hn => hn rfl, ht⟩
  | cons e es ih =>
      obtain ⟨h₁, h₂⟩ := taken_add e ht
      exact ih (.inr h₁) h₂

/-- Making room loses no entries. -/
theorem taken_reserve {t : Table} (h : t.Taken) (ht : 0 < t.length) (n : Nat) :
    (reserve t n).Taken ∧ 0 < (reserve t n).length := by
  simp only [reserve]
  split
  · exact ⟨h, ht⟩
  · exact moved h _ _

theorem length_reserve_empty (n : Nat) : 0 < ((empty 8).reserve n).length := by
  simp only [reserve]
  split
  · simp [empty]
  · rw [length_foldl_place]
    simpa [empty] using sizeAbove_pos _ _ (by omega : 0 < 8)

/-- **The union of two tables is not empty if the first one is not.** -/
theorem union_entries_ne_nil {t u : Table} (h : t.Taken) (ht : 0 < t.length) :
    (t.union u).entries ≠ [] := by
  rw [entries_ne_nil, union]
  split
  · exact h
  · have hcopy : ∀ room : Table, 0 < room.length →
        (if room.length = t.length then t else t.entries.foldl place room).Taken
          ∧ 0 < (if room.length = t.length then t else t.entries.foldl place room).length := by
      intro room hroom
      split
      · exact ⟨h, ht⟩
      · exact ⟨taken_foldl_place (entries_ne_nil.mpr h) hroom, by rwa [length_foldl_place]⟩
    obtain ⟨h₁, h₂⟩ := hcopy _ (length_reserve_empty t.entries.length)
    obtain ⟨h₃, h₄⟩ := taken_reserve h₁ h₂ u.entries.length
    exact (taken_foldl_add (.inr h₃) h₄).1

end Table

/-! ### Sets of values -/

/-- Leaving out repetitions does not empty a list. -/
theorem distinct_ne_nil {vs : List Value} (h : vs ≠ []) : distinct vs ≠ [] := by
  have hseen : ∀ (vs seen : List Value), vs ≠ [] ∨ seen ≠ [] →
      vs.foldl (fun seen v => if v.member seen then seen else seen ++ [v]) seen ≠ [] := by
    intro vs
    induction vs with
    | nil => exact fun seen h => h.resolve_left fun hn => hn rfl
    | cons v vs ih =>
        intro seen _
        refine ih _ (.inr ?_)
        change (if v.member seen then seen else seen ++ [v]) ≠ []
        split
        · next hm =>
          rintro rfl
          simp [member] at hm
        · simp
  exact hseen vs [] (.inl h)

theorem length_hashAll? {vs : List Value} {hs : List Hash} (h : hashAll? vs = some hs) :
    hs.length = vs.length := by
  induction vs generalizing hs with
  | nil =>
      obtain rfl : [] = hs := Option.some.inj (by simpa only [hashAll?] using h)
      rfl
  | cons v vs ih =>
      simp only [hashAll?] at h
      split at h
      · next hs' _ hvs =>
        obtain rfl := Option.some.inj h
        rw [List.length_cons, List.length_cons, ih hvs]
      · cases h

/-- The union of two sets is not empty if the first one is not. -/
theorem unionOrder_ne_nil {vs ws : List Value} (h : vs ≠ []) : unionOrder vs ws ≠ [] := by
  simp only [unionOrder]
  split
  · next es fs he _ =>
    obtain ⟨hs, hh, rfl⟩ := Option.map_eq_some_iff.mp he
    have hne : hs.zip (distinct vs) ≠ [] := by
      have hd := distinct_ne_nil h
      have hl := length_hashAll? hh
      simp only [ne_eq, List.zip_eq_nil_iff, not_or]
      exact ⟨fun hn => hd (List.eq_nil_of_length_eq_zero (by rw [← hl, hn]; rfl)), hd⟩
    have hpos : 0 < (Table.empty 8).length := by simp [Table.empty]
    obtain ⟨h₁, h₂⟩ := Table.taken_foldl_add (.inl hne) hpos
    rw [ne_eq, List.map_eq_nil_iff]
    exact Table.union_entries_ne_nil h₁ h₂
  · exact distinct_ne_nil (by simp [h])

theorem insertInOrder_ne_nil {sorted rest : List Value} {v : Value}
    (h : insertInOrder sorted v = .ok rest) : rest ≠ [] := by
  simp only [insertInOrder] at h
  cases hp : placeOf v sorted (sorted.length + 1) 0 sorted.length with
  | error fault => rw [hp] at h; cases h
  | ok i =>
      rw [hp] at h
      rw [← Except.ok.inj h]
      simp

/-- Inserting values into a list does not empty it. -/
theorem foldlM_insertInOrder_ne_nil {start ws : List Value} (vs : List Value) (h : start ≠ [])
    (hw : vs.foldlM insertInOrder start = .ok ws) : ws ≠ [] := by
  induction vs generalizing start with
  | nil =>
      obtain rfl : start = ws := Except.ok.inj hw
      exact h
  | cons v vs ih =>
      rw [List.foldlM_cons] at hw
      cases hi : insertInOrder start v with
      | error fault => rw [hi] at hw; cases hw
      | ok next =>
          rw [hi] at hw
          exact ih (insertInOrder_ne_nil hi) hw

/-- **Sorting does not empty a list.** -/
theorem sort_ne_nil {vs ws : List Value} (h : vs ≠ []) (hs : sort vs = .ok ws) : ws ≠ [] := by
  match vs, h, hs with
  | [v], h, hs =>
      obtain rfl : [v] = ws := Except.ok.inj hs
      exact h
  | u :: v :: vs, _, hs =>
      simp only [sort] at hs
      cases hd : less v u with
      | error fault => rw [hd] at hs; cases hs
      | ok decreasing =>
          rw [hd] at hs
          cases hr : splitRun decreasing u (v :: vs) with
          | error fault => simp only [bind, Except.bind, hr] at hs; cases hs
          | ok runs =>
              simp only [bind, Except.bind, hr] at hs
              refine foldlM_insertInOrder_ne_nil runs.2 ?_ hs
              split <;> simp

/-- The sorted union of two lists is not empty if the first one is not. -/
theorem sortedUnion_ne_nil {vs ws us : List Value} (h : vs ≠ [])
    (hu : sortedUnion vs ws = .ok us) : us ≠ [] := by
  simp only [sortedUnion] at hu
  split at hu
  · cases hu
  · exact sort_ne_nil (unionOrder_ne_nil h) hu

end Value

namespace Record

/-- There are as many texts as labels. -/
theorem length_texts? {labels : List Label} {ts : List Text} (h : texts? labels = some ts) :
    ts.length = labels.length := by
  induction labels generalizing ts with
  | nil =>
      obtain rfl : [] = ts := Option.some.inj h
      rfl
  | cons label labels ih =>
      cases label with
      | text t =>
          obtain ⟨us, hu, rfl⟩ := Option.map_eq_some_iff.mp (by simpa only [texts?] using h)
          rw [List.length_cons, List.length_cons, ih hu]
      | _ => cases h

/-- **The union of labels is not empty if one side is not.** -/
theorem unionExpected_ne_nil {xs ys zs : List Label} (h : xs ≠ [] ∨ ys ≠ [])
    (hz : unionExpected xs ys = .ok zs) : zs ≠ [] := by
  simp only [unionExpected] at hz
  split at hz
  · next hx =>
    obtain rfl : ys = zs := Except.ok.inj hz
    exact h.resolve_left fun hn => hn (List.isEmpty_iff.mp hx)
  next hx =>
  have hxs : xs ≠ [] := fun hn => hx (List.isEmpty_iff.mpr hn)
  split at hz
  · obtain rfl : xs = zs := Except.ok.inj hz
    exact hxs
  split at hz
  · next ts ht =>
    obtain rfl := Except.ok.inj hz
    rw [ne_eq, List.map_eq_nil_iff, Text.sortedDistinct_eq_nil]
    rintro rfl
    have hl := length_texts? ht
    rw [List.length_append] at hl
    exact hxs (List.eq_nil_of_length_eq_zero (by simp at hl; omega))
  · exact Value.sortedUnion_ne_nil hxs hz

end Record

end Furthest
