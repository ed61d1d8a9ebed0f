import Mathlib.Data.List.Count
import Mathlib.Data.List.Perm.Basic

/-! Tables derived slot by slot: a refresh deletes the rows of a slot and queries them anew. -/

namespace Pocketdex

variable {ρ σ : Type} [DecidableEq σ] {slot : ρ → σ}

/-- A query for the rows of a slot, which belong to it. -/
structure SlotQuery (slot : ρ → σ) where
  rows : σ → List ρ
  owned : ∀ value, ∀ row ∈ rows value, slot row = value

/-- The stored rows of a slot. -/
def slotRows (slot : ρ → σ) (value : σ) (rows : List ρ) : List ρ :=
  rows.filter fun row => slot row = value

namespace SlotQuery

/-- Deleting the rows of a slot and inserting what the query gives for it. -/
def refresh (query : SlotQuery slot) (value : σ) (rows : List ρ) : List ρ :=
  (rows.filter fun row => slot row ≠ value) ++ query.rows value

/-- Refreshing slots one after the other. -/
def refreshAll (query : SlotQuery slot) (values : List σ) (rows : List ρ) : List ρ :=
  values.foldl (fun rows value => query.refresh value rows) rows

variable {query : SlotQuery slot} {values others : List σ} {rows : List ρ}

/-- A refresh replaces the rows of its slot, and leaves those of the others alone. -/
theorem slotRows_refresh (value other : σ) :
    slotRows slot other (query.refresh value rows) =
      if other = value then query.rows value else slotRows slot other rows := by
  -- What was deleted is exactly the slot, and what is inserted belongs to it.
  unfold slotRows refresh
  rw [List.filter_append, List.filter_filter]
  split
  · rename_i same
    subst same
    have gone : (rows.filter fun row => decide (slot row = other) && decide (slot row ≠ other)) =
        [] := by
      apply List.filter_eq_nil_iff.mpr
      intro row _
      by_cases inside : slot row = other <;> simp [inside]
    rw [gone, List.nil_append]
    exact List.filter_eq_self.mpr fun row member => decide_eq_true (query.owned other row member)
  · rename_i different
    have foreign : (query.rows value).filter (fun row => decide (slot row = other)) = [] := by
      apply List.filter_eq_nil_iff.mpr
      intro row member
      rw [query.owned value row member, decide_eq_true_eq]
      exact fun same => different same.symm
    rw [foreign, List.append_nil]
    apply List.filter_congr
    intro row _
    by_cases inside : slot row = other
    · simp [inside, different]
    · simp [inside]

/-- After any number of refreshes a slot holds its query, or what it held when none was its own. -/
theorem slotRows_refreshAll (value : σ) :
    slotRows slot value (query.refreshAll values rows) =
      if value ∈ values then query.rows value else slotRows slot value rows := by
  -- Only the last refresh of the slot counts, and all of them insert the same rows.
  induction values generalizing rows with
  | nil => simp [refreshAll]
  | cons first rest ih =>
    have later := @ih (query.refresh first rows)
    rw [slotRows_refresh] at later
    refine later.trans ?_
    -- A slot that is refreshed again later is what that refresh leaves.
    by_cases again : value ∈ rest
    · simp [again]
    · by_cases same : value = first
      · subst same
        simp [again]
      · simp [again, same]

end SlotQuery

/-- Tables with the same rows in every slot have the same rows. -/
theorem perm_of_slotRows {first second : List ρ}
    (same : ∀ value, slotRows slot value first = slotRows slot value second) :
    first.Perm second := by
  -- A row is counted in its own slot.
  classical
  apply List.perm_iff_count.mpr
  intro row
  have counted : ∀ rows : List ρ, (slotRows slot (slot row) rows).count row = rows.count row :=
    fun rows => List.count_filter (by simp)
  rw [← counted first, ← counted second, same]

namespace SlotQuery

variable {query : SlotQuery slot} {values others : List σ} {rows : List ρ}

/-- Refreshing slots after others is refreshing both. -/
theorem refreshAll_append :
    query.refreshAll (values ++ others) rows =
      query.refreshAll others (query.refreshAll values rows) := List.foldl_append ..

/-- Neither the order of refreshes nor their number matters, only which slots were refreshed. -/
theorem refreshAll_perm (same : ∀ value, value ∈ values ↔ value ∈ others) :
    (query.refreshAll values rows).Perm (query.refreshAll others rows) := by
  apply @perm_of_slotRows ρ σ _ slot
  intro value
  rw [slotRows_refreshAll, slotRows_refreshAll]
  simp only [same]

/-- Refreshing slots that hold their query changes nothing. -/
theorem refreshAll_current
    (current : ∀ value ∈ values, slotRows slot value rows = query.rows value) :
    (query.refreshAll values rows).Perm rows := by
  apply @perm_of_slotRows ρ σ _ slot
  intro value
  rw [slotRows_refreshAll]
  split
  · rename_i refreshed
    exact (current value refreshed).symm
  · rfl

end SlotQuery

end Pocketdex
