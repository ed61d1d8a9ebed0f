import Pocketdex.Base.Versions

/-! The writes of a block to a table of row versions, and the heights before it, which they keep. -/

namespace Pocketdex

/-- A write of a block: a record is saved, versions are closed, versions of the block itself are
deleted, or new ones are inserted with the block they name. -/
inductive Write (ρ : Type) where
  | save (data : ρ)
  | close (selects : ρ → Bool)
  | destroy (selects : Row ρ → Bool)
  | insert (docs : List (ρ × Option ℕ))

/-- What a version shows of the heights before one. -/
def Row.cut {ρ : Type} (height : ℕ) (row : Row ρ) : Row ρ :=
  if row.blockRange.upper.all (height < ·) then row.close height else row

/-- The records that are shown at a height. -/
def shownAt {ρ : Type} (height : ℕ) (rows : List (Row ρ)) : List ρ :=
  (rows.filter fun row => row.openAt height).map Row.data

/-- A table as it was before a height. -/
def rowsBefore {ρ : Type} (height : ℕ) (rows : List (Row ρ)) : List (Row ρ) :=
  (rows.filter fun row => row.blockRange.lower < height).map (Row.cut height)

section

variable {ρ κ : Type} [DecidableEq κ] (key : ρ → κ)

/-- The rows after a write at a height. -/
def Write.perform (height : ℕ) (rows : List (Row ρ)) : Write ρ → List (Row ρ)
  | save data => storeSave key height data rows
  | close selects => closeWhere selects height rows
  | destroy selects =>
    rows.filter fun row => !(selects row && decide (row.blockRange.lower = height))
  | insert docs => rows ++ docs.map fun doc => ⟨doc.1, doc.2, ⟨height, none⟩⟩

/-- The rows after all writes of a block. -/
def performWrites (height : ℕ) (writes : List (Write ρ)) (rows : List (Row ρ)) : List (Row ρ) :=
  writes.foldl (Write.perform key height) rows

end

variable {ρ κ : Type} [DecidableEq κ] {key : ρ → κ} {height next : ℕ} {rows : List (Row ρ)}

@[simp] theorem Row.cut_data (row : Row ρ) : (row.cut height).data = row.data := by
  unfold Row.cut
  split <;> rfl

@[simp] theorem Row.cut_lower (row : Row ρ) :
    (row.cut height).blockRange.lower = row.blockRange.lower := by
  unfold Row.cut
  split <;> rfl

/-- Cutting a version keeps it visible wherever it was before the height. -/
theorem Row.cut_openAt {past : ℕ} (early : past < height) (row : Row ρ) :
    (row.cut height).openAt past = row.openAt past := by
  -- A version that is cut has no end up to the height.
  unfold Row.cut
  split
  · rename_i endless
    cases upper : row.blockRange.upper with
    | none =>
      simp only [Row.openAt, Row.close, BlockRange.contains, upper, Option.all_some, early,
        decide_true, Option.all_none]
      rfl
    | some ended =>
      simp only [upper, Option.all_some, decide_eq_true_eq] at endless
      have outlasts : past < ended := by omega
      simp only [Row.openAt, Row.close, BlockRange.contains, upper, Option.all_some, early,
        outlasts, decide_true]
      rfl
  · rfl

/-- Closing a version at a height or later is not seen before the height. -/
theorem Row.cut_close (later : height ≤ next) {row : Row ρ} (visible : row.openAt next = true) :
    (row.close next).cut height = row.cut height := by
  -- The version had no end up to the later height, so it is cut either way.
  have endless : row.blockRange.upper.all (next < ·) = true :=
    (Bool.and_eq_true_iff.mp visible).2
  have cutting : row.blockRange.upper.all (height < ·) = true := by
    cases upper : row.blockRange.upper with
    | none => rfl
    | some ended =>
      rw [upper] at endless
      simp only [Option.all_some, decide_eq_true_eq] at endless ⊢
      omega
  rw [Row.cut, Row.cut, if_pos cutting]
  by_cases same : height = next
  · subst same
    simp [Row.close]
  · have before : height < next := by omega
    simp [Row.close, before]

/-- Rows that begin at a height or later are not seen before it. -/
theorem rowsBefore_append {added : List (Row ρ)}
    (late : ∀ row ∈ added, height ≤ row.blockRange.lower) :
    rowsBefore height (rows ++ added) = rowsBefore height rows := by
  have none : (added.filter fun row => decide (row.blockRange.lower < height)) = [] := by
    apply List.filter_eq_nil_iff.mpr
    intro row member
    have begun := late row member
    rw [decide_eq_true_eq]
    omega
  rw [rowsBefore, List.filter_append, none, List.append_nil, rowsBefore]

/-- Closing versions is not seen before the height they are closed at. -/
theorem rowsBefore_closeWhere (later : height ≤ next) (selects : ρ → Bool) :
    rowsBefore height (closeWhere selects next rows) = rowsBefore height rows := by
  -- Closing keeps where a version begins, and what the cut leaves of it.
  unfold rowsBefore closeWhere
  rw [List.filter_map, List.map_map]
  have begun : ((fun row : Row ρ => decide (row.blockRange.lower < height)) ∘ fun row =>
      if selects row.data && row.openAt next then row.close next else row) =
      fun row => decide (row.blockRange.lower < height) := by
    funext row
    simp only [Function.comp_apply]
    split <;> rfl
  rw [begun]
  apply List.map_congr_left
  intro row _
  simp only [Function.comp_apply]
  split
  · rename_i closed
    exact Row.cut_close later (Bool.and_eq_true_iff.mp closed).2
  · rfl

/-- Deleting versions that begin at a height or later is not seen before it. -/
theorem rowsBefore_filter {kept : Row ρ → Bool}
    (late : ∀ row ∈ rows, kept row = false → height ≤ row.blockRange.lower) :
    rowsBefore height (rows.filter kept) = rowsBefore height rows := by
  unfold rowsBefore
  rw [List.filter_filter]
  congr 1
  apply List.filter_congr
  intro row member
  cases stays : kept row with
  | true => rw [Bool.and_true]
  | false =>
    have begun := late row member stays
    have hidden : ¬row.blockRange.lower < height := by omega
    simp [hidden]

/-- A write of a block is not seen before the block. -/
theorem Write.rowsBefore_perform (later : height ≤ next) (write : Write ρ) :
    rowsBefore height (write.perform key next rows) = rowsBefore height rows := by
  cases write with
  | save data =>
    -- Saving deletes versions of the block, closes older ones, and begins a new one.
    rw [Write.perform, storeSave, rowsBefore_append fun row member => by
      rw [List.mem_singleton.mp member]; exact later]
    rw [rowsBefore_closeWhere later]
    refine rowsBefore_filter fun row _ removed => ?_
    simp only [Bool.not_eq_false', Bool.and_eq_true, decide_eq_true_eq] at removed
    omega
  | close selects => exact rowsBefore_closeWhere later selects
  | destroy selects =>
    refine rowsBefore_filter fun row _ removed => ?_
    simp only [Bool.not_eq_false', Bool.and_eq_true, decide_eq_true_eq] at removed
    omega
  | insert docs =>
    refine rowsBefore_append fun row member => ?_
    obtain ⟨doc, -, rfl⟩ := List.mem_map.mp member
    exact later

/-- No write of a block is seen before the block. -/
theorem rowsBefore_performWrites (later : height ≤ next) (writes : List (Write ρ)) :
    rowsBefore height (performWrites key next writes rows) = rowsBefore height rows := by
  induction writes generalizing rows with
  | nil => rfl
  | cons write rest ih =>
    rw [performWrites, List.foldl_cons]
    exact ih.trans (write.rowsBefore_perform later)

/-- The records shown at a height are the same in the table before any later one. -/
theorem shownAt_rowsBefore {past : ℕ} (early : past < height) :
    shownAt past (rowsBefore height rows) = shownAt past rows := by
  -- A visible version begins in time, and the cut keeps its data.
  unfold shownAt rowsBefore
  rw [List.filter_map, List.map_map, List.filter_filter]
  have data : (Row.data ∘ Row.cut height : Row ρ → ρ) = Row.data := by
    funext row
    exact row.cut_data
  rw [data]
  congr 1
  apply List.filter_congr
  intro row _
  simp only [Function.comp_apply, Row.cut_openAt early]
  cases shown : row.openAt past with
  | false => simp
  | true =>
    have begun : row.blockRange.lower ≤ past :=
      of_decide_eq_true (Bool.and_eq_true_iff.mp shown).1
    have inTime : row.blockRange.lower < height := by omega
    simp [inTime]

/-- Tables that agree before a height show the same records at every earlier one. -/
theorem shownAt_congr {first second : List (Row ρ)} {past : ℕ} (early : past < height)
    (same : rowsBefore height first = rowsBefore height second) :
    shownAt past first = shownAt past second := by
  rw [← shownAt_rowsBefore early, same, shownAt_rowsBefore early]

end Pocketdex
