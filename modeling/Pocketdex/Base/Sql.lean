import Mathlib.Algebra.BigOperators.Group.List.Basic
import Mathlib.Algebra.BigOperators.Ring.List
import Mathlib.Algebra.Ring.Int.Defs
import Mathlib.Data.Finset.Card
import Mathlib.Data.List.Dedup
import Mathlib.Tactic.Ring

/-! Queries over tables as lists of rows: joins, groups, and sums of columns that may be null. -/

namespace Pocketdex.Sql

/-- The sum of a column. Nulls are skipped, and a column without values has no sum. -/
def sum (column : List (Option Int)) : Option Int :=
  let values := column.filterMap fun value => value
  if values.isEmpty then none else some values.sum

/-- A sum of two values, which is null when one of them is. -/
def add (first second : Option Int) : Option Int := do
  let first ← first
  let second ← second
  return first + second

section

variable {α β κ : Type}

/-- The pairs of rows that match. -/
def innerJoin (on : α → β → Bool) (left : List α) (right : List β) : List (α × β) :=
  left.flatMap fun row => (right.filter (on row)).map fun other => (row, other)

/-- The pairs of rows that match, where a left row without a match is paired with null. -/
def leftJoin (on : α → β → Bool) (left : List α) (right : List β) : List (α × Option β) :=
  left.flatMap fun row =>
    let matching := right.filter (on row)
    if matching.isEmpty then [(row, none)] else matching.map fun other => (row, some other)

variable [DecidableEq κ]

/-- The rows of every key that some row has. -/
def groupBy (key : α → κ) (rows : List α) : List (κ × List α) :=
  (rows.map key).dedup.map fun value => (value, rows.filter fun row => key row = value)

/-- How many values a column has. -/
def countDistinct (column : List κ) : ℕ := column.dedup.length

end

/-- An array of all rows, which is null without any. -/
def jsonbAgg {α : Type} (rows : List α) : Option (List α) :=
  if rows.isEmpty then none else some rows

/-- The rows of an array, where null has none. -/
@[simp] theorem jsonbAgg_getD {α : Type} (rows : List α) : (jsonbAgg rows).getD [] = rows := by
  unfold jsonbAgg
  split
  · rename_i empty
    exact (List.isEmpty_iff.mp empty).symm
  · rfl

/-- Taking nulls for zero, a sum adds up its column. -/
theorem sum_getD (column : List (Option Int)) :
    (sum column).getD 0 = (column.map fun value => value.getD 0).sum := by
  -- Nulls are left out of a sum, which is what adding zero comes to.
  have values : (column.filterMap fun value => value).sum =
      (column.map fun value => value.getD 0).sum := by
    induction column with
    | nil => rfl
    | cons value rest ih =>
      cases value with
      | none => simpa using ih
      | some value => simp [ih]
  rw [← values]
  unfold sum
  simp only
  split
  · rename_i empty
    rw [List.isEmpty_iff.mp empty]
    rfl
  · rfl

/-- The sum of one value is that value. -/
@[simp] theorem sum_singleton (value : Option Int) : sum [value] = value := by
  cases value <;> simp [sum]

/-- Of values that are all there, the sum is missing only when there are none. -/
theorem sum_map_some {α : Type} (f : α → Int) (rows : List α) :
    sum (rows.map fun row => some (f row)) =
      if rows.isEmpty then none else some (rows.map f).sum := by
  have values : ((rows.map fun row => some (f row)).filterMap fun value => value) = rows.map f := by
    rw [List.filterMap_map]
    exact congrFun List.filterMap_eq_map rows
  unfold sum
  simp only [values, List.isEmpty_map]

/-- Taking a missing group for zero, a sum over a group adds up the rows of the group. -/
theorem sum_group {α κ γ : Type} {rows : List α} {key : κ} {value : γ} {figure : γ → Option Int}
    {f : α → Int} (summed : figure value = sum (rows.map fun row => some (f row))) :
    ((if rows.isEmpty then none else some (key, value)).bind fun group => figure group.2).getD 0 =
      (rows.map f).sum := by
  split
  · rename_i empty
    rw [List.isEmpty_iff.mp empty]
    rfl
  · rw [Option.bind_some, summed, sum_getD, List.map_map]
    rfl

section

variable {α β κ : Type} {on : α → β → Bool} {left : List α} {right : List β}

/-- A pair of rows is joined just when the rows match. -/
theorem mem_innerJoin {pair : α × β} :
    pair ∈ innerJoin on left right ↔ pair.1 ∈ left ∧ pair.2 ∈ right ∧ on pair.1 pair.2 = true := by
  obtain ⟨row, other⟩ := pair
  simp only [innerJoin, List.mem_flatMap, List.mem_map, List.mem_filter, Prod.mk.injEq]
  constructor
  · rintro ⟨first, inside, second, ⟨found, matching⟩, rfl, rfl⟩
    exact ⟨inside, found, matching⟩
  · rintro ⟨inside, found, matching⟩
    exact ⟨row, inside, other, ⟨found, matching⟩, rfl, rfl⟩

/-- Choosing joined pairs by their left row is choosing left rows. -/
theorem filter_innerJoin_fst (chosen : α → Bool) :
    (innerJoin on left right).filter (fun pair => chosen pair.1) =
      innerJoin on (left.filter chosen) right := by
  induction left with
  | nil => rfl
  | cons row rest ih =>
    unfold innerJoin at ih ⊢
    rw [List.flatMap_cons, List.filter_append, ih, List.filter_map, List.filter_cons]
    cases known : chosen row
    · simp [Function.comp_def, known]
    · simp [Function.comp_def, known]

/-- A column of the left table is summed with every row as often as it has a match. -/
theorem sum_innerJoin_fst (f : α → Int) :
    ((innerJoin on left right).map fun pair => f pair.1).sum =
      (left.map fun row => (right.countP (on row) : Int) * f row).sum := by
  induction left with
  | nil => rfl
  | cons row rest ih =>
    unfold innerJoin at ih ⊢
    rw [List.flatMap_cons, List.map_append, List.sum_append, ih, List.map_cons, List.sum_cons,
      List.map_map]
    congr 1
    -- All pairs of one row have its value.
    show ((right.filter (on row)).map fun _ => f row).sum = _
    rw [List.map_const', List.sum_replicate, List.countP_eq_length_filter]
    simp

/-- Rows of a join may be joined by one of their parts. -/
theorem innerJoin_map_left {γ : Type} (f : γ → α) (rows : List γ) :
    (innerJoin (fun row other => on (f row) other) rows right).map (fun pair => (f pair.1, pair.2)) =
      innerJoin on (rows.map f) right := by
  unfold innerJoin
  rw [List.map_flatMap, List.flatMap_map]
  simp only [List.map_map, Function.comp_def]

/-- Choosing joined pairs by their right row is choosing right rows. -/
theorem filter_innerJoin_snd (chosen : β → Bool) :
    (innerJoin on left right).filter (fun pair => chosen pair.2) =
      innerJoin on left (right.filter chosen) := by
  unfold innerJoin
  rw [List.filter_flatMap]
  refine List.flatMap_congr fun row _ => ?_
  rw [List.filter_map, List.filter_filter, List.filter_filter]
  simp only [Function.comp_def, Bool.and_comm]

/-- A column of the right table is summed with every row as often as it has a match. -/
theorem sum_innerJoin_snd (f : β → Int) :
    ((innerJoin on left right).map fun pair => f pair.2).sum =
      (right.map fun other => (left.countP (fun row => on row other) : Int) * f other).sum := by
  induction left with
  | nil => simp [innerJoin]
  | cons row rest ih =>
    have first : ((right.filter (on row)).map f).sum =
        (right.map fun other => if on row other then f other else 0).sum := by
      clear ih
      induction right with
      | nil => rfl
      | cons other others ih =>
        rw [List.filter_cons]
        cases known : on row other <;> simp [known, ih]
    unfold innerJoin at ih ⊢
    rw [List.flatMap_cons, List.map_append, List.sum_append, ih, List.map_map]
    show ((right.filter (on row)).map fun other => f other).sum + _ = _
    rw [first, ← List.sum_map_add]
    -- The first row adds its own match to those of the others.
    refine congrArg List.sum (List.map_congr_left fun other _ => ?_)
    rw [List.countP_cons]
    cases known : on row other
    · simp
    · push_cast
      simp only [if_true]
      ring

/-- Joined with one row, the left rows are those that match it. -/
theorem map_innerJoin_singleton (other : β) :
    (innerJoin on left [other]).map Prod.fst = left.filter fun row => on row other := by
  induction left with
  | nil => rfl
  | cons row rest ih =>
    unfold innerJoin at ih ⊢
    rw [List.flatMap_cons, List.map_append, ih, List.filter_cons, List.filter_cons]
    cases on row other <;> rfl

/-- Rows of either of two kinds are added up once, with those of both kinds once more. -/
theorem sum_filter_add (first second : α → Bool) (f : α → Int) (rows : List α) :
    ((rows.filter first).map f).sum + ((rows.filter second).map f).sum =
      ((rows.filter fun row => first row || second row).map f).sum +
        ((rows.filter fun row => first row && second row).map f).sum := by
  induction rows with
  | nil => rfl
  | cons row rest ih =>
    simp only [List.filter_cons]
    cases first row <;> cases second row <;>
      simp only [Bool.or_true, Bool.or_false, Bool.and_true, Bool.and_false, Bool.false_eq_true,
        if_true, if_false, List.map_cons, List.sum_cons] <;> omega

/-- Rows are added up once when they are added up by their key. -/
theorem sum_map_filter_key {M : Type} [AddCommMonoid M] [DecidableEq κ] {key : α → κ}
    {values : List κ} (distinct : values.Nodup) (weight : α → M) (rows : List α) :
    (values.map fun value => ((rows.filter fun row => key row = value).map weight).sum).sum =
      ((rows.filter fun row => key row ∈ values).map weight).sum := by
  induction rows with
  | nil => simp
  | cons row rest ih =>
    -- The first row belongs to its own key, and to no other one.
    have each : ∀ value, (((row :: rest).filter fun other => decide (key other = value)).map
        weight).sum = (if key row = value then weight row else 0) +
          ((rest.filter fun other => decide (key other = value)).map weight).sum := by
      intro value
      rw [List.filter_cons]
      by_cases here : key row = value <;> simp [here]
    have once : (values.map fun value => if key row = value then weight row else 0).sum =
        if key row ∈ values then weight row else 0 := by
      clear ih each
      induction values with
      | nil => simp
      | cons value others ih =>
        obtain ⟨apart, distinct⟩ := List.nodup_cons.mp distinct
        rw [List.map_cons, List.sum_cons, ih distinct]
        by_cases here : key row = value
        · subst here
          simp [apart]
        · simp [here]
    simp only [each]
    rw [List.sum_map_add, ih, once, List.filter_cons]
    by_cases listed : key row ∈ values <;> simp [listed]

variable [DecidableEq κ] {key : α → κ} {rows : List α}

/-- Columns with the same values have as many of them. -/
theorem countDistinct_congr {first second : List κ} (same : ∀ value, value ∈ first ↔ value ∈ second) :
    countDistinct first = countDistinct second := by
  unfold countDistinct
  rw [← List.card_toFinset, ← List.card_toFinset]
  congr 1
  ext value
  rw [List.mem_toFinset, List.mem_toFinset, same]

/-- A column has as many values as one with some of them just when it has no others. -/
theorem countDistinct_eq_iff {first second : List κ} (part : ∀ value ∈ first, value ∈ second) :
    countDistinct first = countDistinct second ↔ ∀ value ∈ second, value ∈ first := by
  constructor
  · intro same value member
    unfold countDistinct at same
    rw [← List.card_toFinset, ← List.card_toFinset] at same
    have equal := Finset.eq_of_subset_of_card_le
      (fun value inside => List.mem_toFinset.mpr (part value (List.mem_toFinset.mp inside))) same.ge
    rw [← List.mem_toFinset, equal, List.mem_toFinset]
    exact member
  · exact fun others => countDistinct_congr fun value => ⟨part value, others value⟩

/-- A key has a group just when a row has it. -/
theorem mem_keys_groupBy {value : κ} :
    value ∈ (groupBy key rows).map Prod.fst ↔ ∃ row ∈ rows, key row = value := by
  simp [groupBy, Function.comp_def]

/-- Every group has the rows of its key. -/
theorem mem_groupBy {group : κ × List α} (member : group ∈ groupBy key rows) :
    group.2 = rows.filter (fun row => key row = group.1) ∧ group.1 ∈ rows.map key := by
  obtain ⟨value, found, rfl⟩ := List.mem_map.mp member
  exact ⟨rfl, List.mem_dedup.mp found⟩

/-- Choosing a group by its key gives the rows of the key, if there are any. -/
theorem filter_groupBy (value : κ) :
    (groupBy key rows).filter (fun group => group.1 = value) =
      if (rows.filter fun row => key row = value).isEmpty then []
      else [(value, rows.filter fun row => key row = value)] := by
  unfold groupBy
  rw [List.filter_map]
  have same : ((fun group : κ × List α => decide (group.1 = value)) ∘
      fun value => (value, rows.filter fun row => key row = value)) =
      fun other => decide (other = value) := rfl
  rw [same, List.filter_eq]
  -- A value has one group if it has a row, and none otherwise.
  by_cases found : value ∈ (rows.map key).dedup
  · rw [List.count_eq_one_of_mem (List.nodup_dedup _) found]
    obtain ⟨row, inside, named⟩ := List.mem_map.mp (List.mem_dedup.mp found)
    have some : ¬(rows.filter fun row => decide (key row = value)).isEmpty = true := by
      rw [List.isEmpty_iff, List.filter_eq_nil_iff]
      exact fun none => none row inside (decide_eq_true named)
    rw [if_neg some]
    rfl
  · rw [List.count_eq_zero_of_not_mem found]
    have none : (rows.filter fun row => decide (key row = value)).isEmpty = true := by
      rw [List.isEmpty_iff, List.filter_eq_nil_iff]
      intro row inside named
      exact found (List.mem_dedup.mpr (List.mem_map.mpr ⟨row, inside, of_decide_eq_true named⟩))
    rw [if_pos none]
    rfl

/-- Rows that are their own key are groups of one row. -/
theorem groupBy_map_self {γ : Type} {values : List κ} (distinct : values.Nodup) (f : κ → γ) :
    groupBy Prod.fst (values.map fun value => (value, f value)) =
      values.map fun value => (value, [(value, f value)]) := by
  have keys : (values.map fun value => (value, f value)).map Prod.fst = values := by
    simp [Function.comp_def]
  unfold groupBy
  rw [keys, distinct.dedup]
  refine List.map_congr_left fun value member => ?_
  rw [List.filter_map]
  have same : ((fun row : κ × γ => decide (row.1 = value)) ∘ fun value => (value, f value)) =
      fun other => decide (other = value) := rfl
  rw [same, List.filter_eq, List.count_eq_one_of_mem distinct member]
  rfl

/-- Joining groups by their key pairs every left row with what its own group comes to. -/
theorem leftJoin_groupBy {γ δ : Type} (aggregate : κ → List α → γ) (keyOf : δ → κ)
    (left : List δ) :
    leftJoin (fun row group => decide (group.1 = keyOf row)) left
      ((groupBy key rows).map fun group => (group.1, aggregate group.1 group.2)) =
      left.map fun row => (row,
        if (rows.filter fun other => key other = keyOf row).isEmpty then none
        else some (keyOf row, aggregate (keyOf row)
          (rows.filter fun other => key other = keyOf row))) := by
  unfold leftJoin
  rw [← List.flatMap_singleton' (left.map _), List.flatMap_map]
  refine List.flatMap_congr fun row _ => ?_
  -- Aggregating keeps the values, so there is one group of each at most.
  have one : (((groupBy key rows).map fun group => (group.1, aggregate group.1 group.2)).filter
      fun group => decide (group.1 = keyOf row)) = ((groupBy key rows).filter
        fun group => group.1 = keyOf row).map fun group => (group.1, aggregate group.1 group.2) :=
    List.filter_map ..
  simp only [one, filter_groupBy]
  split <;> simp

end

end Pocketdex.Sql
