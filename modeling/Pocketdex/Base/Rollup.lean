import Pocketdex.Base.Sql

/-! Sums of sums: rows that are aggregated in two steps come to what they do in one. -/

namespace Pocketdex.Sql

/-- The sum of two columns skips the null one, if there is one. -/
def plus (first second : Option Int) : Option Int :=
  match first, second with
  | none, second => second
  | first, none => first
  | some first, some second => some (first + second)

@[simp] theorem plus_none (value : Option Int) : plus value none = value := by cases value <;> rfl

@[simp] theorem none_plus (value : Option Int) : plus none value = value := rfl

/-- Columns may be grouped in any way. -/
theorem plus_assoc (first second third : Option Int) :
    plus (plus first second) third = plus first (plus second third) := by
  cases first with
  | none => rfl
  | some first =>
    cases second with
    | none => rfl
    | some second =>
      cases third with
      | none => rfl
      | some third => simp only [plus, Int.add_assoc]

/-- The sum of a column adds up its values, one after the other. -/
theorem sum_cons (value : Option Int) (rest : List (Option Int)) :
    sum (value :: rest) = plus value (sum rest) := by
  -- A null is skipped, and a value is there from then on.
  cases value with
  | none => rfl
  | some value =>
    unfold sum
    simp only [List.filterMap_cons]
    cases values : rest.filterMap fun value => value with
    | nil => simp [plus]
    | cons first others => simp [plus]

/-- The sum of two columns. -/
theorem sum_append (first second : List (Option Int)) :
    sum (first ++ second) = plus (sum first) (sum second) := by
  induction first with
  | nil => rfl
  | cons value rest ih => rw [List.cons_append, sum_cons, ih, sum_cons, plus_assoc]

/-- Adding up parts of a column, and then their sums, adds up the column. -/
theorem sum_flatMap {α : Type} (parts : α → List (Option Int)) (items : List α) :
    sum (items.flatMap parts) = sum (items.map fun item => sum (parts item)) := by
  induction items with
  | nil => rfl
  | cons item rest ih => rw [List.flatMap_cons, sum_append, ih, List.map_cons, sum_cons]

/-- The order of a column does not matter. -/
theorem sum_perm {first second : List (Option Int)} (same : first.Perm second) :
    sum first = sum second := by
  -- Nulls are skipped in either order.
  have values := same.filterMap fun value => value
  unfold sum
  simp only [values.sum_eq, values.isEmpty_eq]

section

variable {α β κ γ : Type} [DecidableEq κ] {key : α → κ} {rows : List α}

/-- Every row is in the group of its key, and in no other one. -/
theorem flatMap_groupBy (key : α → κ) (rows : List α) :
    ((groupBy key rows).flatMap Prod.snd).Perm rows := by
  classical
  apply List.perm_iff_count.mpr
  intro row
  -- A row is counted in the group of its key only.
  have counted : ∀ values : List κ, values.Nodup →
      (values.flatMap fun value => rows.filter fun other => key other = value).count row =
        if key row ∈ values then rows.count row else 0 := by
    intro values distinct
    induction values with
    | nil => simp
    | cons value rest ih =>
      obtain ⟨apart, distinct⟩ := List.nodup_cons.mp distinct
      rw [List.flatMap_cons, List.count_append, ih distinct]
      by_cases here : key row = value
      · subst here
        rw [List.count_filter (by simp)]
        simp [apart]
      · have absent : row ∉ rows.filter fun other => decide (key other = value) := by
          simp [here]
        rw [List.count_eq_zero.mpr absent]
        simp [here]
  have groups : (groupBy key rows).flatMap Prod.snd =
      (rows.map key).dedup.flatMap fun value => rows.filter fun other => key other = value := by
    unfold groupBy
    rw [List.flatMap_map]
  rw [groups, counted _ (List.nodup_dedup _)]
  split
  · rfl
  · -- A row whose key no row has is no row.
    rename_i absent
    have missing : row ∉ rows := fun member =>
      absent (List.mem_dedup.mpr (List.mem_map_of_mem member))
    exact (List.count_eq_zero.mpr missing).symm

/-- The groups of some keys hold the rows of these keys. -/
theorem filter_groupBy_flatMap (chosen : κ → Bool) :
    (((groupBy key rows).filter fun group => chosen group.1).flatMap Prod.snd).Perm
      (rows.filter fun row => chosen (key row)) := by
  -- A group is chosen as a whole, by the key that all its rows have.
  have whole : ∀ groups : List (κ × List α), (∀ group ∈ groups, ∀ row ∈ group.2, key row = group.1) →
      (groups.filter fun group => chosen group.1).flatMap Prod.snd =
        (groups.flatMap Prod.snd).filter fun row => chosen (key row) := by
    intro groups owned
    induction groups with
    | nil => rfl
    | cons group rest ih =>
      have later := ih fun other member => owned other (List.mem_cons_of_mem _ member)
      have named := owned group List.mem_cons_self
      rw [List.flatMap_cons, List.filter_append, ← later, List.filter_cons]
      cases taken : chosen group.1 with
      | true =>
        have all : group.2.filter (fun row => chosen (key row)) = group.2 :=
          List.filter_eq_self.mpr fun row member => by rw [named row member, taken]
        rw [if_pos rfl, List.flatMap_cons, all]
      | false =>
        have none : group.2.filter (fun row => chosen (key row)) = [] :=
          List.filter_eq_nil_iff.mpr fun row member => by rw [named row member, taken]; simp
        rw [none, List.nil_append, if_neg (by simp)]
  rw [whole _ fun group member row inside => by
    rw [(mem_groupBy member).1] at inside
    exact of_decide_eq_true (List.mem_filter.mp inside).2]
  exact (flatMap_groupBy key rows).filter _

/-- Summing up the sums of the groups of some keys is summing up the rows of these keys. -/
theorem sum_groupBy (chosen : κ → Bool) (figure : α → Option Int) :
    sum (((groupBy key rows).filter fun group => chosen group.1).map fun group =>
      sum (group.2.map figure)) = sum ((rows.filter fun row => chosen (key row)).map figure) := by
  rw [← sum_flatMap fun group : κ × List α => group.2.map figure, ← List.map_flatMap]
  exact sum_perm ((filter_groupBy_flatMap chosen).map figure)

section

variable {ι ρ : Type} {items : List ι} (key) (base : ι → List α) (row : ι → κ × List α → ρ)
  (named : ρ → κ)

/-- Rows that sum up the groups of every item sum up, for chosen items and keys, to their rows. -/
theorem sum_rollup (names : ∀ item group, named (row item group) = group.1)
    (chosen : ι → κ → Bool) (column : ρ → Option Int) (figure : α → Option Int)
    (summed : ∀ item, ∀ group ∈ groupBy key (base item),
      column (row item group) = sum (group.2.map figure)) :
    sum (((items.flatMap fun item => (groupBy key (base item)).map fun group =>
        (row item group, item)).filter fun pair => chosen pair.2 (named pair.1)).map
          fun pair => column pair.1) =
      sum (((items.flatMap fun item => (base item).map fun single => (single, item)).filter
        fun pair => chosen pair.2 (key pair.1)).map fun pair => figure pair.1) := by
  rw [List.filter_flatMap, List.filter_flatMap, List.map_flatMap, List.map_flatMap,
    sum_flatMap, sum_flatMap]
  -- Item by item, the groups of the chosen keys hold their rows.
  refine congrArg sum (List.map_congr_left fun item _ => ?_)
  rw [List.filter_map, List.filter_map, List.map_map, List.map_map]
  simp only [Function.comp_def, names]
  refine Eq.trans ?_ (sum_groupBy (chosen item) figure)
  refine congrArg sum (List.map_congr_left fun group member => ?_)
  exact summed item group (List.mem_filter.mp member).1

/-- A key has such a row just when it is the key of a row of the item. -/
theorem exists_rollup {μ : Type} (names : ∀ item group, named (row item group) = group.1)
    (label : ι → κ → μ) (value : μ) :
    (∃ pair ∈ items.flatMap fun item => (groupBy key (base item)).map fun group =>
        (row item group, item), label pair.2 (named pair.1) = value) ↔
      ∃ pair ∈ items.flatMap fun item => (base item).map fun single => (single, item),
        label pair.2 (key pair.1) = value := by
  simp only [List.mem_flatMap, List.mem_map]
  constructor
  · rintro ⟨_, ⟨item, member, group, inside, rfl⟩, rfl⟩
    -- A group has the key of some row.
    obtain ⟨single, listed, same⟩ := List.mem_map.mp (mem_groupBy inside).2
    exact ⟨(single, item), ⟨item, member, single, listed, rfl⟩,
      congrArg (label item) (same.trans (names item group).symm)⟩
  · rintro ⟨_, ⟨item, member, single, listed, rfl⟩, rfl⟩
    -- The row is in the group of its key.
    have grouped : key single ∈ (groupBy key (base item)).map Prod.fst :=
      mem_keys_groupBy.mpr ⟨single, listed, rfl⟩
    obtain ⟨group, inside, same⟩ := List.mem_map.mp grouped
    exact ⟨(row item group, item), ⟨item, member, group, inside, rfl⟩,
      congrArg (label item) ((names item group).trans same)⟩

end

/-- Groups with the same keys and the same figures are the same, up to their order. -/
theorem groupBy_map_perm {other : β → κ} {others : List β} (figures : κ → List α → γ)
    (otherFigures : κ → List β → γ)
    (keys : ∀ value, (∃ row ∈ rows, key row = value) ↔ ∃ row ∈ others, other row = value)
    (same : ∀ value, (∃ row ∈ rows, key row = value) →
      figures value (rows.filter fun row => key row = value) =
        otherFigures value (others.filter fun row => other row = value)) :
    ((groupBy key rows).map fun group => figures group.1 group.2).Perm
      ((groupBy other others).map fun group => otherFigures group.1 group.2) := by
  unfold groupBy
  rw [List.map_map, List.map_map]
  -- The same keys are grouped by, in some order.
  have listed : (rows.map key).dedup.Perm (others.map other).dedup := by
    refine (List.perm_ext_iff_of_nodup (List.nodup_dedup _) (List.nodup_dedup _)).mpr fun value => ?_
    rw [List.mem_dedup, List.mem_dedup, List.mem_map, List.mem_map]
    exact keys value
  refine List.Perm.trans (List.Perm.of_eq (List.map_congr_left fun value member => ?_))
    (listed.map _)
  exact same value (List.mem_map.mp (List.mem_dedup.mp member))

omit [DecidableEq κ] in
/-- A join may be read from its right table as well. -/
theorem innerJoin_perm (on : α → β → Bool) (left : List α) (right : List β) :
    (innerJoin on left right).Perm
      (right.flatMap fun other => (left.filter fun row => on row other).map fun row =>
        (row, other)) := by
  unfold innerJoin
  induction left with
  | nil => simp
  | cons row rest ih =>
    -- The pairs of one row are spread over the rows it is joined with.
    have first : ((right.filter (on row)).map fun other => (row, other)) =
        right.flatMap fun other => if on row other then [(row, other)] else [] := by
      clear ih
      induction right with
      | nil => rfl
      | cons other others ih =>
        rw [List.filter_cons, List.flatMap_cons, ← ih]
        split <;> rfl
    rw [List.flatMap_cons, first]
    refine ((List.Perm.refl _).append ih).trans ((List.flatMap_append_perm right _ _).trans ?_)
    -- The first row is joined where it matches.
    refine List.Perm.of_eq (List.flatMap_congr fun other _ => ?_)
    rw [List.filter_cons]
    split <;> rfl

omit [DecidableEq κ] in
/-- A condition on the right row of a left join leaves no row without a match. -/
theorem filter_leftJoin (on : α → β → Bool) (here : α → Bool) (there : β → Bool) (left : List α)
    (right : List β) :
    (leftJoin on left right).filter (fun pair => here pair.1 && pair.2.any there) =
      (left.filter here).flatMap fun row =>
        (right.filter fun other => on row other && there other).map fun other =>
          (row, some other) := by
  -- Row by row: a row without a match is joined with nothing, which fulfills no condition.
  have first : ∀ row, (if (right.filter (on row)).isEmpty then [(row, none)] else
      (right.filter (on row)).map fun other => (row, some other)).filter
        (fun pair => here pair.1 && pair.2.any there) =
      if here row then (right.filter fun other => on row other && there other).map fun other =>
        (row, some other) else [] := by
    intro row
    have both : (right.filter fun other => on row other && there other) =
        (right.filter (on row)).filter there := by
      rw [List.filter_filter]
      exact List.filter_congr fun other _ => Bool.and_comm _ _
    rw [both]
    cases right.filter (on row) with
    | nil => simp
    | cons other others =>
      rw [List.isEmpty_cons, if_neg Bool.false_ne_true, List.filter_map]
      cases chosen : here row <;> simp [Function.comp_def, chosen]
  unfold leftJoin
  rw [List.filter_flatMap]
  induction left with
  | nil => rfl
  | cons row rest ih =>
    rw [List.flatMap_cons, ih, List.filter_cons]
    refine (congrArg (· ++ _) (first row)).trans ?_
    split
    · rw [List.flatMap_cons]
    · rfl

omit [DecidableEq κ] in
/-- The order of the rows of both tables does not matter to a left join. -/
theorem leftJoin_perm {on : α → β → Bool} {left others : List α} {right more : List β}
    (same : left.Perm others) (alike : right.Perm more) :
    (leftJoin on left right).Perm (leftJoin on others more) := by
  unfold leftJoin
  refine (same.flatMap_right _).trans (List.Perm.flatMap_left _ fun row _ => ?_)
  -- A row is joined with the same matches, or with none in both.
  have matching := alike.filter (on row)
  simp only [matching.isEmpty_eq]
  split
  · exact List.Perm.refl _
  · exact matching.map _

end

/-- A column without repetitions is counted by its rows. -/
theorem countDistinct_of_nodup {κ : Type} [DecidableEq κ] {column : List κ}
    (distinct : column.Nodup) : countDistinct column = column.length := by
  unfold countDistinct
  rw [distinct.dedup]

/-- Arrays of the same rows, in whatever order, are both null or none of them is. -/
theorem jsonbAgg_rel {α : Type} {rows others : List α} (same : rows.Perm others) :
    Option.Rel List.Perm (jsonbAgg rows) (jsonbAgg others) := by
  unfold jsonbAgg
  rw [same.isEmpty_eq]
  split
  · exact Option.Rel.none
  · exact Option.Rel.some same

end Pocketdex.Sql
