import Mathlib.Data.List.Nodup
import Mathlib.Data.List.Perm.Basic
import Pocketdex.Base.Task

/-! Tables rewritten by statements that delete some rows and then insert others. -/

namespace Pocketdex

/-- The rows of a table, no two of which share a value of its unique column, where it has one. -/
structure Table {ρ κ : Type} (key : ρ → Option κ) where
  rows : List ρ
  nodup : (rows.filterMap key).Nodup

/-- A statement on one table. -/
inductive Statement (ρ : Type) where
  | destroy (selects : ρ → Bool)
  | insert (rows : List ρ)

namespace Table

variable {ρ κ : Type} {key : ρ → Option κ}

/-- The table without rows. -/
def empty : Table key := ⟨[], List.nodup_nil⟩

/-- Deleting drops the selected rows. -/
def destroy (table : Table key) (selects : ρ → Bool) : Table key :=
  ⟨table.rows.filter fun row => !selects row,
    table.nodup.sublist (List.filter_sublist.filterMap key)⟩

variable [DecidableEq κ]

/-- A row can be stored when its unique value, if it has one, is not taken. -/
def admits (table : Table key) (row : ρ) : Bool :=
  (key row).all fun value => value ∉ table.rows.filterMap key

/-- Inserting a row stores it unless its unique value is taken. -/
def insertRow (table : Table key) (row : ρ) : Table key :=
  if free : table.admits row then
    ⟨table.rows ++ [row], by
      -- Only a row with a value of its own adds to the unique column.
      rw [List.filterMap_append]
      cases named : key row with
      | none => simpa [named] using table.nodup
      | some value =>
        have absent : value ∉ table.rows.filterMap key := by
          simpa [admits, named] using free
        rw [List.filterMap_cons_some named, List.filterMap_nil, List.nodup_append]
        refine ⟨table.nodup, List.nodup_singleton _, ?_⟩
        intro other inside last member
        rw [List.mem_singleton.mp member]
        exact fun same => absent (same ▸ inside)⟩
  else table

/-- Inserting rows stores them one after the other. -/
def insert (table : Table key) (rows : List ρ) : Table key := rows.foldl insertRow table

/-- The table a statement leaves behind. -/
def apply (table : Table key) : Statement ρ → Table key
  | .destroy selects => table.destroy selects
  | .insert rows => table.insert rows

/-- The table left behind by statements that take effect in order. -/
def execute (table : Table key) (statements : List (Statement ρ)) : Table key :=
  statements.foldl apply table

/-- The rows a condition selects. -/
def selected (table : Table key) (selects : ρ → Bool) : List ρ := table.rows.filter selects

/-- The rows a condition does not select. -/
def others (table : Table key) (selects : ρ → Bool) : List ρ :=
  table.rows.filter fun row => !selects row

omit [DecidableEq κ] in
@[simp] theorem destroy_selected (table : Table key) (selects : ρ → Bool) :
    (table.destroy selects).selected selects = [] := by
  simp [selected, destroy, List.filter_filter]

omit [DecidableEq κ] in
@[simp] theorem destroy_others (table : Table key) (selects : ρ → Bool) :
    (table.destroy selects).others selects = table.others selects := by
  simp [others, destroy, List.filter_filter]

/-- Inserting selected rows leaves the other rows alone. -/
theorem insert_others {selects : ρ → Bool} {rows : List ρ}
    (owned : ∀ row ∈ rows, selects row = true) (table : Table key) :
    (table.insert rows).others selects = table.others selects := by
  -- A stored row is a selected one, and a refused row changes nothing.
  induction rows generalizing table with
  | nil => rfl
  | cons row rest ih =>
    have kept : (table.insertRow row).others selects = table.others selects := by
      unfold insertRow
      split
      · simp [others, List.filter_append, owned row List.mem_cons_self]
      · rfl
    rw [← kept]
    exact ih (fun other member => owned other (List.mem_cons_of_mem _ member)) _

/-- Inserting rows stores at most as many as there are. -/
theorem insert_selected_length (selects : ρ → Bool) (rows : List ρ) (table : Table key) :
    ((table.insert rows).selected selects).length ≤
      (table.selected selects).length + rows.length := by
  induction rows generalizing table with
  | nil => simp [insert]
  | cons row rest ih =>
    -- One row adds one selected row at most, and none where its key is taken.
    have step : ((table.insertRow row).selected selects).length ≤
        (table.selected selects).length + 1 := by
      unfold insertRow
      split
      · simp only [selected, List.filter_append, List.length_append]
        have short : ([row].filter selects).length ≤ 1 := List.length_filter_le _ _
        omega
      · omega
    have more := ih (table.insertRow row)
    simp only [insert, List.foldl_cons, List.length_cons] at more ⊢
    omega

/-- Rows whose unique values are distinct and free are all stored. -/
theorem insert_rows {rows : List ρ} {table : Table key}
    (free : ((table.rows ++ rows).filterMap key).Nodup) :
    (table.insert rows).rows = table.rows ++ rows := by
  -- Each row is admitted because the values of those before it differ from its own.
  induction rows generalizing table with
  | nil => simp [insert]
  | cons row rest ih =>
    have admitted : table.admits row = true := by
      cases named : key row with
      | none => simp [admits, named]
      | some value =>
        simp only [admits, named, Option.all_some, decide_eq_true_eq]
        rw [List.filterMap_append, List.filterMap_cons_some named] at free
        exact fun taken => List.disjoint_of_nodup_append free taken List.mem_cons_self
    have stored : (table.insertRow row).rows = table.rows ++ [row] := by
      simp [insertRow, admitted]
    have later : (((table.insertRow row).rows ++ rest).filterMap key).Nodup := by
      rw [stored, List.append_assoc]
      exact free
    have inserted := ih later
    rw [stored, List.append_assoc] at inserted
    exact inserted

omit [DecidableEq κ] in
/-- A table holds its selected rows and the others. -/
theorem rows_perm (table : Table key) (selects : ρ → Bool) :
    table.rows.Perm (table.others selects ++ table.selected selects) :=
  (List.filter_append_perm selects table.rows).symm.trans List.perm_append_comm

end Table

/-- Replacing the selected rows: a delete, and then inserts that are started together. -/
def rewriteRows {ρ : Type} (selects : ρ → Bool) (batches : List (List ρ)) : Task (Statement ρ) :=
  Task.seq (Task.step (.destroy selects))
    (Task.all ((batches.map Statement.insert).map Task.step))

/-- A writer without rows issues no statement, and any other one replaces the selected rows. -/
def writeRows {ρ : Type} (selects : ρ → Bool) (batches : List (List ρ)) : Task (Statement ρ) :=
  if batches.flatten.isEmpty then Task.skip else rewriteRows selects batches

namespace Table

variable {ρ κ : Type} {key : ρ → Option κ} [DecidableEq κ]
variable {selects : ρ → Bool} {table : Table key}

/-- The rows the condition selects are exactly the given ones, each as often as it is given. -/
def Holds (table : Table key) (selects : ρ → Bool) (rows : List ρ) : Prop :=
  (table.selected selects).Perm rows

/-- At most one of several writers has rows to write. -/
def SoleWriter (writers : List (List (List ρ))) : Prop :=
  writers.Pairwise fun one other => one.flatten = [] ∨ other.flatten = []

/-- When writers lose nothing: one of them writes, its rows are free, and none finds old rows. -/
structure Lossless (table : Table key) (selects : ρ → Bool)
    (writers : List (List (List ρ))) : Prop where
  sole : SoleWriter writers
  free : ((table.others selects ++ writers.flatten.flatten).filterMap key).Nodup
  clean : writers.flatten.flatten = [] → table.selected selects = []

/-- Statements that take effect one after the other are those of both lists. -/
theorem execute_append (table : Table key) (first second : List (Statement ρ)) :
    table.execute (first ++ second) = (table.execute first).execute second :=
  List.foldl_append ..

/-- Inserts store their rows in the order they take effect in. -/
theorem execute_inserts (table : Table key) (batches : List (List ρ)) :
    table.execute (batches.map Statement.insert) = table.insert batches.flatten := by
  induction batches generalizing table with
  | nil => rfl
  | cons batch rest ih =>
    simp only [execute, List.map_cons, List.foldl_cons, apply, List.flatten_cons] at ih ⊢
    rw [ih (table.insert batch)]
    exact (List.foldl_append ..).symm

omit [DecidableEq κ] in
/-- A run of a writer deletes first and then inserts its batches in some order. -/
theorem rewriteRows_trace {batches : List (List ρ)} {trace : List (Statement ρ)}
    (run : Trace (rewriteRows selects batches) trace) :
    ∃ order : List (List ρ), order.Perm batches ∧
      trace = .destroy selects :: order.map Statement.insert := by
  cases run with
  | @seq _ _ _ later first second =>
    cases first
    -- The inserts are the batches' own, so reordering them reorders the batches.
    have reordered : Relation.Comp (· = List.map Statement.insert ·) List.Perm later batches := by
      rw [List.eq_map_comp_perm]
      exact Trace.all_steps second
    obtain ⟨order, listed, same⟩ := reordered
    exact ⟨order, same, by rw [listed]; rfl⟩

/-- A run of a writer on its own leaves exactly its rows, when they are free. -/
theorem writeRows_holds {batches : List (List ρ)} {trace : List (Statement ρ)}
    (run : Trace (writeRows selects batches) trace)
    (owned : ∀ row ∈ batches.flatten, selects row = true)
    (free : ((table.others selects ++ batches.flatten).filterMap key).Nodup)
    (clean : batches.flatten = [] → table.selected selects = []) :
    (table.execute trace).Holds selects batches.flatten := by
  unfold writeRows at run
  split at run
  · -- Without rows nothing happens, and nothing was there before.
    rename_i idle
    have idle : batches.flatten = [] := List.isEmpty_iff.mp idle
    cases run
    rw [Holds, idle]
    have none : table.selected selects = [] := clean idle
    simp [execute, none]
  · obtain ⟨order, reordered, rfl⟩ := rewriteRows_trace run
    have sameRows : order.flatten.Perm batches.flatten := reordered.flatten
    -- After the delete only the other rows are left for the inserts to meet.
    have start : (table.destroy selects).rows = table.others selects := rfl
    have admitted : (((table.destroy selects).rows ++ order.flatten).filterMap key).Nodup := by
      rw [start]
      exact (((List.Perm.refl _).append sameRows.symm).filterMap key).nodup free
    have stored := insert_rows admitted
    have final : table.execute (.destroy selects :: order.map Statement.insert) =
        (table.destroy selects).insert order.flatten := execute_inserts _ _
    rw [Holds, final, selected, stored, start, List.filter_append]
    have gone : (table.others selects).filter selects = [] := by simp [others, List.filter_filter]
    have all : order.flatten.filter selects = order.flatten :=
      List.filter_eq_self.mpr fun row member => owned row (sameRows.mem_iff.mp member)
    rw [gone, all]
    exact sameRows

/-- A run of a writer that finds no old rows adds its own, in some order. -/
theorem writeRows_fresh {batches : List (List ρ)} {trace : List (Statement ρ)}
    (run : Trace (writeRows selects batches) trace)
    (fresh : ∀ row ∈ table.rows, selects row = false)
    (free : ((table.rows ++ batches.flatten).filterMap key).Nodup) :
    (table.execute trace).rows.Perm (table.rows ++ batches.flatten) := by
  unfold writeRows at run
  split at run
  · rename_i idle
    have idle : batches.flatten = [] := List.isEmpty_iff.mp idle
    cases run
    simp [execute, idle]
  · obtain ⟨order, reordered, rfl⟩ := rewriteRows_trace run
    have sameRows : order.flatten.Perm batches.flatten := reordered.flatten
    -- The delete finds nothing to drop.
    have start : (table.destroy selects).rows = table.rows :=
      List.filter_eq_self.mpr fun row member => by simp [fresh row member]
    have admitted : (((table.destroy selects).rows ++ order.flatten).filterMap key).Nodup := by
      rw [start]
      exact (((List.Perm.refl _).append sameRows.symm).filterMap key).nodup free
    have stored := insert_rows admitted
    have final : table.execute (.destroy selects :: order.map Statement.insert) =
        (table.destroy selects).insert order.flatten := execute_inserts _ _
    rw [final, stored, start]
    exact (List.Perm.refl _).append sameRows

omit [DecidableEq κ] in
/-- Writers without rows issue no statements. -/
theorem idle_trace {schedule : Task (List (List ρ))} {trace : List (Statement ρ)}
    (run : Trace (schedule.bind (writeRows selects)) trace)
    (idle : ∀ writer ∈ schedule.actions, writer.flatten = []) : trace = [] := by
  -- Each statement belongs to a writer, and none of them has any.
  have none : (schedule.bind (writeRows selects)).actions = [] := by
    rw [Task.actions_bind, List.flatMap_eq_nil_iff]
    intro writer member
    simp [writeRows, idle writer member, Task.actions]
  have same := run.perm
  rw [none] at same
  exact same.eq_nil

omit [DecidableEq κ] in
/-- When at most one writer has rows, a run of all of them is a run of that one. -/
theorem sole_trace {schedule : Task (List (List ρ))} {trace : List (Statement ρ)}
    (run : Trace (schedule.bind (writeRows selects)) trace)
    (sole : SoleWriter schedule.actions) :
    ∃ batches : List (List ρ), batches.flatten = schedule.actions.flatten.flatten ∧
      Trace (writeRows selects batches) trace := by
  -- Of two parts of a schedule one has no rows, and its statements are none.
  have combine : ∀ {first second : Task (List (List ρ))} {xs ys zs : List (Statement ρ)},
      Trace (first.bind (writeRows selects)) xs → Trace (second.bind (writeRows selects)) ys →
      Shuffle xs ys zs → SoleWriter (first.actions ++ second.actions) →
      (∀ {trace}, Trace (first.bind (writeRows selects)) trace → SoleWriter first.actions →
        ∃ batches : List (List ρ), batches.flatten = first.actions.flatten.flatten ∧
          Trace (writeRows selects batches) trace) →
      (∀ {trace}, Trace (second.bind (writeRows selects)) trace → SoleWriter second.actions →
        ∃ batches : List (List ρ), batches.flatten = second.actions.flatten.flatten ∧
          Trace (writeRows selects batches) trace) →
      ∃ batches : List (List ρ),
        batches.flatten = (first.actions ++ second.actions).flatten.flatten ∧
          Trace (writeRows selects batches) zs := by
    intro first second xs ys zs one two merged sole before after
    obtain ⟨soleFirst, soleSecond, across⟩ := List.pairwise_append.mp sole
    by_cases idle : ∀ writer ∈ first.actions, writer.flatten = []
    · have nothing : xs = [] := idle_trace one idle
      subst nothing
      obtain ⟨batches, rows, ran⟩ := after two soleSecond
      have absent : first.actions.flatten.flatten = [] := by
        simp only [List.flatten_eq_nil_iff, List.mem_flatten] at idle ⊢
        rintro batch ⟨writer, member, inside⟩
        exact idle writer member batch inside
      refine ⟨batches, by simp [rows, absent], ?_⟩
      rw [merged.swap.eq_of_nil_right]
      exact ran
    · push Not at idle
      obtain ⟨busy, member, hasRows⟩ := idle
      have idle : ∀ writer ∈ second.actions, writer.flatten = [] := fun writer inside =>
        (across busy member writer inside).resolve_left hasRows
      have nothing : ys = [] := idle_trace two idle
      subst nothing
      obtain ⟨batches, rows, ran⟩ := before one soleFirst
      have absent : second.actions.flatten.flatten = [] := by
        simp only [List.flatten_eq_nil_iff, List.mem_flatten] at idle ⊢
        rintro batch ⟨writer, member, inside⟩
        exact idle writer member batch inside
      refine ⟨batches, by simp [rows, absent], ?_⟩
      rw [merged.eq_of_nil_right]
      exact ran
  induction schedule generalizing trace with
  | skip => exact ⟨[], rfl, by simpa [writeRows, Task.bind] using run⟩
  | step writer => exact ⟨writer, by simp [Task.actions], run⟩
  | seq first second before after =>
    cases run with
    | seq one two => exact combine one two (Shuffle.append _ _) sole before after
  | par first second before after =>
    cases run with
    | par one two merged => exact combine one two merged sole before after

/-- Under the conditions every interleaving of the writers leaves exactly their rows. -/
theorem Lossless.holds {schedule : Task (List (List ρ))} {trace : List (Statement ρ)}
    (lossless : Lossless table selects schedule.actions)
    (owned : ∀ row ∈ schedule.actions.flatten.flatten, selects row = true)
    (run : Trace (schedule.bind (writeRows selects)) trace) :
    (table.execute trace).Holds selects schedule.actions.flatten.flatten := by
  obtain ⟨batches, rows, ran⟩ := sole_trace run lossless.sole
  rw [← rows] at owned ⊢
  exact writeRows_holds ran owned (rows ▸ lossless.free) fun none => lossless.clean (rows ▸ none)

/-- The statements of the writers when each ends before the next begins. -/
def textOrder (selects : ρ → Bool) (writers : List (List (List ρ))) : List (Statement ρ) :=
  writers.flatMap fun writer => (writeRows selects writer).actions

omit [DecidableEq κ] in
/-- A schedule can run in the order of its text. -/
theorem textOrder_trace (schedule : Task (List (List ρ))) :
    Trace (schedule.bind (writeRows selects)) (textOrder selects schedule.actions) := by
  have run := Trace.actions (schedule.bind (writeRows selects))
  rw [Task.actions_bind] at run
  exact run

/-- One writer's statements either are none, or replace the selected rows. -/
theorem execute_writer (table : Table key) (writer : List (List ρ)) :
    table.execute (writeRows selects writer).actions =
      if writer.flatten = [] then table
      else (table.destroy selects).insert writer.flatten := by
  by_cases idle : writer.flatten = []
  · simp [writeRows, idle, Task.actions, execute]
  · have busy : writer.flatten.isEmpty = false := by simpa using idle
    have listed : (Task.all ((writer.map Statement.insert).map Task.step)).actions =
        writer.map Statement.insert := by
      rw [Task.actions_all, List.map_map]
      exact List.flatMap_pure_eq_map id (writer.map Statement.insert) |>.trans (List.map_id _)
    simp only [writeRows, busy, idle, Bool.false_eq_true, if_false, rewriteRows, Task.actions,
      listed]
    exact execute_inserts _ _

/-- Writers in a row leave the rows of other blocks alone. -/
theorem textOrder_others {writers : List (List (List ρ))}
    (owned : ∀ row ∈ writers.flatten.flatten, selects row = true) (table : Table key) :
    (table.execute (textOrder selects writers)).others selects = table.others selects := by
  induction writers generalizing table with
  | nil => rfl
  | cons writer rest ih =>
    simp only [List.flatten_cons, List.flatten_append, List.mem_append] at owned
    have later := ih fun row member => owned row (Or.inr member)
    rw [textOrder, List.flatMap_cons, execute_append]
    refine (later _).trans ?_
    rw [execute_writer]
    split
    · rfl
    · rw [insert_others fun row member => owned row (Or.inl member), destroy_others]

/-- Once a writer has replaced the selected rows, at most the rows of the writers are there. -/
theorem textOrder_length {writers : List (List (List ρ))} (table : Table key)
    (busy : ∃ writer ∈ writers, writer.flatten ≠ []) :
    ((table.execute (textOrder selects writers)).selected selects).length ≤
      writers.flatten.flatten.length := by
  -- Only the writers from the last busy one on matter.
  induction writers generalizing table with
  | nil => simp at busy
  | cons writer rest ih =>
    rw [textOrder, List.flatMap_cons, execute_append, List.flatten_cons, List.flatten_append,
      List.length_append]
    by_cases more : ∃ writer ∈ rest, writer.flatten ≠ []
    · have later := ih (table.execute (writeRows selects writer).actions) more
      exact Nat.le_trans later (Nat.le_add_left _ _)
    · have idle : ∀ other ∈ rest, other.flatten = [] := by simpa using more
      have nothing : rest.flatMap (fun writer => (writeRows selects writer).actions) = [] :=
        List.flatMap_eq_nil_iff.mpr fun other member => by
          simp [writeRows, idle other member, Task.actions]
      have hasRows : writer.flatten ≠ [] := by
        obtain ⟨found, member, hasRows⟩ := busy
        rcases List.mem_cons.mp member with rfl | inside
        · exact hasRows
        · exact absurd (idle found inside) hasRows
      rw [nothing, execute_writer, if_neg hasRows]
      have short := insert_selected_length selects writer.flatten (table.destroy selects)
      rw [destroy_selected] at short
      simp only [execute, List.foldl_nil, List.length_nil, Nat.zero_add] at short ⊢
      omega

/-- Writers whose statements end up all in the table are at most one. -/
theorem soleWriter_of_length {writers : List (List (List ρ))} (table : Table key)
    (kept : ((table.execute (textOrder selects writers)).selected selects).length =
      writers.flatten.flatten.length) : SoleWriter writers := by
  induction writers generalizing table with
  | nil => exact List.Pairwise.nil
  | cons writer rest ih =>
    rw [textOrder, List.flatMap_cons, execute_append, List.flatten_cons, List.flatten_append,
      List.length_append] at kept
    by_cases hasRows : writer.flatten = []
    · -- A writer without rows constrains nothing.
      rw [execute_writer, if_pos hasRows, hasRows, List.length_nil, Nat.zero_add] at kept
      exact List.pairwise_cons.mpr ⟨fun _ _ => Or.inl hasRows, ih table kept⟩
    · -- A later writer with rows would have deleted those of this one.
      have idle : ∀ other ∈ rest, other.flatten = [] := by
        by_contra more
        push Not at more
        have short : (((table.execute (writeRows selects writer).actions).execute
            (textOrder selects rest)).selected selects).length ≤ rest.flatten.flatten.length :=
          textOrder_length _ more
        have some : 0 < writer.flatten.length := List.length_pos_iff.mpr hasRows
        simp only [textOrder] at short
        omega
      refine List.pairwise_cons.mpr ⟨fun other member => Or.inr (idle other member), ?_⟩
      exact List.Pairwise.imp_of_mem (fun member _ _ => Or.inl (idle _ member))
        (@List.pairwise_of_forall _ (fun _ _ => True) rest fun _ _ => trivial)

/-- If the text order loses nothing, the conditions hold. -/
theorem Lossless.of_textOrder {writers : List (List (List ρ))}
    (owned : ∀ row ∈ writers.flatten.flatten, selects row = true)
    (holds : (table.execute (textOrder selects writers)).Holds selects writers.flatten.flatten) :
    Lossless table selects writers := by
  refine ⟨soleWriter_of_length table holds.length_eq, ?_, ?_⟩
  · -- The unique column of the final table covers the other rows and the written ones.
    have final := (table.execute (textOrder selects writers)).rows_perm selects
    rw [textOrder_others owned] at final
    have listed := final.trans ((List.Perm.refl _).append holds)
    exact (listed.filterMap key).nodup_iff.mp (table.execute (textOrder selects writers)).nodup
  · intro none
    have nothing : textOrder selects writers = [] :=
      List.flatMap_eq_nil_iff.mpr fun writer member => by
        have idle : writer.flatten = [] := by
          simp only [List.flatten_eq_nil_iff, List.mem_flatten] at none ⊢
          exact fun batch inside => none batch ⟨writer, member, inside⟩
        simp [writeRows, idle, Task.actions]
    rw [nothing, none] at holds
    exact holds.eq_nil

/-- Every interleaving of the writers leaves exactly their rows just under the conditions. -/
theorem lossless_iff {schedule : Task (List (List ρ))}
    (owned : ∀ row ∈ schedule.actions.flatten.flatten, selects row = true) :
    (∀ trace, Trace (schedule.bind (writeRows selects)) trace →
      (table.execute trace).Holds selects schedule.actions.flatten.flatten) ↔
      Lossless table selects schedule.actions :=
  ⟨fun always => Lossless.of_textOrder owned (always _ (textOrder_trace schedule)),
    fun lossless _ run => lossless.holds owned run⟩

end Table

end Pocketdex
