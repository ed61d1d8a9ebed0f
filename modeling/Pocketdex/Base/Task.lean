import Mathlib.Data.List.Perm.Basic

/-! Concurrent programs over atomic steps, and the step orders in which they can run. -/

namespace Pocketdex

/-- One list is a merge of two others that keeps the order of each. -/
inductive Shuffle {α : Type} : List α → List α → List α → Prop where
  | nil : Shuffle [] [] []
  | left {action : α} {xs ys zs : List α} :
      Shuffle xs ys zs → Shuffle (action :: xs) ys (action :: zs)
  | right {action : α} {xs ys zs : List α} :
      Shuffle xs ys zs → Shuffle xs (action :: ys) (action :: zs)

/-- A program made of atomic steps, run in order or side by side. -/
inductive Task (α : Type) where
  | skip
  | step (action : α)
  | seq (first second : Task α)
  | par (first second : Task α)

namespace Task

variable {α β : Type}

/-- Programs awaited one after the other. -/
def chain : List (Task α) → Task α
  | [] => skip
  | task :: rest => seq task (chain rest)

/-- Programs started together and awaited as a whole. -/
def all : List (Task α) → Task α
  | [] => skip
  | task :: rest => par task (all rest)

/-- The same program with every step renamed. -/
def map (rename : α → β) : Task α → Task β
  | skip => skip
  | step action => step (rename action)
  | seq first second => seq (first.map rename) (second.map rename)
  | par first second => par (first.map rename) (second.map rename)

/-- The same program with every step expanded into a program of its own. -/
def bind (expand : α → Task β) : Task α → Task β
  | skip => skip
  | step action => expand action
  | seq first second => seq (first.bind expand) (second.bind expand)
  | par first second => par (first.bind expand) (second.bind expand)

/-- The steps of a program that concern one part of the state, and nothing where the others were. -/
def select (choose : α → Option β) : Task α → Task β
  | skip => skip
  | step action => ((choose action).map step).getD skip
  | seq first second => seq (first.select choose) (second.select choose)
  | par first second => par (first.select choose) (second.select choose)

/-- The steps of a program in the order its text lists them. -/
def actions : Task α → List α
  | skip => []
  | step action => [action]
  | seq first second => first.actions ++ second.actions
  | par first second => first.actions ++ second.actions

/-- The steps of a program with the parts of joint programs in the reverse order of its text. -/
def mirrored : Task α → List α
  | skip => []
  | step action => [action]
  | seq first second => first.mirrored ++ second.mirrored
  | par first second => second.mirrored ++ first.mirrored

/-- The steps of jointly started programs are those of its members. -/
theorem actions_all (tasks : List (Task α)) :
    (all tasks).actions = (tasks.map actions).flatten := by
  induction tasks with
  | nil => rfl
  | cons task rest ih => simp [all, actions, ih]

/-- The steps of programs awaited in order are those of its members. -/
theorem actions_chain (tasks : List (Task α)) :
    (chain tasks).actions = (tasks.map actions).flatten := by
  induction tasks with
  | nil => rfl
  | cons task rest ih => simp [chain, actions, ih]

/-- Renaming a program renames its steps. -/
theorem actions_map (rename : α → β) (task : Task α) :
    (task.map rename).actions = task.actions.map rename := by
  induction task with
  | skip => rfl
  | step action => rfl
  | seq first second before after => simp [map, actions, before, after]
  | par first second before after => simp [map, actions, before, after]

/-- Expanding a program expands its steps. -/
theorem actions_bind (expand : α → Task β) (task : Task α) :
    (task.bind expand).actions = task.actions.flatMap fun action => (expand action).actions := by
  induction task with
  | skip => rfl
  | step action => simp [bind, actions]
  | seq first second before after => simp [bind, actions, before, after]
  | par first second before after => simp [bind, actions, before, after]

/-- Expanding a renamed program expands its steps by what they are renamed to. -/
theorem map_bind {γ : Type} (rename : α → β) (expand : β → Task γ) (task : Task α) :
    (task.map rename).bind expand = task.bind fun action => expand (rename action) := by
  induction task with
  | skip => rfl
  | step action => rfl
  | seq first second before after => simp [map, bind, before, after]
  | par first second before after => simp [map, bind, before, after]

/-- Selecting after renaming selects by the new names. -/
theorem select_map {γ : Type} (rename : α → β) (choose : β → Option γ) (task : Task α) :
    (task.map rename).select choose = task.select fun action => choose (rename action) := by
  induction task with
  | skip => rfl
  | step action => rfl
  | seq first second before after => simp [map, select, before, after]
  | par first second before after => simp [map, select, before, after]

/-- Selecting from a program selects from its steps. -/
theorem actions_select (choose : α → Option β) (task : Task α) :
    (task.select choose).actions = task.actions.filterMap choose := by
  induction task with
  | skip => rfl
  | step action => cases chosen : choose action <;> simp [select, actions, chosen]
  | seq first second before after => simp [select, actions, before, after]
  | par first second before after => simp [select, actions, before, after]

end Task

/-- The orders in which all steps of a program can take effect. -/
inductive Trace {α : Type} : Task α → List α → Prop where
  | skip : Trace Task.skip []
  | step (action : α) : Trace (Task.step action) [action]
  | seq {first second : Task α} {xs ys : List α} :
      Trace first xs → Trace second ys → Trace (Task.seq first second) (xs ++ ys)
  | par {first second : Task α} {xs ys zs : List α} :
      Trace first xs → Trace second ys → Shuffle xs ys zs → Trace (Task.par first second) zs

namespace Shuffle

variable {α : Type} {xs ys zs : List α}

/-- Nothing merges with a list into that list. -/
theorem nil_left (ys : List α) : Shuffle [] ys ys := by
  induction ys with
  | nil => exact nil
  | cons action rest ih => exact right ih

/-- Running one list to its end and then the other is a merge. -/
theorem append (xs ys : List α) : Shuffle xs ys (xs ++ ys) := by
  induction xs with
  | nil => exact nil_left ys
  | cons action rest ih => exact left ih

/-- A merge holds the elements of both lists and no others. -/
theorem perm (merged : Shuffle xs ys zs) : zs.Perm (xs ++ ys) := by
  induction merged with
  | nil => exact List.Perm.refl _
  | left _ ih => exact ih.cons _
  | right _ ih => exact (ih.cons _).trans List.perm_middle.symm

/-- Merging does not depend on which list is named first. -/
theorem swap (merged : Shuffle xs ys zs) : Shuffle ys xs zs := by
  induction merged with
  | nil => exact nil
  | left _ ih => exact right ih
  | right _ ih => exact left ih

/-- The members of a merge come from one of its two lists. -/
theorem mem (merged : Shuffle xs ys zs) {action : α} :
    action ∈ zs ↔ action ∈ xs ∨ action ∈ ys := by
  rw [merged.perm.mem_iff, List.mem_append]

/-- Merging with nothing changes nothing. -/
theorem eq_of_nil_right (merged : Shuffle xs [] zs) : zs = xs := by
  -- The right list stays empty, so only left steps remain.
  generalize same : ([] : List α) = ys at merged
  induction merged with
  | nil => rfl
  | left _ ih => rw [ih same]
  | right _ _ => simp at same

/-- A relation that holds inside both lists and across them holds along a merge. -/
theorem pairwise {related : α → α → Prop} (merged : Shuffle xs ys zs)
    (within : xs.Pairwise related) (beside : ys.Pairwise related)
    (across : ∀ x ∈ xs, ∀ y ∈ ys, related x y ∧ related y x) : zs.Pairwise related := by
  -- The head of the merge is related to the rest of its own list and to all of the other.
  induction merged with
  | nil => exact List.Pairwise.nil
  | left merged ih =>
    rw [List.pairwise_cons] at within ⊢
    refine ⟨?_, ih within.2 beside fun x inside => across x (List.mem_cons_of_mem _ inside)⟩
    intro other member
    rcases merged.mem.mp member with inside | inside
    · exact within.1 other inside
    · exact (across _ List.mem_cons_self other inside).1
  | right merged ih =>
    rw [List.pairwise_cons] at beside ⊢
    refine ⟨?_, ih within beside.2 fun x inside y member =>
      across x inside y (List.mem_cons_of_mem _ member)⟩
    intro other member
    rcases merged.mem.mp member with inside | inside
    · exact (across other inside _ List.mem_cons_self).2
    · exact beside.1 other inside

/-- Selecting steps from a merge merges the selected steps. -/
theorem filter (keep : α → Bool) (merged : Shuffle xs ys zs) :
    Shuffle (xs.filter keep) (ys.filter keep) (zs.filter keep) := by
  induction merged with
  | nil => exact nil
  | @left action _ _ _ _ ih =>
    by_cases kept : keep action
    · simpa [List.filter_cons, kept] using left ih
    · simpa [List.filter_cons, kept] using ih
  | @right action _ _ _ _ ih =>
    by_cases kept : keep action
    · simpa [List.filter_cons, kept] using right ih
    · simpa [List.filter_cons, kept] using ih

/-- One list can be run to its end at any place inside the other. -/
theorem middle (before after ys : List α) :
    Shuffle (before ++ after) ys (before ++ ys ++ after) := by
  induction before with
  | nil => simpa using (append ys after).swap
  | cons action rest ih => exact left ih

/-- The first steps of a merge are a merge of the first steps of its two lists. -/
theorem split {before after : List α} (merged : Shuffle xs ys (before ++ after)) :
    ∃ xs₁ xs₂ ys₁ ys₂, xs = xs₁ ++ xs₂ ∧ ys = ys₁ ++ ys₂ ∧
      Shuffle xs₁ ys₁ before ∧ Shuffle xs₂ ys₂ after := by
  induction before generalizing xs ys with
  | nil => exact ⟨[], xs, [], ys, rfl, rfl, nil, merged⟩
  | cons action before ih =>
    -- The first step comes from one of the two lists.
    cases merged with
    | left rest =>
      obtain ⟨xs₁, xs₂, ys₁, ys₂, rfl, rfl, one, two⟩ := ih rest
      exact ⟨action :: xs₁, xs₂, ys₁, ys₂, rfl, rfl, left one, two⟩
    | right rest =>
      obtain ⟨xs₁, xs₂, ys₁, ys₂, rfl, rfl, one, two⟩ := ih rest
      exact ⟨xs₁, xs₂, action :: ys₁, ys₂, rfl, rfl, right one, two⟩

/-- Replacing each step of a merge by several merges what the two lists are replaced by. -/
theorem flatMap {β : Type} (expand : α → List β) (merged : Shuffle xs ys zs) :
    Shuffle (xs.flatMap expand) (ys.flatMap expand) (zs.flatMap expand) := by
  -- Each replaced step is taken as a whole.
  have prepend : ∀ (steps : List β) {us vs ws : List β}, Shuffle us vs ws →
      Shuffle (steps ++ us) vs (steps ++ ws) := by
    intro steps us vs ws rest
    induction steps with
    | nil => exact rest
    | cons step steps ih => exact left ih
  induction merged with
  | nil => exact nil
  | left _ ih => simpa using prepend _ ih
  | right _ ih => simpa using (prepend _ ih.swap).swap

/-- Selecting steps from a merge merges what is selected from its two lists. -/
theorem filterMap {β : Type} (choose : α → Option β) (merged : Shuffle xs ys zs) :
    Shuffle (xs.filterMap choose) (ys.filterMap choose) (zs.filterMap choose) := by
  induction merged with
  | nil => exact nil
  | @left action _ _ _ _ ih =>
    cases chosen : choose action with
    | none => simpa [List.filterMap_cons, chosen] using ih
    | some kept => simpa [List.filterMap_cons, chosen] using left ih
  | @right action _ _ _ _ ih =>
    cases chosen : choose action with
    | none => simpa [List.filterMap_cons, chosen] using ih
    | some kept => simpa [List.filterMap_cons, chosen] using right ih

end Shuffle

namespace Trace

variable {α β : Type}

/-- Every run performs exactly the steps the program lists. -/
theorem perm {task : Task α} {trace : List α} (run : Trace task trace) :
    trace.Perm task.actions := by
  induction run with
  | skip => exact List.Perm.refl _
  | step action => exact List.Perm.refl _
  | seq _ _ first second => exact first.append second
  | par _ _ merged first second => exact merged.perm.trans (first.append second)

/-- The order of the program's text is one of its runs. -/
theorem actions (task : Task α) : Trace task task.actions := by
  induction task with
  | skip => exact skip
  | step action => exact step action
  | seq first second before after => exact seq before after
  | par first second before after => exact par before after (Shuffle.append _ _)

/-- Single steps awaited in order take effect in that order. -/
theorem chain_steps {steps trace : List α} (run : Trace (Task.chain (steps.map Task.step)) trace) :
    trace = steps := by
  induction steps generalizing trace with
  | nil => cases run; rfl
  | cons action rest ih =>
    cases run with
    | seq one others =>
      cases one
      rw [ih others, List.singleton_append]

/-- Single steps started together take effect in any order. -/
theorem all_steps {steps trace : List α}
    (run : Trace (Task.all (steps.map Task.step)) trace) : trace.Perm steps := by
  -- The text of such a program lists the steps themselves.
  have listed : (Task.all (steps.map Task.step)).actions = steps := by
    rw [Task.actions_all, List.map_map]
    exact List.flatMap_pure_eq_map id steps |>.trans (List.map_id steps)
  rw [← listed]
  exact run.perm

/-- A relation that each program keeps, and that any two keep across, holds along every joint run. -/
theorem all_pairwise {related : α → α → Prop} {tasks : List (Task α)} {trace : List α}
    (run : Trace (Task.all tasks) trace)
    (within : ∀ task ∈ tasks, ∀ own, Trace task own → own.Pairwise related)
    (across : tasks.Pairwise fun one other =>
      ∀ x ∈ one.actions, ∀ y ∈ other.actions, related x y ∧ related y x) :
    trace.Pairwise related := by
  -- Each further program is merged into the joint run of those after it.
  induction tasks generalizing trace with
  | nil => cases run; exact List.Pairwise.nil
  | cons task rest ih =>
    rw [List.pairwise_cons] at across
    cases run with
    | par one others merged =>
      refine merged.pairwise (within task List.mem_cons_self _ one)
        (ih others (fun other inside => within other (List.mem_cons_of_mem _ inside)) across.2) ?_
      intro x inside y member
      have listed : y ∈ (Task.all rest).actions := others.perm.mem_iff.mp member
      rw [Task.actions_all, List.mem_flatten] at listed
      obtain ⟨_, chosen, owned⟩ := listed
      obtain ⟨other, located, rfl⟩ := List.mem_map.mp chosen
      exact across.1 other located x (one.perm.mem_iff.mp inside) y owned

/-- Steps that only one of several joint programs performs appear as one of its own runs. -/
theorem all_filter {keep : α → Bool} {before after : List (Task α)} {task : Task α}
    {trace : List α} (run : Trace (Task.all (before ++ task :: after)) trace)
    (own : ∀ action ∈ task.actions, keep action = true)
    (other : ∀ beside ∈ before ++ after, ∀ action ∈ beside.actions, keep action = false) :
    Trace task (trace.filter keep) := by
  -- A program without kept steps drops out of the merge, whichever side it stands on.
  have dropped : ∀ {beside : Task α} {steps : List α}, Trace beside steps →
      (∀ action ∈ beside.actions, keep action = false) → steps.filter keep = [] := by
    intro beside steps ran idle
    refine List.filter_eq_nil_iff.mpr fun action member => ?_
    simp [idle action (ran.perm.mem_iff.mp member)]
  induction before generalizing trace with
  | nil =>
    cases run with
    | @par _ _ xs ys _ one rest merged =>
      have idle : ys.filter keep = [] := by
        refine dropped rest fun action member => ?_
        rw [Task.actions_all, List.mem_flatten] at member
        obtain ⟨_, chosen, owned⟩ := member
        obtain ⟨beside, located, rfl⟩ := List.mem_map.mp chosen
        exact other beside located action owned
      have kept : xs.filter keep = xs := List.filter_eq_self.mpr fun action member =>
        own action (one.perm.mem_iff.mp member)
      have selected := merged.filter keep
      rw [idle, kept] at selected
      rw [selected.eq_of_nil_right]
      exact one
  | cons first before ih =>
    cases run with
    | @par _ _ xs ys _ one rest merged =>
      have idle : xs.filter keep = [] :=
        dropped one (other first (List.mem_cons_self ..))
      have selected := merged.filter keep
      rw [idle] at selected
      have same : trace.filter keep = ys.filter keep :=
        (Shuffle.eq_of_nil_right selected.swap)
      rw [same]
      exact ih rest fun beside located => other beside (List.mem_cons_of_mem _ located)

/-- Seen through one part of the state, a run is a run of what the program does to that part. -/
theorem select (choose : α → Option β) {task : Task α} {trace : List α}
    (run : Trace task trace) : Trace (task.select choose) (trace.filterMap choose) := by
  induction run with
  | skip => exact skip
  | step action =>
    -- A step elsewhere leaves nothing behind.
    cases chosen : choose action with
    | none => simpa [Task.select, chosen] using skip
    | some kept => simpa [Task.select, chosen] using step kept
  | seq _ _ first second =>
    rw [List.filterMap_append]
    exact seq first second
  | par _ _ merged first second => exact par first second (merged.filterMap choose)

/-- A run of a program is a run of the expanded one, each step replaced by a run of its own. -/
theorem flatMap {expand : α → Task β} {runs : α → List β} {task : Task α} {trace : List α}
    (run : Trace task trace) (each : ∀ action, Trace (expand action) (runs action)) :
    Trace (task.bind expand) (trace.flatMap runs) := by
  induction run with
  | skip => exact skip
  | step action =>
    rw [List.flatMap_singleton]
    exact each action
  | seq _ _ first second =>
    rw [List.flatMap_append]
    exact seq first second
  | par _ _ merged first second => exact par first second (merged.flatMap runs)

/-- A run of an expanded program shows a run of the program, if each expansion shows its step. -/
theorem of_bind {expand : α → Task β} {choose : β → Option α} {task : Task α} {trace : List β}
    (shown : ∀ action own, Trace (expand action) own → own.filterMap choose = [action])
    (run : Trace (task.bind expand) trace) : Trace task (trace.filterMap choose) := by
  -- What the expanded actions show keeps the structure of the task.
  induction task generalizing trace with
  | skip => cases run; exact skip
  | step action =>
    rw [shown action trace run]
    exact step action
  | seq first second before after =>
    cases run with
    | seq one two =>
      rw [List.filterMap_append]
      exact seq (before one) (after two)
  | par first second before after =>
    cases run with
    | par one two merged => exact par (before one) (after two) (merged.filterMap choose)

/-- The order that reverses joint programs is one of the runs. -/
theorem mirrored (task : Task α) : Trace task task.mirrored := by
  induction task with
  | skip => exact skip
  | step action => exact step action
  | seq first second before after => exact seq before after
  | par first second before after => exact par before after (Shuffle.append _ _).swap

/-- One of several joint programs can run first, and then the others in their reversed order. -/
theorem all_first {before after : List (Task α)} {task : Task α} {own : List α}
    (run : Trace task own) : Trace (Task.all (before ++ task :: after))
      (own ++ (Task.all (before ++ after)).mirrored) := by
  induction before with
  | nil => exact par run (mirrored _) (Shuffle.append _ _)
  | cons first before ih =>
    -- The steps of the first program are taken after all others.
    refine par (mirrored first) ih ?_
    show Shuffle first.mirrored (own ++ (Task.all (before ++ after)).mirrored)
      (own ++ ((Task.all (before ++ after)).mirrored ++ first.mirrored))
    rw [← List.append_assoc]
    exact (Shuffle.append _ _).swap

/-- Awaited programs keep any order that holds between their members and inside each of them. -/
theorem chain_pairwise {related : α → α → Prop} {tasks : List (Task α)} {trace : List α}
    (run : Trace (Task.chain tasks) trace)
    (within : ∀ task ∈ tasks, ∀ x ∈ task.actions, ∀ y ∈ task.actions, related x y)
    (across : tasks.Pairwise fun earlier later =>
      ∀ x ∈ earlier.actions, ∀ y ∈ later.actions, related x y) :
    trace.Pairwise related := by
  -- The actions of the first task all come before those of the others.
  induction tasks generalizing trace with
  | nil => cases run; exact List.Pairwise.nil
  | cons task rest ih =>
    rw [List.pairwise_cons] at across
    cases run with
    | @seq _ _ xs ys one others =>
      refine List.pairwise_append.mpr ⟨?_, ?_, ?_⟩
      · refine List.Pairwise.imp_of_mem ?_ (List.pairwise_of_forall (l := xs) fun _ _ => trivial)
        intro x y first second _
        exact within task List.mem_cons_self x (one.perm.mem_iff.mp first) y
          (one.perm.mem_iff.mp second)
      · exact ih others (fun other member => within other (List.mem_cons_of_mem _ member)) across.2
      · intro x first y second
        have listed : y ∈ (Task.chain rest).actions := others.perm.mem_iff.mp second
        rw [Task.actions_chain, List.mem_flatten] at listed
        obtain ⟨_, chosen, owned⟩ := listed
        obtain ⟨later, located, rfl⟩ := List.mem_map.mp chosen
        exact across.1 later located x (one.perm.mem_iff.mp first) y owned

end Trace

end Pocketdex
