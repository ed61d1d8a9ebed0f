import Pocketdex.Base.Task

/-! Proof outlines of a program's steps that hold whatever its environment does in between. -/

namespace Pocketdex

variable {σ α : Type}

/-- The state after steps in the given order. -/
def performed (perform : α → σ → σ) (trace : List α) (state : σ) : σ :=
  trace.foldl (fun state action => perform action state) state

/-- A step comes before every occurrence of another. -/
def Guards (first second : α) (trace : List α) : Prop :=
  ∀ before after, trace = before ++ second :: after → first ∈ before

/-- A program's own steps, with allowed steps of the environment anywhere between them. -/
inductive Interfered (perform : α → σ → σ) (allowed : σ → α → Prop) : List α → σ → σ → Prop where
  | done {state : σ} : Interfered perform allowed [] state state
  | own {action : α} {rest : List α} {state final : σ} :
      Interfered perform allowed rest (perform action state) final →
      Interfered perform allowed (action :: rest) state final
  | env {action : α} {rest : List α} {state final : σ} :
      allowed state action → Interfered perform allowed rest (perform action state) final →
      Interfered perform allowed rest state final

/-- An assertion that no allowed step of the environment breaks. -/
def Stable (perform : α → σ → σ) (allowed : σ → α → Prop) (assertion : σ → Prop) : Prop :=
  ∀ state action, allowed state action → assertion state → assertion (perform action state)

/-- Stable assertions before, between and after the steps of a program. -/
inductive Outline (perform : α → σ → σ) (allowed : σ → α → Prop) :
    (σ → Prop) → List α → (σ → Prop) → Prop where
  | done {assertion : σ → Prop} : Stable perform allowed assertion →
      Outline perform allowed assertion [] assertion
  | step {before after last : σ → Prop} {action : α} {rest : List α} :
      Stable perform allowed before →
      (∀ state, before state → after (perform action state)) →
      Outline perform allowed after rest last →
      Outline perform allowed before (action :: rest) last

section

variable {perform : α → σ → σ} {allowed : σ → α → Prop}

/-- The first assertion of an outline is stable. -/
theorem Outline.stable {before after : σ → Prop} {steps : List α}
    (outline : Outline perform allowed before steps after) : Stable perform allowed before := by
  cases outline with
  | done stable => exact stable
  | step stable _ _ => exact stable

/-- One step between two stable assertions. -/
theorem Outline.single {before after : σ → Prop} {action : α}
    (stable : Stable perform allowed before) (beside : Stable perform allowed after)
    (established : ∀ state, before state → after (perform action state)) :
    Outline perform allowed before [action] after :=
  step stable established (done beside)

/-- An outline that ends where another begins. -/
theorem Outline.append {before middle after : σ → Prop} {first second : List α}
    (outline : Outline perform allowed before first middle)
    (next : Outline perform allowed middle second after) :
    Outline perform allowed before (first ++ second) after := by
  induction outline with
  | done _ => exact next
  | step stable established _ ih => exact step stable established (ih next)

/-- An outline holds along every run with interference. -/
theorem Outline.sound {before after : σ → Prop} {steps : List α} {state final : σ}
    (outline : Outline perform allowed before steps after)
    (run : Interfered perform allowed steps state final) (holds : before state) :
    after final := by
  induction run generalizing before with
  | done =>
    cases outline with
    | done _ => exact holds
  | own _ ih =>
    cases outline with
    | step _ established rest => exact ih rest (established _ holds)
  | env permitted _ ih => exact ih outline (outline.stable _ _ permitted holds)

/-- A run interferes with the steps that are kept by those that are not. -/
theorem Interfered.of_filter {keep : α → Bool} {trace : List α} {state : σ}
    (permitted : ∀ before action after, trace = before ++ action :: after →
      keep action = false → allowed (performed perform before state) action) :
    Interfered perform allowed (trace.filter keep) state (performed perform trace state) := by
  induction trace generalizing state with
  | nil => exact done
  | cons action rest ih =>
    have later := @ih (perform action state) fun before other after same idle =>
      permitted (action :: before) other after (by rw [same]; rfl) idle
    -- An action is either one of the program, or one the environment may take.
    by_cases kept : keep action
    · rw [List.filter_cons_of_pos kept]
      exact own later
    · rw [List.filter_cons_of_neg kept]
      exact env (permitted [] action rest rfl (by simpa using kept)) later

end

namespace Guards

variable {first second : α} {xs ys zs : List α}

/-- A step that does not occur needs no guard. -/
theorem of_not_mem (absent : second ∉ xs) : Guards first second xs := by
  rintro before after rfl
  exact absurd (by simp) absent

/-- Guarded lists one after the other are guarded. -/
theorem append (one : Guards first second xs) (two : Guards first second ys) :
    Guards first second (xs ++ ys) := by
  intro before after same
  rcases List.append_eq_append_iff.mp same with ⟨middle, rest, tail⟩ | ⟨middle, rest, tail⟩
  · rw [rest]
    exact List.mem_append_right _ (two middle after tail)
  · cases middle with
    | nil =>
      -- The step is the first one of the second list.
      exact absurd (two [] after tail.symm) (by simp)
    | cons head middle =>
      rw [List.cons_append, List.cons.injEq] at tail
      refine one before middle ?_
      rw [rest, tail.1]

/-- Guarded lists stay guarded when they are merged. -/
theorem shuffle (merged : Shuffle xs ys zs) (one : Guards first second xs)
    (two : Guards first second ys) : Guards first second zs := by
  rintro before after rfl
  obtain ⟨xs₁, xs₂, ys₁, ys₂, rfl, rfl, earlier, later⟩ := merged.split
  -- The guarded step is the next one of its own list, where its guard came before it.
  cases later with
  | left _ => exact earlier.mem.mpr (Or.inl (one xs₁ _ rfl))
  | right _ => exact earlier.mem.mpr (Or.inr (two ys₁ _ rfl))

/-- Programs whose runs are guarded have guarded runs when they are awaited in order. -/
theorem chain {tasks : List (Task α)}
    (each : ∀ task ∈ tasks, ∀ own, Trace task own → Guards first second own) {trace : List α}
    (run : Trace (Task.chain tasks) trace) : Guards first second trace := by
  induction tasks generalizing trace with
  | nil => cases run; exact of_not_mem (by simp)
  | cons task rest ih =>
    cases run with
    | seq one others =>
      exact (each task List.mem_cons_self _ one).append
        (ih (fun other member => each other (List.mem_cons_of_mem _ member)) others)

/-- Programs whose runs are guarded have guarded runs when they are started together. -/
theorem all {tasks : List (Task α)}
    (each : ∀ task ∈ tasks, ∀ own, Trace task own → Guards first second own) {trace : List α}
    (run : Trace (Task.all tasks) trace) : Guards first second trace := by
  induction tasks generalizing trace with
  | nil => cases run; exact of_not_mem (by simp)
  | cons task rest ih =>
    cases run with
    | par one others merged =>
      exact shuffle merged (each task List.mem_cons_self _ one)
        (ih (fun other member => each other (List.mem_cons_of_mem _ member)) others)

/-- A program whose expanded steps have guarded runs has guarded runs. -/
theorem bind {β : Type} {expand : β → Task α}
    (each : ∀ step own, Trace (expand step) own → Guards first second own) {task : Task β}
    {trace : List α} (run : Trace (task.bind expand) trace) : Guards first second trace := by
  induction task generalizing trace with
  | skip => cases run; exact of_not_mem (by simp)
  | step action => exact each action trace run
  | seq one two before after =>
    cases run with
    | seq runs continues => exact (before runs).append (after continues)
  | par one two before after =>
    cases run with
    | par runs beside merged => exact shuffle merged (before runs) (after beside)

/-- A list that begins with the guard is guarded. -/
theorem of_head (different : first ≠ second) : Guards first second (first :: xs) := by
  intro before after same
  cases before with
  | nil =>
    rw [List.nil_append, List.cons.injEq] at same
    exact absurd same.1 different
  | cons head rest =>
    rw [List.cons_append, List.cons.injEq] at same
    exact same.1 ▸ List.mem_cons_self

end Guards

end Pocketdex
