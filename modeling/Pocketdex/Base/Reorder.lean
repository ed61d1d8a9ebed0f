import Mathlib.Data.Set.BooleanAlgebra
import Mathlib.Order.CompletePartialOrder
import Pocketdex.Base.Program

/-! Steps that keep to some keys of a store, and runs of such steps in different orders. -/

namespace Pocketdex

section Orders

variable {α σ : Type} {step : σ → α → Option σ} {valid : σ → Prop}

/-- Two steps have the same outcome in either order, from every valid state. -/
def Commute (valid : σ → Prop) (step : σ → α → Option σ) (first second : α) : Prop :=
  ∀ state, valid state → (step state first).bind (fun middle => step middle second) =
    (step state second).bind fun middle => step middle first

/-- A step that commutes with all those before it can come first. -/
theorem foldlM_first {earlier later : List α} {item : α}
    (keeps : ∀ other ∈ earlier, ∀ state after, valid state → step state other = some after →
      valid after)
    (commute : ∀ other ∈ earlier, Commute valid step other item) {state : σ} (holds : valid state) :
    (earlier ++ item :: later).foldlM step state = (item :: (earlier ++ later)).foldlM step state := by
  -- The step is exchanged with the one before it, and so moves forward one place at a time.
  induction earlier generalizing state with
  | nil => rfl
  | cons other rest ih =>
    have swapped := commute other List.mem_cons_self state holds
    have moved : ∀ middle, step state other = some middle →
        (rest ++ item :: later).foldlM step middle =
          (step middle item).bind fun next => (rest ++ later).foldlM step next :=
      fun middle ran => ih (fun another inside => keeps another (List.mem_cons_of_mem _ inside))
        (fun another inside => commute another (List.mem_cons_of_mem _ inside))
        (keeps other List.mem_cons_self state middle holds ran)
    calc (other :: rest ++ item :: later).foldlM step state
        = (step state other).bind fun middle => (rest ++ item :: later).foldlM step middle := rfl
      _ = (step state other).bind fun middle =>
          (step middle item).bind fun next => (rest ++ later).foldlM step next := by
        cases ran : step state other with
        | none => rfl
        | some middle => exact moved middle ran
      _ = ((step state item).bind fun middle => step middle other).bind
          fun next => (rest ++ later).foldlM step next := by
        rw [← swapped, Option.bind_assoc]
      _ = (item :: (other :: rest ++ later)).foldlM step state := by
        rw [Option.bind_assoc]
        rfl

/--
Two orders of the same steps have the same outcome when all steps they order differently commute.

The first order puts one of two other steps before the other only as a precedence says, and the
second one never against it.
-/
theorem foldlM_reordered {precedes : α → α → Prop} {first second : List α}
    (keeps : ∀ item ∈ first, ∀ state after, valid state → step state item = some after →
      valid after) (same : first.Perm second)
    (ordered : first.Pairwise fun earlier later =>
      precedes earlier later ∨ Commute valid step later earlier)
    (kept : second.Pairwise fun earlier later =>
      ¬precedes later earlier ∨ Commute valid step earlier later)
    {state : σ} (holds : valid state) : first.foldlM step state = second.foldlM step state := by
  induction first generalizing second state with
  | nil => rw [← List.Perm.nil_eq same]
  | cons item rest ih =>
    obtain ⟨earlier, later, rfl⟩ := List.append_of_mem (same.mem_iff.mp List.mem_cons_self)
    obtain ⟨leads, ordered⟩ := List.pairwise_cons.mp ordered
    obtain ⟨before, after, across⟩ := List.pairwise_append.mp kept
    have remaining : rest.Perm (earlier ++ later) := (same.trans List.perm_middle).cons_inv
    -- What the second order puts first, the first order puts later.
    have commute : ∀ other ∈ earlier, Commute valid step other item := by
      intro other inside
      rcases across other inside item List.mem_cons_self with against | commute
      · have listed := remaining.mem_iff.mpr (List.mem_append_left later inside)
        rcases leads other listed with precedes | commute
        · exact absurd precedes against
        · exact commute
      · exact commute
    rw [foldlM_first (fun other inside => keeps other (same.mem_iff.mpr
      (List.mem_append_left _ inside))) commute holds, List.foldlM_cons, List.foldlM_cons]
    cases ran : step state item with
    | none => rfl
    | some middle =>
      have others : (earlier ++ later).Pairwise fun earlier later =>
          ¬precedes later earlier ∨ Commute valid step earlier later :=
        List.pairwise_append.mpr ⟨before, (List.pairwise_cons.mp after).2, fun one inside other
          listed => across one inside other (List.mem_cons_of_mem _ listed)⟩
      exact ih (fun other inside => keeps other (List.mem_cons_of_mem _ inside)) remaining ordered
        others (keeps item List.mem_cons_self state middle holds ran)

end Orders

section Keys

variable {κ ν : Type} {valid : (κ → Option ν) → Prop}

/-- A step that keeps rows valid, and reads and writes those of some keys only. -/
structure Confined (valid : (κ → Option ν) → Prop) (keys : Set κ)
    (step : (κ → Option ν) → Option (κ → Option ν)) : Prop where
  /-- Valid rows stay valid. -/
  keeps : ∀ {rows after}, valid rows → step rows = some after → valid after
  /-- Other rows stay as they were. -/
  frame : ∀ {rows after}, valid rows → step rows = some after →
    ∀ key, key ∉ keys → after key = rows key
  /-- The outcome depends on no other rows. -/
  reads : ∀ {rows other after}, valid rows → valid other → (∀ key ∈ keys, other key = rows key) →
    step rows = some after → ∃ result, step other = some result ∧
      ∀ key ∈ keys, result key = after key

variable {keys others : Set κ} {first second : (κ → Option ν) → Option (κ → Option ν)}

/-- After one of two steps with different keys comes the other just as before it. -/
theorem Confined.swap (one : Confined valid keys first) (two : Confined valid others second)
    (apart : Disjoint keys others) {rows after : κ → Option ν} (holds : valid rows)
    (ran : (first rows).bind second = some after) : (second rows).bind first = some after := by
  obtain ⟨middle, ranFirst, ranSecond⟩ := Option.bind_eq_some_iff.mp ran
  have middleHolds := one.keeps holds ranFirst
  -- The second step sees the rows it would have seen at first.
  obtain ⟨early, ranEarly, earlySame⟩ := two.reads middleHolds holds (fun key inside =>
    (one.frame holds ranFirst key fun own => Set.disjoint_left.mp apart own inside).symm) ranSecond
  have earlyHolds := two.keeps holds ranEarly
  obtain ⟨final, ranFinal, finalSame⟩ := one.reads holds earlyHolds (fun key inside =>
    two.frame holds ranEarly key (Set.disjoint_left.mp apart inside)) ranFirst
  have same : final = after := by
    funext key
    by_cases inFirst : key ∈ keys
    · have outside := Set.disjoint_left.mp apart inFirst
      rw [finalSame key inFirst, two.frame middleHolds ranSecond key outside]
    · rw [one.frame earlyHolds ranFinal key inFirst]
      by_cases inSecond : key ∈ others
      · exact earlySame key inSecond
      · rw [two.frame holds ranEarly key inSecond, two.frame middleHolds ranSecond key inSecond,
          one.frame holds ranFirst key inFirst]
  rw [ranEarly, Option.bind_some, ranFinal, same]

/-- Steps with different keys commute. -/
theorem Confined.commute {α : Type} {step : (κ → Option ν) → α → Option (κ → Option ν)}
    {item other : α} (one : Confined valid keys fun rows => step rows item)
    (two : Confined valid others fun rows => step rows other) (apart : Disjoint keys others) :
    Commute valid step item other := by
  intro rows holds
  exact Option.ext fun after => ⟨one.swap two apart holds, two.swap one apart.symm holds⟩

/-- Two orders of confined steps have the same outcome when they order those alike that share keys. -/
theorem foldlM_confined {α : Type} {step : (κ → Option ν) → α → Option (κ → Option ν)}
    {keys : α → Set κ} {precedes : α → α → Prop} {first second : List α}
    (confined : ∀ item ∈ first, Confined valid (keys item) fun rows => step rows item)
    (same : first.Perm second)
    (ordered : first.Pairwise fun earlier later =>
      precedes earlier later ∨ Disjoint (keys earlier) (keys later))
    (kept : second.Pairwise fun earlier later =>
      ¬precedes later earlier ∨ Disjoint (keys earlier) (keys later))
    {rows : κ → Option ν} (holds : valid rows) : first.foldlM step rows = second.foldlM step rows := by
  have also : ∀ item ∈ second, Confined valid (keys item) fun rows => step rows item :=
    fun item inside => confined item (same.mem_iff.mpr inside)
  -- Items confined to disjoint keys commute.
  have firstOrdered : first.Pairwise fun earlier later =>
      precedes earlier later ∨ Commute valid step later earlier :=
    ordered.imp_of_mem fun one two => Or.imp_right fun apart =>
      (confined _ two).commute (confined _ one) apart.symm
  have secondOrdered : second.Pairwise fun earlier later =>
      ¬precedes later earlier ∨ Commute valid step earlier later :=
    kept.imp_of_mem fun one two => Or.imp_right fun apart =>
      (also _ one).commute (also _ two) apart
  exact foldlM_reordered (fun item inside _ _ holds ran => (confined item inside).keeps holds ran)
    same firstOrdered secondOrdered holds

end Keys

namespace Program

variable {ε κ ν α : Type} [DecidableEq κ]

/-- A run leaves the rows it does not touch as they were. -/
theorem run_untouched {program : Program ε κ ν α} {table after : Dict κ ν} {value : α}
    (ran : program.run table = .ok (value, after)) {key : κ} (untouched : key ∉ program.touched table) :
    after.get key = table.get key := by
  induction program generalizing table with
  | done result =>
    cases ran
    rfl
  | fail error => simp [run] at ran
  | get other next ih => exact ih _ ran fun inside => untouched (List.mem_cons_of_mem _ inside)
  | save other row next ih =>
    have different : key ≠ other := fun same => untouched (same ▸ List.mem_cons_self)
    rw [ih ran fun inside => untouched (List.mem_cons_of_mem _ inside),
      Dict.get_set_ne table row different]

/-- On tables that agree on the rows it touches a program does the same. -/
theorem run_of_touched {keys : Set κ} {program : Program ε κ ν α} {table other after : Dict κ ν}
    {value : α} (touches : ∀ key ∈ program.touched table, key ∈ keys)
    (agree : ∀ key ∈ keys, other.get key = table.get key)
    (ran : program.run table = .ok (value, after)) :
    ∃ result, program.run other = .ok (value, result) ∧
      ∀ key ∈ keys, result.get key = after.get key := by
  induction program generalizing table other with
  | done result =>
    cases ran
    exact ⟨other, rfl, agree⟩
  | fail error => simp [run] at ran
  -- A key that is read is touched, so both tables answer the same.
  | get read next ih =>
    obtain ⟨inside, touches⟩ := List.forall_mem_cons.mp touches
    have same : (get read next).run other = (next (table.get read)).run other := by
      rw [run, agree read inside]
    rw [same]
    exact ih _ touches agree ran
  -- A saved row is the same in both, whatever was there.
  | save written row next ih =>
    obtain ⟨-, touches⟩ := List.forall_mem_cons.mp touches
    refine ih touches (fun key inside => ?_) ran
    by_cases same : key = written
    · rw [same, Dict.get_set_self, Dict.get_set_self]
    · rw [Dict.get_set_ne _ _ same, Dict.get_set_ne _ _ same, agree key inside]

/-- The rows a program leaves, seen through their lookups. -/
def rowsAfter (program : Program ε κ ν α) (rows : κ → Option ν) : Option (κ → Option ν) :=
  (program.exec rows).map Prod.snd

/-- A program that touches only some rows of every valid table is confined to them. -/
theorem confined_of_touched {valid : Dict κ ν → Prop} {keys : Set κ} {program : Program ε κ ν α}
    (keeps : ∀ table value after, valid table → program.run table = .ok (value, after) →
      valid after)
    (touches : ∀ table value after, valid table → program.run table = .ok (value, after) →
      ∀ key ∈ program.touched table, key ∈ keys) :
    Confined (fun rows => ∃ table, valid table ∧ table.get = rows) keys program.rowsAfter := by
  -- A program that succeeds on lookups succeeds on each table with these.
  have ran : ∀ {table : Dict κ ν} {after : κ → Option ν},
      program.rowsAfter table.get = some after ↔
        ∃ value result, program.run table = .ok (value, result) ∧ result.get = after := by
    intro table after
    constructor
    · intro found
      obtain ⟨⟨value, rows⟩, done, rfl⟩ := Option.map_eq_some_iff.mp found
      obtain ⟨result, ran, same⟩ := run_ok_iff_exec.mpr done
      exact ⟨value, result, ran, same⟩
    · rintro ⟨value, result, ran, rfl⟩
      exact Option.map_eq_some_iff.mpr ⟨(value, result.get), run_ok_iff_exec.mp ⟨result, ran, rfl⟩, rfl⟩
  constructor
  · rintro rows after ⟨table, holds, rfl⟩ found
    obtain ⟨value, result, done, rfl⟩ := ran.mp found
    exact ⟨result, keeps table value result holds done, rfl⟩
  · rintro rows after ⟨table, holds, rfl⟩ found key outside
    obtain ⟨value, result, done, rfl⟩ := ran.mp found
    exact run_untouched done fun inside => outside (touches table value result holds done key inside)
  · rintro rows others after ⟨table, holds, rfl⟩ ⟨other, -, rfl⟩ agree found
    obtain ⟨value, result, done, rfl⟩ := ran.mp found
    obtain ⟨final, also, same⟩ := run_of_touched (touches table value result holds done) agree done
    exact ⟨final.get, ran.mpr ⟨value, final, also, rfl⟩, same⟩

/-- What a run of a table leaves is what the program leaves of its lookups. -/
theorem rowsAfter_get (program : Program ε κ ν α) (table : Dict κ ν) :
    program.rowsAfter table.get = (program.run table).toOption.map fun result => result.2.get := by
  rw [rowsAfter, ← outcome_run]
  cases program.run table <;> rfl

/-- One program after another leaves what the second makes of the rows of the first. -/
theorem rowsAfter_bind {β : Type} (program : Program ε κ ν α) {next : α → Program ε κ ν β}
    {following : (κ → Option ν) → Option (κ → Option ν)}
    (same : ∀ value rows, (next value).rowsAfter rows = following rows) (rows : κ → Option ν) :
    (program.bind next).rowsAfter rows = (program.rowsAfter rows).bind following := by
  rw [rowsAfter, exec_bind, rowsAfter, Option.map_bind, Option.bind_map]
  refine congrArg _ (funext fun result => ?_)
  exact same result.1 result.2

/-- Changing the value of a program leaves the same rows. -/
theorem rowsAfter_map {β : Type} (program : Program ε κ ν α) (change : α → β)
    (rows : κ → Option ν) :
    (program.bind fun value => done (change value)).rowsAfter rows = program.rowsAfter rows := by
  have same : ∀ value rows, (done (change value) : Program ε κ ν β).rowsAfter rows = some rows :=
    fun _ _ => rfl
  rw [rowsAfter_bind program same rows, Option.bind_fun_some]

end Program

end Pocketdex
