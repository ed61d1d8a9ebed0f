import Mathlib.Data.Set.Disjoint
import Mathlib.Logic.Function.Basic
import Pocketdex.Base.Dict
import Pocketdex.Base.Except

/-! Programs that read and write the rows of one table, and when two of them commute. -/

namespace Pocketdex

/-- A program over keyed rows that ends with a value or fails. -/
inductive Program (ε κ ν α : Type) where
  | done (value : α)
  | fail (error : ε)
  | get (key : κ) (next : Option ν → Program ε κ ν α)
  | save (key : κ) (row : ν) (next : Program ε κ ν α)

namespace Program

variable {ε κ ν α β : Type}

/-- One program followed by another that depends on its value. -/
def bind : Program ε κ ν α → (α → Program ε κ ν β) → Program ε κ ν β
  | done value, next => next value
  | fail error, _ => fail error
  | get key rest, next => get key fun row => (rest row).bind next
  | save key row rest, next => save key row (rest.bind next)

instance : Monad (Program ε κ ν) where
  pure := done
  bind := bind

/-- A computation that needs no rows. -/
def lift : Except ε α → Program ε κ ν α
  | .ok value => done value
  | .error error => fail error

/-- The row under a key. -/
def read (key : κ) : Program ε κ ν (Option ν) := get key done

/-- Storing a row under a key. -/
def write (key : κ) (row : ν) : Program ε κ ν Unit := save key row (done ())

section

variable [DecidableEq κ]

/-- Running a program against a stored table. -/
def run : Program ε κ ν α → Dict κ ν → Except ε (α × Dict κ ν)
  | done value, table => .ok (value, table)
  | fail error, _ => .error error
  | get key next, table => (next (table.get key)).run table
  | save key row next, table => next.run (table.set key row)

/-- The keys of the rows a run reads or writes. -/
def touched : Program ε κ ν α → Dict κ ν → List κ
  | done _, _ => []
  | fail _, _ => []
  | get key next, table => key :: (next (table.get key)).touched table
  | save key row next, table => key :: next.touched (table.set key row)

/-- A run seen through its lookups: whether it succeeds, its value, and the rows it leaves. -/
def exec : Program ε κ ν α → (κ → Option ν) → Option (α × (κ → Option ν))
  | done value, rows => some (value, rows)
  | fail _, _ => none
  | get key next, rows => (next (rows key)).exec rows
  | save key row next, rows => next.exec (Function.update rows key (some row))

end

/-- Every row the program can read or write has its key among the given ones. -/
def Within (keys : Set κ) : Program ε κ ν α → Prop
  | done _ => True
  | fail _ => True
  | get key next => key ∈ keys ∧ ∀ row, (next row).Within keys
  | save key _ next => key ∈ keys ∧ next.Within keys

/-- Every row the program stores goes under its own id. -/
def SavesOwn (id : ν → κ) : Program ε κ ν α → Prop
  | done _ => True
  | fail _ => True
  | get _ next => ∀ row, (next row).SavesOwn id
  | save key row next => id row = key ∧ next.SavesOwn id

@[simp] theorem pure_eq (value : α) : (pure value : Program ε κ ν α) = done value := rfl

@[simp] theorem bind_eq (program : Program ε κ ν α) (next : α → Program ε κ ν β) :
    program >>= next = program.bind next := rfl

@[simp] theorem done_bind (value : α) (next : α → Program ε κ ν β) :
    (done value : Program ε κ ν α).bind next = next value := rfl

@[simp] theorem fail_bind (error : ε) (next : α → Program ε κ ν β) :
    (fail error : Program ε κ ν α).bind next = fail error := rfl

@[simp] theorem read_bind (key : κ) (next : Option ν → Program ε κ ν β) :
    (read key : Program ε κ ν (Option ν)).bind next = get key next := rfl

@[simp] theorem write_bind (key : κ) (row : ν) (next : Unit → Program ε κ ν β) :
    (write key row : Program ε κ ν Unit).bind next = save key row (next ()) := rfl

@[simp] theorem throw_eq (error : ε) : (lift (.error error) : Program ε κ ν α) = fail error := rfl

@[simp] theorem lift_ok (value : α) : (lift (.ok value) : Program ε κ ν α) = done value := rfl

/-- Programs in a row can be grouped either way. -/
@[simp] theorem bind_assoc {γ : Type} (program : Program ε κ ν α) (next : α → Program ε κ ν β)
    (last : β → Program ε κ ν γ) :
    (program.bind next).bind last = program.bind fun value => (next value).bind last := by
  induction program with
  | done value => rfl
  | fail error => rfl
  | get key following ih => simp only [bind, ih]
  | save key row following ih => simp only [bind, ih]

/-- A program followed by its own value is the program. -/
@[simp] theorem bind_done (program : Program ε κ ν α) : program.bind done = program := by
  induction program with
  | done value => rfl
  | fail error => rfl
  | get key following ih => simp only [bind, ih]
  | save key row following ih => simp only [bind, ih]

instance : LawfulMonad (Program ε κ ν) :=
  LawfulMonad.mk' _ (fun program => bind_done program) (fun _ _ => rfl)
    (fun program next last => bind_assoc program next last)

/-- A program stays within its keys when both of its parts do. -/
theorem Within.bind {keys : Set κ} {program : Program ε κ ν α} {next : α → Program ε κ ν β}
    (first : program.Within keys) (rest : ∀ value, (next value).Within keys) :
    (program.bind next).Within keys := by
  induction program with
  | done value => exact rest value
  | fail error => exact trivial
  | get key following ih => exact ⟨first.1, fun row => ih row (first.2 row)⟩
  | save key row following ih => exact ⟨first.1, ih first.2⟩

/-- A computation without rows stays within any keys. -/
theorem Within.lift (keys : Set κ) (result : Except ε α) :
    (Program.lift result : Program ε κ ν α).Within keys := by
  cases result <;> exact trivial

/-- A program that ends at once stores nothing. -/
theorem SavesOwn.done (id : ν → κ) (value : α) :
    (Program.done value : Program ε κ ν α).SavesOwn id := trivial

/-- Reading a row stores nothing. -/
theorem SavesOwn.get {id : ν → κ} {key : κ} {next : Option ν → Program ε κ ν α}
    (rest : ∀ row, (next row).SavesOwn id) : (Program.get key next).SavesOwn id := rest

/-- A program stores rows under their own ids when both of its parts do. -/
theorem SavesOwn.bind {id : ν → κ} {program : Program ε κ ν α} {next : α → Program ε κ ν β}
    (first : program.SavesOwn id) (rest : ∀ value, (next value).SavesOwn id) :
    (program.bind next).SavesOwn id := by
  induction program with
  | done value => exact rest value
  | fail error => exact trivial
  | get key following ih => exact fun row => ih row (first row)
  | save key row following ih => exact ⟨first.1, ih first.2⟩

/-- A computation without rows stores none. -/
theorem SavesOwn.lift (id : ν → κ) (result : Except ε α) :
    (Program.lift result : Program ε κ ν α).SavesOwn id := by
  cases result <;> exact trivial

/-- A list of programs stores rows under their own ids when each of them does. -/
theorem SavesOwn.mapM {id : ν → κ} {handleOne : β → Program ε κ ν α}
    (each : ∀ item, (handleOne item).SavesOwn id) (items : List β) :
    (items.mapM handleOne).SavesOwn id := by
  induction items with
  | nil => exact trivial
  | cons item rest ih =>
    rw [List.mapM_cons]
    exact (each item).bind fun value => ih.bind fun values => trivial

variable [DecidableEq κ]

/-- A run of two programs is a run of the first and then one of the second. -/
theorem run_bind_ok {program : Program ε κ ν α} {next : α → Program ε κ ν β} {table : Dict κ ν}
    {final : β × Dict κ ν} : (program.bind next).run table = .ok final ↔
      ∃ value middle, program.run table = .ok (value, middle) ∧
        (next value).run middle = .ok final := by
  induction program generalizing table with
  | done value =>
    constructor
    · exact fun ran => ⟨value, table, rfl, ran⟩
    · rintro ⟨_, _, same, ran⟩
      cases same
      exact ran
  | fail error => simp [run]
  | get key following ih => exact ih _
  | save key row following ih => exact ih

/-- A run over a list gives one value for each item, each from a run of that item's program. -/
theorem forall₂_of_run_mapM {handleOne : β → Program ε κ ν α} {relates : β → α → Prop}
    (each : ∀ item table value after, (handleOne item).run table = .ok (value, after) →
      relates item value) {items : List β} {table after : Dict κ ν} {values : List α}
    (ran : (items.mapM handleOne).run table = .ok (values, after)) :
    List.Forall₂ relates items values := by
  induction items generalizing table values with
  | nil =>
    cases ran
    exact List.Forall₂.nil
  | cons item rest ih =>
    rw [List.mapM_cons, bind_eq] at ran
    obtain ⟨value, middle, first, ran⟩ := run_bind_ok.mp ran
    obtain ⟨others, last, later, ran⟩ := run_bind_ok.mp ran
    cases ran
    exact List.Forall₂.cons (each item table value middle first) (ih later)

/-- Rows that are all stored under their own ids stay so. -/
theorem SavesOwn.run {id : ν → κ} {program : Program ε κ ν α} (owns : program.SavesOwn id)
    {table : Dict κ ν} {value : α} {after : Dict κ ν} (ran : program.run table = .ok (value, after))
    (byId : ∀ key row, table.get key = some row → id row = key) :
    ∀ key row, after.get key = some row → id row = key := by
  induction program generalizing table with
  | done result =>
    cases ran
    exact byId
  | fail error => simp [Program.run] at ran
  | get key next ih => exact ih _ (owns _) ran byId
  | save key row next ih =>
    refine ih owns.2 ran fun other found stored => ?_
    rw [Dict.get_set] at stored
    split at stored
    · rename_i same
      cases stored
      exact owns.1.trans same.symm
    · exact byId other found stored

/-- A run that begins with a computation without rows succeeds only if the computation does. -/
theorem run_lift_bind {result : Except ε α} {next : α → Program ε κ ν β} {table : Dict κ ν}
    {final : β × Dict κ ν} (ran : ((lift result).bind next).run table = .ok final) :
    ∃ value, result = .ok value ∧ (next value).run table = .ok final := by
  cases result with
  | error error => simp [run] at ran
  | ok value => exact ⟨value, rfl, ran⟩

/-- A run touches only rows among its program's keys. -/
theorem Within.touched {keys : Set κ} {program : Program ε κ ν α} (within : program.Within keys)
    (table : Dict κ ν) : ∀ key ∈ program.touched table, key ∈ keys := by
  induction program generalizing table with
  | done value => simp [Program.touched]
  | fail error => simp [Program.touched]
  | get key following ih =>
    exact List.forall_mem_cons.mpr ⟨within.1, ih _ (within.2 _) table⟩
  | save key row following ih =>
    exact List.forall_mem_cons.mpr ⟨within.1, ih within.2 _⟩

/-- What a run of the stored table leaves, seen through its lookups. -/
def outcome : Except ε (α × Dict κ ν) → Option (α × (κ → Option ν))
  | .ok (value, table) => some (value, table.get)
  | .error _ => none

/-- Storing a row updates the lookups at its key. -/
theorem get_set_eq (table : Dict κ ν) (key : κ) (row : ν) :
    (table.set key row).get = Function.update table.get key (some row) := by
  funext other
  by_cases same : other = key
  · subst same; simp
  · simp [Dict.get_set_ne table row same, same]

/-- Running against the table and against its lookups gives the same outcome. -/
theorem outcome_run (program : Program ε κ ν α) (table : Dict κ ν) :
    outcome (program.run table) = program.exec table.get := by
  induction program generalizing table with
  | done value => rfl
  | fail error => rfl
  | get key next ih => exact ih _ table
  | save key row next ih =>
    simp only [run, exec]
    rw [ih, get_set_eq]

/-- Handling succeeds on a table when it succeeds on its lookups. -/
theorem run_ok_iff_exec {program : Program ε κ ν α} {table : Dict κ ν} {value : α}
    {rows : κ → Option ν} :
    (∃ after, program.run table = .ok (value, after) ∧ after.get = rows) ↔
      program.exec table.get = some (value, rows) := by
  rw [← outcome_run]
  cases ran : program.run table with
  | error error => simp [outcome]
  | ok result =>
    obtain ⟨found, after⟩ := result
    simp only [Except.ok.injEq, Prod.mk.injEq, outcome, Option.some.injEq]
    constructor
    · rintro ⟨other, ⟨same, equal⟩, rows⟩
      exact ⟨same, by rw [equal, rows]⟩
    · rintro ⟨same, rows⟩
      exact ⟨after, ⟨same, rfl⟩, rows⟩

/-- Running two programs in a row runs the second on what the first leaves. -/
theorem exec_bind (program : Program ε κ ν α) (next : α → Program ε κ ν β)
    (rows : κ → Option ν) :
    (program.bind next).exec rows =
      (program.exec rows).bind fun result => (next result.1).exec result.2 := by
  induction program generalizing rows with
  | done value => rfl
  | fail error => rfl
  | get key following ih => exact ih _ rows
  | save key row following ih => exact ih _

end Program

end Pocketdex
