import Mathlib.Logic.Relation
import Pocketdex.Base.Program

/-! Programs that run side by side over one table, and what each of them keeps of its rows. -/

namespace Pocketdex

variable {ε κ ν α β : Type}

namespace Program

/-- As long as it reads good rows, a program stores good rows and ends with a good value. -/
def Keeps (good : κ → ν → Prop) (ends : α → Prop) : Program ε κ ν α → Prop
  | done value => ends value
  | fail _ => True
  | get key next =>
    ∀ row, (∀ stored, row = some stored → good key stored) → (next row).Keeps good ends
  | save key row next => good key row ∧ next.Keeps good ends

variable {good : κ → ν → Prop}

/-- A program keeps rows good when its second part does for every value the first may end with. -/
theorem Keeps.bind {between : α → Prop} {ends : β → Prop} {program : Program ε κ ν α}
    {next : α → Program ε κ ν β} (first : program.Keeps good between)
    (rest : ∀ value, between value → (next value).Keeps good ends) :
    (program.bind next).Keeps good ends := by
  -- The second part takes over where the first one is done.
  induction program with
  | done value => exact rest value first
  | fail error => exact trivial
  | get key following ih => exact fun row known => ih row (first row known)
  | save key row following ih => exact ⟨first.1, ih first.2⟩

/-- After a computation without rows, a program keeps them good when its rest does for the value
that was computed. -/
theorem Keeps.lift_bind {ends : β → Prop} {result : Except ε α} {next : α → Program ε κ ν β}
    (rest : ∀ value, result = .ok value → (next value).Keeps good ends) :
    ((Program.lift result).bind next).Keeps good ends := by
  cases result with
  | error error => exact trivial
  | ok value => exact rest value rfl

/-- A row that is read is good. -/
theorem Keeps.read (key : κ) : (Program.read key : Program ε κ ν (Option ν)).Keeps good
    fun row => ∀ stored, row = some stored → good key stored :=
  fun _ known => known

/-- Storing a good row keeps all rows good. -/
theorem Keeps.write {key : κ} {row : ν} (valid : good key row) :
    (Program.write key row : Program ε κ ν Unit).Keeps good fun _ => True :=
  ⟨valid, trivial⟩

/-- Programs over a list keep rows good when each of them does. -/
theorem Keeps.mapM {ends : α → Prop} {handleOne : β → Program ε κ ν α}
    (each : ∀ item, (handleOne item).Keeps good ends) (items : List β) :
    (items.mapM handleOne).Keeps good fun values => ∀ value ∈ values, ends value := by
  induction items with
  | nil => exact fun value member => absurd member List.not_mem_nil
  | cons item rest ih =>
    -- The values of the rest are collected behind the first one.
    rw [List.mapM_cons]
    refine (each item).bind fun value valid => ih.bind fun values others => ?_
    exact List.forall_mem_cons.mpr ⟨valid, others⟩

end Program

/-- Programs in progress, and the table they share. -/
structure Pool (ε κ ν : Type) where
  programs : List (Program ε κ ν Unit)
  table : Dict κ ν

namespace Pool

variable [DecidableEq κ]

/-- One of the programs reads a row or stores one. -/
inductive Step : Pool ε κ ν → Pool ε κ ν → Prop where
  | get {before after : List (Program ε κ ν Unit)} {key : κ}
      {next : Option ν → Program ε κ ν Unit} {table : Dict κ ν} :
      Step ⟨before ++ .get key next :: after, table⟩
        ⟨before ++ next (table.get key) :: after, table⟩
  | save {before after : List (Program ε κ ν Unit)} {key : κ} {row : ν}
      {next : Program ε κ ν Unit} {table : Dict κ ν} :
      Step ⟨before ++ .save key row next :: after, table⟩
        ⟨before ++ next :: after, table.set key row⟩

/-- What programs get to, whichever of them takes each step. -/
def Reaches : Pool ε κ ν → Pool ε κ ν → Prop := Relation.ReflTransGen Step

/-- All rows are good, and all programs keep them so. -/
structure Good (good : κ → ν → Prop) (pool : Pool ε κ ν) : Prop where
  rows : ∀ key row, pool.table.get key = some row → good key row
  programs : ∀ program ∈ pool.programs, program.Keeps good fun _ => True

variable {good : κ → ν → Prop} {pool next : Pool ε κ ν}

/-- Every step keeps all rows good. -/
theorem Step.keeps (step : Step pool next) (valid : Good good pool) : Good good next := by
  obtain ⟨rows, programs⟩ := valid
  cases step with
  | get =>
    -- The row that is read is one of the table.
    refine ⟨rows, fun program member => ?_⟩
    rcases List.mem_append.mp member with early | inside
    · exact programs program (List.mem_append_left _ early)
    · rcases List.mem_cons.mp inside with rfl | late
      · exact programs _ (List.mem_append_right _ List.mem_cons_self) _ fun stored => rows _ stored
      · exact programs program (List.mem_append_right _ (List.mem_cons_of_mem _ late))
  | save =>
    -- The row that is stored is good, by the program it belongs to.
    have saving := programs _ (List.mem_append_right _ List.mem_cons_self)
    refine ⟨fun key row stored => ?_, fun program member => ?_⟩
    · rw [Dict.get_set] at stored
      split at stored
      · rename_i same
        cases stored
        exact same ▸ saving.1
      · exact rows key row stored
    · rcases List.mem_append.mp member with early | inside
      · exact programs program (List.mem_append_left _ early)
      · rcases List.mem_cons.mp inside with rfl | late
        · exact saving.2
        · exact programs program (List.mem_append_right _ (List.mem_cons_of_mem _ late))

/-- Programs that keep rows good do so in every interleaving. -/
theorem Reaches.keeps (reached : Reaches pool next) (valid : Good good pool) : Good good next := by
  induction reached with
  | refl => exact valid
  | tail _ step ih => exact step.keeps ih

end Pool

end Pocketdex
