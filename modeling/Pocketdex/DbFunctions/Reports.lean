import Mathlib.Data.List.MinMax
import Pocketdex.Base.Versions
import Pocketdex.Pocket.Applications
import Pocketdex.Pocket.Gateways
import Pocketdex.Pocket.Suppliers

/-! The reports of a block on what turned unstaked in it, read from the row versions. -/

namespace Pocketdex

/-- `lower` of a range, which is null for a range without heights. -/
def BlockRange.lowerOrNull (range : BlockRange) : Option ℕ :=
  if range.upper.any (· ≤ range.lower) then none else some range.lower

/-- The columns of a block that report on what turned unstaked in it. -/
structure BlockReport where
  id : ℕ
  unstakedSuppliers : ℕ
  unstakedSuppliersTokens : Int
  unstakedApps : ℕ
  unstakedAppsTokens : Int
  unstakedGateways : ℕ
  unstakedGatewaysTokens : Int
  deriving DecidableEq, Repr

section

variable {ρ : Type} (id : ρ → String) (stakeStatus : ρ → StakeStatus) (stakeAmount : ρ → Int)

/-- The unstaked versions that were written in a block. -/
def unstakedHere (blockId : ℕ) (rows : List (Row ρ)) : List (Row ρ) :=
  rows.filter fun row => stakeStatus row.data = .unstaked ∧ row.blockRange.lowerOrNull = some blockId

/-- The stake of the last version that was written before a block. -/
def previousStake (blockId : ℕ) (ofId : String) (rows : List (Row ρ)) : Option Int :=
  let earlier := rows.filter fun row =>
    id row.data = ofId ∧ row.blockRange.lowerOrNull.any (· < blockId)
  (earlier.argmax fun row => row.blockRange.lower).map fun row => stakeAmount row.data

/-- How many versions turned unstaked in a block, and the stakes that came before them. -/
def unstakedData (blockId : ℕ) (rows : List (Row ρ)) : ℕ × Int :=
  let here := unstakedHere stakeStatus blockId rows
  (here.length,
    (here.map fun row => (previousStake id stakeAmount blockId (id row.data) rows).getD 0).sum)

end

/-- Reporting the suppliers that turned unstaked on the row of a block. -/
def updateUnstakedSuppliersDataOnBlock (blockId : ℕ) (suppliers : List (Row Supplier))
    (block : BlockReport) : BlockReport :=
  let (unstakedSuppliers, unstakedSuppliersTokens) :=
    unstakedData Supplier.id Supplier.stakeStatus Supplier.stakeAmount blockId suppliers
  if block.id = blockId then { block with unstakedSuppliers, unstakedSuppliersTokens } else block

/-- Reporting the applications that turned unstaked on the row of a block. -/
def updateUnstakedAppsDataOnBlock (blockId : ℕ) (applications : List (Row Application))
    (block : BlockReport) : BlockReport :=
  let (unstakedApps, unstakedAppsTokens) :=
    unstakedData Application.id Application.stakeStatus Application.stakeAmount blockId applications
  if block.id = blockId then { block with unstakedApps, unstakedAppsTokens } else block

/-- Reporting the gateways that turned unstaked on the row of a block. -/
def updateUnstakedGatewaysDataOnBlock (blockId : ℕ) (gateways : List (Row Gateway))
    (block : BlockReport) : BlockReport :=
  let (unstakedGateways, unstakedGatewaysTokens) :=
    unstakedData Gateway.id Gateway.stakeStatus Gateway.stakeAmount blockId gateways
  if block.id = blockId then { block with unstakedGateways, unstakedGatewaysTokens } else block

end Pocketdex
