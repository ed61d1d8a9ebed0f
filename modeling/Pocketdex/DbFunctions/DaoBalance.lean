import Mathlib.Data.List.MinMax
import Pocketdex.Bank.BalanceChange
import Pocketdex.Base.Sql
import Pocketdex.DbFunctions.Supply
import Pocketdex.Pocket.Params

/-! The function of the database that reports on the balance of the DAO. -/

namespace Pocketdex

/-- The height a report is about, where zero stands for the latest block. -/
def effectiveHeight (blocks : List BlockRow) (height : ℕ) : Option ℕ :=
  if height = 0 then (blocks.argmax BlockRow.id).map BlockRow.id else some height

/-- Whether a version of a parameter names the address of the DAO at a height. -/
def isDaoRewardAddress (height : ℕ) (p : Row ParamProps) : Bool :=
  p.data.ns = "tokenomics" ∧ p.data.key = "dao_reward_address" ∧ p.openAt height

/-- The balance of the DAO at a height, which is null when none is visible there. -/
def getDaoBalanceAtHeight (params : List (Row ParamProps)) (balances : List (Row BalanceProps))
    (blocks : List BlockRow) (height : ℕ) : Option Int := do
  let height ← effectiveHeight blocks height
  -- The conditions on the balance leave no parameter without one.
  let rows := (Sql.leftJoin (fun p b => b.data.accountId = p.data.value) params balances).filter
    fun (p, b) => isDaoRewardAddress height p && b.any fun b =>
      decide (b.data.denom = "upokt") && b.openAt height
  rows.head?.map fun (_, b) => (b.map fun b => b.data.amount).getD 0

end Pocketdex
