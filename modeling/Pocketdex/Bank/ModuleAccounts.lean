import Pocketdex.Bank.BalanceChange

/-! The balances of module accounts are taken from the chain's state at the block. -/

namespace Pocketdex

/-- A module account with the coins the chain returns for it. -/
structure ExtendedAccount where
  address : String
  balances : List Coin
  deriving DecidableEq, Repr

/-- The coins of the accounts, each with its account's address. -/
def moduleCoins (moduleAccounts : List ExtendedAccount) : List (String × Coin) :=
  moduleAccounts.flatMap fun account => account.balances.map fun coin => (account.address, coin)

/-- The balance a coin stands for at a block. -/
def coinBalance (blockId : ℕ) (address : String) (coin : Coin) : Except String BalanceProps := do
  let amount ← bigInt coin.amount
  return ⟨getBalanceId address coin.denom, address, coin.denom, amount, blockId⟩

/-- A module's balance is created when it is missing, and saved when its amount differs. -/
def saveModuleBalance (blockId : ℕ) (rows : List (Row BalanceProps)) (held : String × Coin) :
    Except String (List (Row BalanceProps)) := do
  let (address, coin) := held
  let balanceId := getBalanceId address coin.denom
  match storeGet BalanceProps.id blockId balanceId rows with
  | none => do
    let balance ← coinBalance blockId address coin
    return storeSave BalanceProps.id blockId balance rows
  | some prevBalance =>
    -- A balance that is the same is not written again.
    if toString prevBalance.amount ≠ coin.amount then do
      let amount ← bigInt coin.amount
      return storeSave BalanceProps.id blockId
        { prevBalance with amount := amount, lastUpdatedBlockId := blockId } rows
    else return rows

/-- The balances of all module accounts are saved one after the other. -/
def handleModuleAccounts (blockId : ℕ) (moduleAccounts : List ExtendedAccount)
    (rows : List (Row BalanceProps)) : Except String (List (Row BalanceProps)) :=
  (moduleCoins moduleAccounts).foldlM (saveModuleBalance blockId) rows

end Pocketdex
