import Pocketdex.Bank.ModuleAccounts

/-! The balances of the genesis file are stored with the block the chain starts at. -/

namespace Pocketdex

/-- The coins the genesis file gives to one address. -/
structure GenesisBalance where
  address : String
  coins : List Coin
  deriving DecidableEq, Repr

/-- The genesis file as far as balances need it. -/
structure Genesis where
  initialHeight : ℕ
  balances : List GenesisBalance
  deriving DecidableEq, Repr

/-- The height the genesis file belongs to, where zero stands for the first block. -/
def Genesis.height (genesis : Genesis) : ℕ :=
  if genesis.initialHeight = 0 then 1 else genesis.initialHeight

/-- The coins of the genesis file, each with its address. -/
def Genesis.coins (genesis : Genesis) : List (String × Coin) :=
  genesis.balances.flatMap fun balance => balance.coins.map fun coin => (balance.address, coin)

/-- The balances of the module accounts at the genesis block. -/
def _handleModuleAccounts (blockId : ℕ) (moduleAccounts : List ExtendedAccount) :
    Except String (List BalanceProps) :=
  (moduleCoins moduleAccounts).mapM fun (address, coin) => coinBalance blockId address coin

/-- The balances of the genesis file. -/
def _handleGenesisBalances (blockId : ℕ) (genesis : Genesis) : Except String (List BalanceProps) :=
  genesis.coins.mapM fun (address, coin) => coinBalance blockId address coin

/-- At the genesis block both groups of balances are saved side by side. -/
def handleGenesis (genesis : Genesis) (blockId : ℕ) (moduleAccounts : List ExtendedAccount) :
    Except String (Task (List BalanceProps)) := do
  if blockId ≠ genesis.height then return Task.skip
  else
    let moduleBalances ← _handleModuleAccounts blockId moduleAccounts
    let genesisBalances ← _handleGenesisBalances blockId genesis
    return Task.par (Task.step moduleBalances) (Task.step genesisBalances)

/-- The balances after groups of records are saved in order. -/
def saveBalances (blockId : ℕ) (groups : List (List BalanceProps))
    (rows : List (Row BalanceProps)) : List (Row BalanceProps) :=
  groups.foldl (fun rows records => storeBulkCreate BalanceProps.id blockId records rows) rows

/-- The balances of a block: module accounts, the genesis groups in some order, and the events. -/
def blockBalances (cosmosDecimalToBigInt : String → Int) (blockId : ℕ)
    (moduleAccounts : List ExtendedAccount) (genesisGroups : List (List BalanceProps))
    (events : List CosmosEvent) (rows : List (Row BalanceProps)) :
    Except String (List (Row BalanceProps)) := do
  let rows ← handleModuleAccounts blockId moduleAccounts rows
  indexBalances cosmosDecimalToBigInt events blockId (saveBalances blockId genesisGroups rows)

end Pocketdex
