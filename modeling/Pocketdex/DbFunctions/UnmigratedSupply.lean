import Mathlib.Data.List.MinMax
import Pocketdex.Bank.BalanceChange
import Pocketdex.Bank.Supply
import Pocketdex.Base.Sql
import Pocketdex.Base.Versions
import Pocketdex.DbFunctions.Supply
import Pocketdex.Pocket.Migration
import Pocketdex.Pocket.Params

/-! The functions of the database that report the supply with what is not migrated yet. -/

namespace Pocketdex

/-- The tables these functions read. Heights are 64-bit numbers, blocks are stored once, and a block
has one supply of the token at most. -/
structure UnmigratedTables where
  blocks : List BlockRow
  blockSupplies : List BlockSupply
  supplies : List Supply
  morseClaimableAccounts : List MorseClaimableAccountProps
  params : List (Row ParamProps)
  balances : List (Row BalanceProps)
  moduleAccounts : List (String × String)
  heights : ∀ block ∈ blocks, block.id < 2 ^ 63
  blockIds : (blocks.map BlockRow.id).Nodup
  upoktOnce : (((Sql.innerJoin (fun (bs : BlockSupply) (sp : Supply) => sp.id = bs.supplyId)
    blockSupplies supplies).filter fun (_, sp) => sp.denom = "upokt").map
      fun (bs, _) => bs.blockId).Nodup

/-- The blocks between two dates, with their supply of the token. -/
def suppliedBlocks (tables : UnmigratedTables) (startDate endDate : Int) : List (BlockRow × Int) :=
  ((Sql.innerJoin (fun (_, bs) sp => sp.id = bs.supplyId)
    (Sql.innerJoin (fun b bs => bs.blockId = b.id) tables.blocks tables.blockSupplies)
    tables.supplies).filter fun ((b, _), sp) =>
      sp.denom = "upokt" ∧ b.within startDate endDate = true).map fun ((b, _), sp) => (b, sp.amount)

/-- Timestamps are ordered as the integers they are. -/
abbrev timestampOrder : Preorder Int := Int.instLinearOrder.toPreorder

attribute [local instance] timestampOrder

/-- The last block of a period, with its supply. -/
structure LatestBlock where
  dayTs : Int
  blockId : ℕ
  shannonSupply : Int
  deriving DecidableEq, Repr

/-- The last block of every period. -/
def latestBlocksPerDay (dateTrunc : Int → Int) (tables : UnmigratedTables) (startDate endDate : Int) :
    List LatestBlock :=
  (Sql.groupBy (fun (b, _) => dateTrunc b.timestamp)
    (suppliedBlocks tables startDate endDate)).filterMap fun (dayTs, rows) =>
      (rows.argmax fun (b, _) => b.timestamp).map fun (b, amount) => ⟨dayTs, b.id, amount⟩

/-- The sums of the three amounts of accounts, each of which may be null. -/
structure AccountSums where
  unstakedBalanceAmount : Option Int
  supplierStakeAmount : Option Int
  applicationStakeAmount : Option Int
  deriving DecidableEq, Repr

/-- The sums over some accounts. -/
def AccountSums.of (accounts : List MorseClaimableAccountProps) : AccountSums where
  unstakedBalanceAmount :=
    Sql.sum (accounts.map fun account => some account.unstakedBalanceAmount)
  supplierStakeAmount := Sql.sum (accounts.map fun account => some account.supplierStakeAmount)
  applicationStakeAmount :=
    Sql.sum (accounts.map fun account => some account.applicationStakeAmount)

/-- The sums over the accounts that are not claimed. -/
def unclaimedAccounts (tables : UnmigratedTables) : AccountSums :=
  AccountSums.of (tables.morseClaimableAccounts.filter fun account => account.claimed = false)

/-- The sums over the accounts that were claimed after the last block of each period. -/
def recentlyClaimedAccounts (tables : UnmigratedTables) (latest : List LatestBlock) :
    List (Int × AccountSums) :=
  (Sql.groupBy (fun (_, l) => l.dayTs)
    (Sql.innerJoin (fun (m : MorseClaimableAccountProps) l => m.claimedAtId.any (l.blockId < ·))
      tables.morseClaimableAccounts latest)).map
    fun (dayTs, rows) => (dayTs, AccountSums.of (rows.map Prod.fst))

/-- The supply at the last block of a period, where each of the three amounts may be null. -/
structure SupplyRow where
  dayTs : Int
  blockId : ℕ
  shannonSupply : Int
  amounts : AccountSums
  totalSupply : Int
  deriving DecidableEq, Repr

/-- Null taken for zero. -/
def coalesce (value : Option Int) : Int := value.getD 0

/-- The total supply, where amounts that are null count for nothing. -/
def AccountSums.totalSupply (amounts : AccountSums) (shannonSupply : Int) : Int :=
  shannonSupply + coalesce amounts.unstakedBalanceAmount + coalesce amounts.supplierStakeAmount +
    coalesce amounts.applicationStakeAmount

/-- The supply at the last block of every day. -/
def getTotalSupplyByDay (dateTrunc : String → Int → Int) (tables : UnmigratedTables)
    (startDate endDate : Int) : Option (List SupplyRow) :=
  let latest := latestBlocksPerDay (dateTrunc "day") tables startDate endDate
  let m := unclaimedAccounts tables
  let joined := Sql.leftJoin (fun l r => r.1 = l.dayTs) latest
    (recentlyClaimedAccounts tables latest)
  let balancesPerDay := (Sql.groupBy (fun (l, _) => l) joined).map fun (l, rows) =>
    -- A sum with a null amount of unclaimed accounts is null.
    let summed (amount : AccountSums → Option Int) := Sql.sum (rows.map fun (_, r) =>
      Sql.add (amount m) (some (coalesce (r.bind fun r => amount r.2))))
    let amounts : AccountSums := {
      unstakedBalanceAmount := summed AccountSums.unstakedBalanceAmount
      supplierStakeAmount := summed AccountSums.supplierStakeAmount
      applicationStakeAmount := summed AccountSums.applicationStakeAmount }
    { dayTs := l.dayTs
      blockId := l.blockId
      shannonSupply := l.shannonSupply
      amounts
      totalSupply := amounts.totalSupply l.shannonSupply }
  Sql.jsonbAgg (balancesPerDay.mergeSort fun row other => row.dayTs ≤ other.dayTs)

/-- The amounts of unclaimed accounts and of those claimed later, where null counts for nothing. -/
def coalescedAmounts (unclaimed : AccountSums) (recent : Option AccountSums) : AccountSums :=
  let added (amount : AccountSums → Option Int) : Option Int :=
    some (coalesce (amount unclaimed) + coalesce (recent.bind amount))
  { unstakedBalanceAmount := added AccountSums.unstakedBalanceAmount
    supplierStakeAmount := added AccountSums.supplierStakeAmount
    applicationStakeAmount := added AccountSums.applicationStakeAmount }

/-- The supply of the network by who holds it: each label with its amount. -/
def supplyComposition (tables : UnmigratedTables) (latest : List LatestBlock) (dayTs : Int) :
    Option (List (String × Option Int)) :=
  let daoAddress := ((Sql.innerJoin (fun p l => p.blockRange.contains l.blockId) tables.params
    latest).filter fun (p, _) =>
      p.data.ns = "tokenomics" ∧ p.data.key = "dao_reward_address").map
        (fun (p, l) => (l.dayTs, p.data.value)) |>.dedup
  let joined := (Sql.leftJoin (fun (_, l) d => d.1 = l.dayTs)
    (Sql.innerJoin (fun (b, _) l => b.blockRange.contains l.blockId)
      (Sql.leftJoin (fun b a => a.1 = b.data.accountId) tables.balances tables.moduleAccounts)
      latest) daoAddress).filter fun (((b, _), _), _) => b.data.denom = "upokt"
  let labelled := joined.map fun (((b, a), l), d) =>
    -- Accounts of modules come first, then the DAO, then the account of the wrapped token.
    let label := match a with
      | some (_, name) => name
      | none =>
        if d.any fun d => b.data.accountId = d.2 then "dao"
        else if b.data.accountId = "pokt14q8l4hlsdf2fqws7n6q6ck3xg5yt2qvgyynnll" then "wrapped"
        else "others"
    ((l.dayTs, label), b.data.amount)
  Sql.jsonbAgg (((Sql.groupBy Prod.fst labelled).filter fun (key, _) => key.1 = dayTs).map
    fun (key, rows) => (key.2, Sql.sum (rows.map fun (_, amount) => some amount)))

/-- The supply at the last block of a period, and who holds that of the network. -/
structure SupplyCompositionRow where
  row : SupplyRow
  unmigratedSupply : Int
  supplyComposition : Option (List (String × Option Int))

/-- The supply at the last block of every period, with its composition. -/
def getSupplyCompositionBetweenDates (dateTrunc : String → Int → Int) (tables : UnmigratedTables)
    (startDate endDate : Int) (truncInterval : String) : Option (List SupplyCompositionRow) :=
  let latest := latestBlocksPerDay (dateTrunc truncInterval) tables startDate endDate
  let balancesPerDay := (Sql.leftJoin (fun l r => r.1 = l.dayTs) latest
    (recentlyClaimedAccounts tables latest)).map fun (l, r) =>
      (l, coalescedAmounts (unclaimedAccounts tables) (r.map Prod.snd))
  let rows := balancesPerDay.map fun (l, amounts) =>
    { row := {
        dayTs := l.dayTs
        blockId := l.blockId
        shannonSupply := l.shannonSupply
        amounts
        totalSupply := amounts.totalSupply l.shannonSupply }
      unmigratedSupply := coalesce amounts.applicationStakeAmount +
        coalesce amounts.unstakedBalanceAmount + coalesce amounts.supplierStakeAmount
      supplyComposition := supplyComposition tables latest l.dayTs }
  Sql.jsonbAgg (rows.mergeSort fun row other => row.row.dayTs ≤ other.row.dayTs)

/-- A number as a `BIGINT`, which has 64 bits. -/
def toBigint (value : Int) : Except String Int :=
  if -2 ^ 63 ≤ value ∧ value < 2 ^ 63 then .ok value else .error "bigint out of range"

/-- The supply at the last block of a range. -/
structure SupplySnapshot where
  latestBlock : Option ℕ
  networkSupply : Option Int
  amounts : AccountSums
  unmigratedSupply : Int
  totalSupply : Int
  deriving DecidableEq, Repr

/-- The supply at the last block between two dates. -/
def getTotalSupplyBetweenDates (tables : UnmigratedTables) (startDate endDate : Int) :
    Except String SupplySnapshot := do
  let latest := (suppliedBlocks tables startDate endDate).argmax fun (b, _) => b.timestamp
  let shannonSupply ← latest.mapM fun (_, amount) => toBigint amount
  let latestBlockId := latest.map fun (b, _) => b.id
  -- No account was claimed after a block that is null.
  let recent := tables.morseClaimableAccounts.filter fun account =>
    account.claimedAtId.any fun claimedAt => latestBlockId.any (· < claimedAt)
  let amounts := coalescedAmounts (unclaimedAccounts tables) (some (AccountSums.of recent))
  return {
    latestBlock := latestBlockId
    networkSupply := shannonSupply
    amounts
    unmigratedSupply := coalesce amounts.unstakedBalanceAmount +
      coalesce amounts.supplierStakeAmount + coalesce amounts.applicationStakeAmount
    totalSupply := amounts.totalSupply (coalesce shannonSupply) }

end Pocketdex
