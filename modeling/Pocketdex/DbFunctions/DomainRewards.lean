import Pocketdex.Base.History
import Pocketdex.Base.Sql
import Pocketdex.DbFunctions.Supply
import Pocketdex.Pocket.Settlement
import Pocketdex.Pocket.SupplierIndex

/-! The daily summary of rewards by domain and service, which some blocks of the day refresh. -/

namespace Pocketdex

/-- The summary of a domain and service for a day. -/
structure DomainServiceDailyRewards where
  domain : String
  serviceId : String
  day : Int
  relays : Option Int
  estimatedRelays : Option Int
  computedUnits : Option Int
  estimatedComputedUnits : Option Int
  grossRewards : Option Int
  suppliersCount : ℕ
  deriving DecidableEq, Repr

/-- The tables that are read for the summary, and its own. -/
structure RewardsTables where
  blocks : List BlockRow
  supplierTables : SupplierTables
  eventClaimSettleds : List Settlement.EventClaimSettledProps
  domainServiceDailyRewards : List DomainServiceDailyRewards

/-- The settled claims of a day, for every domain of the config they were settled under. -/
def claimRows (toDate : Int → Int) (day : Int) (tables : RewardsTables) :
    List ((String × String) × Settlement.EventClaimSettledProps) :=
  let joined := (Sql.innerJoin (fun (e, _) ssc => e.supplierId = some ssc.data.supplierId ∧
      ssc.data.serviceId = e.serviceId ∧ ssc.blockRange.contains e.blockId = true)
    (Sql.innerJoin (fun e b => b.id = e.blockId) tables.eventClaimSettleds tables.blocks)
    tables.supplierTables.services).filter fun ((_, b), _) => toDate b.timestamp = day
  joined.flatMap fun ((e, _), ssc) => ssc.data.domains.map fun domain => ((domain, e.serviceId), e)

/-- The suppliers that were staked in some heights, for every domain and service they had a config
for in these heights. -/
def stakedRows (blockRange : BlockRange) (tables : RewardsTables) :
    List ((String × String) × String) :=
  let joined := (Sql.innerJoin (fun ssc s => s.data.id = ssc.data.supplierId ∧
      s.blockRange.overlaps blockRange = true ∧ s.data.stakeStatus = .staked)
    tables.supplierTables.services tables.supplierTables.suppliers).filter
      fun (ssc, _) => ssc.blockRange.overlaps blockRange
  joined.flatMap fun (ssc, _) =>
    ssc.data.domains.map fun domain => ((domain, ssc.data.serviceId), ssc.data.supplierId)

/-- The heights of the blocks of a day, of which there is one at least when it is summarized. -/
def dayRange (ids : List ℕ) : BlockRange where
  lower := ids.min?.getD 0
  upper := some ((ids.max?.map (· + 1)).getD 0)

/-- The summary of a day, with the suppliers of some of its heights. -/
def dailyRewards (toDate : Int → Int) (day : Int) (blockRange : BlockRange)
    (tables : RewardsTables) : List DomainServiceDailyRewards :=
  let claims := Sql.groupBy Prod.fst (claimRows toDate day tables)
  let staked := (Sql.groupBy Prod.fst (stakedRows blockRange tables)).map
    fun (key, rows) => (key, Sql.countDistinct (rows.map Prod.snd))
  (Sql.leftJoin (fun c s => s.1 = c.1) claims staked).map fun ((key, rows), s) => {
    domain := key.1
    serviceId := key.2
    day
    relays := Sql.sum (rows.map fun (_, e) => some e.numRelays)
    estimatedRelays := Sql.sum (rows.map fun (_, e) => some e.numEstimatedRelays)
    computedUnits := Sql.sum (rows.map fun (_, e) => some e.numClaimedComputedUnits)
    estimatedComputedUnits := Sql.sum (rows.map fun (_, e) => some e.numEstimatedComputedUnits)
    grossRewards := Sql.sum (rows.map fun (_, e) => some e.claimedAmount)
    suppliersCount := (s.map Prod.snd).getD 0 }

/-- Summarizing the day of a block again, as far as the stored blocks go. -/
def refreshDomainServiceDailyRewards (toDate : Int → Int) (blockId : ℕ) (tables : RewardsTables) :
    RewardsTables :=
  match tables.blocks.find? fun b => b.id = blockId with
  | none => tables
  | some block =>
    let day := toDate block.timestamp
    let ids := (tables.blocks.filter fun b => toDate b.timestamp = day).map BlockRow.id
    { tables with
      domainServiceDailyRewards :=
        (tables.domainServiceDailyRewards.filter fun row => row.day ≠ day) ++
          dailyRewards toDate day (dayRange ids) tables }

/-- A block with its messages and events, and the mint ratio that is stored when it is indexed. -/
structure RewardsBlock where
  height : ℕ
  timestamp : Int
  messages : List CosmosMessage
  events : List CosmosEvent
  mintRatioParam : Option String
  heights : ∀ event ∈ events, event.height = height

/-- Whether an event has no amount that is empty. -/
def hasValidAmountAttribute (event : CosmosEvent) : Bool :=
  !event.attributes.any fun entry => entry.key = "amount" && entry.value = ""

namespace RewardsBlock

/-- The events of a block that are handled. -/
def filteredEvents (block : RewardsBlock) : List CosmosEvent :=
  block.events.filter hasValidAmountAttribute

/-- The events of one type. -/
def eventsOf (block : RewardsBlock) (type : EventType) : List CosmosEvent :=
  block.filteredEvents.filter fun event => event.type = type

/-- The messages and events of a block that stakes are indexed from. -/
def data (block : RewardsBlock) : List StakeDatum :=
  block.messages.map .msg ++ block.filteredEvents.map .event

/-- Whether a block settles claims. -/
def hasClaimSettled (block : RewardsBlock) : Bool :=
  block.events.any fun event => event.type = .claimSettled

end RewardsBlock

/-- Blocks that settle claims refresh the summary of their day. -/
def handleAddBlockReports (toDate : Int → Int) (block : RewardsBlock) (tables : RewardsTables) :
    RewardsTables :=
  if block.hasClaimSettled then refreshDomainServiceDailyRewards toDate block.height tables
  else tables

/-- A block is stored with its suppliers and settled claims. -/
def storeRewardsBlock (externals : Externals) (kindText : CosmosEventKind → String)
    (block : RewardsBlock) (tables : RewardsTables) : Except String RewardsTables := do
  let supplierTables ← indexSupplier externals block.height tables.supplierTables block.data
  let settled ← Settlement.eventsSettled kindText block.mintRatioParam
    (block.eventsOf .claimSettled) (block.eventsOf .applicationOverserviced)
  return {
    blocks := tables.blocks ++ [⟨block.height, block.timestamp⟩]
    supplierTables
    eventClaimSettleds := tables.eventClaimSettleds ++ settled.map Prod.fst
    domainServiceDailyRewards := tables.domainServiceDailyRewards }

/-- A block is stored, and then reported on. -/
def indexRewardsBlock (externals : Externals) (kindText : CosmosEventKind → String)
    (toDate : Int → Int) (tables : RewardsTables) (block : RewardsBlock) :
    Except String RewardsTables :=
  (storeRewardsBlock externals kindText block tables).map (handleAddBlockReports toDate block)

end Pocketdex
