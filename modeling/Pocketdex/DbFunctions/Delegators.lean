import Pocketdex.Base.Sql
import Pocketdex.DbFunctions.Supply
import Pocketdex.Pocket.Claims
import Pocketdex.Pocket.SupplierIndex

/-! The functions of the database that report what delegators of suppliers receive. -/

namespace Pocketdex

/-- The tables these functions read. Blocks, settled claims and created claims are stored once. -/
structure DelegatorTables where
  supplierServiceConfigs : List (Row SupplierServiceConfigProps)
  suppliers : List (Row Supplier)
  blocks : List BlockRow
  modToAcctTransfers : List ModToAcctTransferRecord
  eventClaimSettleds : List Settlement.EventClaimSettledProps
  msgCreateClaims : List Settlement.MsgCreateClaimProps
  eventSupplierSlasheds : List EventSupplierSlashedProps
  blockIds : (blocks.map BlockRow.id).Nodup
  settledIds : (eventClaimSettleds.map Settlement.EventClaimSettledProps.id).Nodup
  createdIds : (msgCreateClaims.map Settlement.MsgCreateClaimProps.id).Nodup

/-- `upper_inf` of a range. -/
def BlockRange.upperInf (range : BlockRange) : Bool := range.upper.isNone

/-- The staked suppliers that share revenue with one of some addresses, each with every address. -/
def matchedSuppliers (tables : DelegatorTables) (addresses : List String) :
    List (String × String) :=
  ((Sql.innerJoin (fun ssc s => s.data.id = ssc.data.supplierId) tables.supplierServiceConfigs
    tables.suppliers).flatMap fun (ssc, s) =>
      (ssc.data.revShare.filter fun elem => elem.address ∈ addresses ∧
        ssc.blockRange.upperInf = true ∧ s.data.stakeStatus = .staked ∧
        s.blockRange.upperInf = true).map fun elem => (ssc.data.supplierId, elem.address)).dedup

/-- What the addresses got for one service. -/
structure ServiceRewards where
  serviceId : String
  relays : Int
  estimatedRelays : Int
  computedUnits : Int
  estimatedComputedUnits : Int
  grossRewards : Int
  netRewards : Int
  deriving DecidableEq, Repr

/-- The sums of the columns of one service, each of which may be null. -/
structure RewardSums where
  netRewards : Option Int
  grossRewards : Option Int
  relays : Option Int
  estimatedRelays : Option Int
  computedUnits : Option Int
  estimatedComputedUnits : Option Int

/-- The sums over transfers that are joined with their blocks and claims. -/
def RewardSums.of (rows : List ((ModToAcctTransferRecord × BlockRow) ×
    Settlement.EventClaimSettledProps)) : RewardSums where
  netRewards := Sql.sum (rows.map fun ((m, _), _) => some m.amount)
  grossRewards := Sql.sum (rows.map fun (_, e) => some e.claimedAmount)
  relays := Sql.sum (rows.map fun (_, e) => some e.numRelays)
  estimatedRelays := Sql.sum (rows.map fun (_, e) => some e.numEstimatedRelays)
  computedUnits := Sql.sum (rows.map fun (_, e) => some e.numClaimedComputedUnits)
  estimatedComputedUnits := Sql.sum (rows.map fun (_, e) => some e.numEstimatedComputedUnits)

/-- The rewards of some addresses between two dates, by the services of the staked suppliers that
share revenue with them. -/
def getRewardsByDelegatorAddressesAndTimesGroupByService (tables : DelegatorTables)
    (addresses : List String) (startTs endTs : Int) : Option (List ServiceRewards) :=
  let services := (((Sql.innerJoin (fun ssc ms => ssc.data.supplierId = ms.1)
    tables.supplierServiceConfigs (matchedSuppliers tables addresses)).filter
      fun (ssc, _) => ssc.blockRange.upperInf).map fun (ssc, _) => ssc.data.serviceId).dedup
  let joined := (Sql.innerJoin (fun (m, _) e => e.id = m.eventClaimSettledId)
    (Sql.innerJoin (fun m b => b.id = m.blockId) tables.modToAcctTransfers tables.blocks)
    tables.eventClaimSettleds).filter fun ((m, b), _) =>
      m.recipientId ∈ addresses ∧ b.within startTs endTs = true
  let rewards := (Sql.groupBy (fun (_, e) => e.serviceId) joined).map
    fun (serviceId, rows) => (serviceId, RewardSums.of rows)
  let rows := Sql.leftJoin (fun serviceId r => r.1 = serviceId) services rewards
  Sql.jsonbAgg (rows.map fun (serviceId, r) => {
    serviceId
    relays := (r.bind fun r => r.2.relays).getD 0
    estimatedRelays := (r.bind fun r => r.2.estimatedRelays).getD 0
    computedUnits := (r.bind fun r => r.2.computedUnits).getD 0
    estimatedComputedUnits := (r.bind fun r => r.2.estimatedComputedUnits).getD 0
    grossRewards := (r.bind fun r => r.2.grossRewards).getD 0
    netRewards := (r.bind fun r => r.2.netRewards).getD 0 })

/-- What the suppliers that share revenue with one address did. -/
structure DelegatorData where
  address : String
  proofRelays : Int
  proofComputedUnits : Int
  proofUpokt : Int
  proofAmount : Int
  claimRelays : Int
  claimComputedUnits : Int
  claimUpokt : Int
  claimAmount : Int
  slashed : Int
  deriving DecidableEq, Repr

/-- The number of distinct ids of some records, and the sums of three columns. -/
structure ClaimSums where
  count : ℕ
  relays : Option Int
  computedUnits : Option Int
  upokt : Option Int

/-- The sums over created claims that are joined with matches of their suppliers. -/
def ClaimSums.ofClaims (rows : List (Settlement.MsgCreateClaimProps × (String × String))) :
    ClaimSums where
  count := Sql.countDistinct (rows.map fun (mcc, _) => mcc.id)
  relays := Sql.sum (rows.map fun (mcc, _) => some mcc.numRelays)
  computedUnits := Sql.sum (rows.map fun (mcc, _) => some mcc.numClaimedComputedUnits)
  upokt := Sql.sum (rows.map fun (mcc, _) => some mcc.claimedAmount)

/-- The sums over settled claims that are joined with matches of their suppliers. -/
def ClaimSums.ofSettled (rows : List (Settlement.EventClaimSettledProps × (String × String))) :
    ClaimSums where
  count := Sql.countDistinct (rows.map fun (ecs, _) => ecs.id)
  relays := Sql.sum (rows.map fun (ecs, _) => some ecs.numRelays)
  computedUnits := Sql.sum (rows.map fun (ecs, _) => some ecs.numClaimedComputedUnits)
  upokt := Sql.sum (rows.map fun (ecs, _) => some ecs.claimedAmount)

/-- The stake that was slashed, over slashes that are joined with matches of their suppliers. -/
def slashedSum (rows : List (EventSupplierSlashedProps × (String × String))) : Option Int :=
  Sql.sum (rows.map fun (ess, _) => some (ess.previousStakeAmount - ess.afterStakeAmount))

section

variable (matched : List (String × String))

/-- The created claims of the matched suppliers, by supplier. -/
def claimAgg (claims : List Settlement.MsgCreateClaimProps) : List (String × ClaimSums) :=
  (Sql.groupBy (fun joined => joined.1.supplierId)
    (Sql.innerJoin (fun mcc ms => ms.1 = mcc.supplierId) claims matched)).map
    fun group => (group.1, ClaimSums.ofClaims group.2)

/-- The settled claims of the matched suppliers, by supplier. -/
def proofAgg (settled : List Settlement.EventClaimSettledProps) :
    List (Option String × ClaimSums) :=
  (Sql.groupBy (fun joined => joined.1.supplierId)
    (Sql.innerJoin (fun ecs ms => some ms.1 = ecs.supplierId) settled matched)).map
    fun group => (group.1, ClaimSums.ofSettled group.2)

/-- The slashed stakes of the matched suppliers, by supplier. -/
def slashedAgg (slashes : List EventSupplierSlashedProps) : List (String × Option Int) :=
  (Sql.groupBy (fun joined => joined.1.supplierId)
    (Sql.innerJoin (fun ess ms => ms.1 = ess.supplierId) slashes matched)).map
    fun group => (group.1, slashedSum group.2)

/-- The matched suppliers with what they did, by address. -/
def delegatorRows (claims : List Settlement.MsgCreateClaimProps)
    (settled : List Settlement.EventClaimSettledProps)
    (slashes : List EventSupplierSlashedProps) : Option (List DelegatorData) :=
  let rows := Sql.leftJoin (fun (((ms, _), _) : ((String × String) ×
        Option (String × ClaimSums)) × Option (Option String × ClaimSums)) s => s.1 = ms.1)
    (Sql.leftJoin (fun ((ms, _) : (String × String) × Option (String × ClaimSums)) p =>
        p.1 = some ms.1)
      (Sql.leftJoin (fun ms c => c.1 = ms.1) matched (claimAgg matched claims))
      (proofAgg matched settled)) (slashedAgg matched slashes)
  -- The figures are sums over all suppliers of an address, where missing ones count nothing.
  Sql.jsonbAgg ((Sql.groupBy (fun (((ms, _), _), _) => ms.2) rows).map fun (address, rows) => {
    address
    proofRelays := (Sql.sum (rows.map fun ((_, p), _) => p.bind fun p => p.2.relays)).getD 0
    proofComputedUnits :=
      (Sql.sum (rows.map fun ((_, p), _) => p.bind fun p => p.2.computedUnits)).getD 0
    proofUpokt := (Sql.sum (rows.map fun ((_, p), _) => p.bind fun p => p.2.upokt)).getD 0
    proofAmount := (Sql.sum (rows.map fun ((_, p), _) => p.map fun p => (p.2.count : Int))).getD 0
    claimRelays := (Sql.sum (rows.map fun (((_, c), _), _) => c.bind fun c => c.2.relays)).getD 0
    claimComputedUnits :=
      (Sql.sum (rows.map fun (((_, c), _), _) => c.bind fun c => c.2.computedUnits)).getD 0
    claimUpokt := (Sql.sum (rows.map fun (((_, c), _), _) => c.bind fun c => c.2.upokt)).getD 0
    claimAmount :=
      (Sql.sum (rows.map fun (((_, c), _), _) => c.map fun c => (c.2.count : Int))).getD 0
    slashed := (Sql.sum (rows.map fun (_, s) => s.bind fun s => s.2)).getD 0 })

end

/-- What the suppliers of some addresses did between two dates. -/
def getDataByDelegatorAddressesAndTimes (tables : DelegatorTables) (addresses : List String)
    (startTs endTs : Int) : Option (List DelegatorData) :=
  delegatorRows (matchedSuppliers tables addresses)
    (betweenDates Settlement.MsgCreateClaimProps.blockId tables.blocks startTs endTs
      tables.msgCreateClaims)
    (betweenDates Settlement.EventClaimSettledProps.blockId tables.blocks startTs endTs
      tables.eventClaimSettleds)
    (betweenDates EventSupplierSlashedProps.blockId tables.blocks startTs endTs
      tables.eventSupplierSlasheds)

/-- What the suppliers of some addresses did between two heights. -/
def getDataByDelegatorAddressesAndBlocks (tables : DelegatorTables) (addresses : List String)
    (startHeight endHeight : ℕ) : Option (List DelegatorData) :=
  delegatorRows (matchedSuppliers tables addresses)
    (tables.msgCreateClaims.filter fun mcc =>
      startHeight ≤ mcc.blockId ∧ mcc.blockId ≤ endHeight)
    (tables.eventClaimSettleds.filter fun ecs =>
      startHeight ≤ ecs.blockId ∧ ecs.blockId ≤ endHeight)
    (tables.eventSupplierSlasheds.filter fun ess =>
      startHeight ≤ ess.blockId ∧ ess.blockId ≤ endHeight)

end Pocketdex
