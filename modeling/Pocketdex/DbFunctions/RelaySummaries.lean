import Mathlib.Data.Rat.Defs
import Pocketdex.DbFunctions.BlockReports

/-! The functions of the database that answer from the summary of relays by block and service. -/

namespace Pocketdex

/-- The sums of relays, compute units and rewards, each of which may be null. -/
structure RelayFigures where
  relays : Option Int
  estimatedRelays : Option Int
  computedUnits : Option Int
  estimatedComputedUnits : Option Int
  claimedUpokt : Option Int
  deriving DecidableEq, Repr

/-- The sums of the columns of some summary rows. -/
def sumRelays (rows : List RelaysByBlockAndService) : RelayFigures where
  relays := Sql.sum (rows.map fun r => r.relays)
  estimatedRelays := Sql.sum (rows.map fun r => r.estimatedRelays)
  computedUnits := Sql.sum (rows.map fun r => r.computedUnits)
  estimatedComputedUnits := Sql.sum (rows.map fun r => r.estimatedComputedUnits)
  claimedUpokt := Sql.sum (rows.map fun r => r.claimedUpokt)

/-- The summary rows of the blocks between two dates, each with its block. -/
def relaysBetween (startDate endDate : Int) (tables : ReportTables) :
    List (RelaysByBlockAndService × BlockRow) :=
  (Sql.innerJoin (fun r b => b.id = r.blockId) tables.relaysByBlockAndServices
    (tables.blocks.map Block.row)).filter fun row => row.2.within startDate endDate

/-- The figures of each truncated date, in the order of the dates. -/
def getRewardsByDate (dateTrunc : Int → Int) (startDate endDate : Int) (tables : ReportTables) :
    Option (List (Int × RelayFigures)) :=
  let dates := (Sql.groupBy (fun row => dateTrunc row.2.timestamp)
    (relaysBetween startDate endDate tables)).map fun group =>
      (group.1, sumRelays (group.2.map Prod.fst))
  Sql.jsonbAgg (dates.mergeSort fun one two => one.1 ≤ two.1)

/-- The figures of each truncated date and service, in the order of the dates. -/
def getRelaysByServicePerPointJson (dateTrunc : Int → Int) (startTimestamp endTimestamp : Int)
    (tables : ReportTables) : Option (List ((Int × String) × RelayFigures)) :=
  let points := (Sql.groupBy (fun row => (dateTrunc row.2.timestamp, row.1.serviceId))
    (relaysBetween startTimestamp endTimestamp tables)).map fun group =>
      (group.1, sumRelays (group.2.map Prod.fst))
  Sql.jsonbAgg (points.mergeSort fun one two => one.1.1 ≤ two.1.1)

/-- The figures of each service between two dates. -/
def relaysByService (startDate endDate : Int) (tables : ReportTables) :
    List (String × RelayFigures) :=
  (Sql.groupBy (fun row => row.1.serviceId) (relaysBetween startDate endDate tables)).map
    fun group => (group.1, sumRelays (group.2.map Prod.fst))

/-- The stored row of a service, as far as its name is read. -/
structure Service where
  id : String
  name : String
  deriving DecidableEq, Repr

/-- What is reported on a service. -/
structure ServicePerformance where
  serviceId : String
  serviceName : Option String
  figures : RelayFigures
  change : Option ℚ
  appsStaked : ℕ
  suppliersStaked : ℕ
  deriving DecidableEq

section

variable {ρ ξ : Type} (id : ρ → String) (stakeStatus : ρ → StakeStatus) (stakeOf : ξ → String)
  (serviceId : ξ → String)

/-- How many entities are staked for each service in the newest versions. -/
def currentlyStaked (stakes : List (Row ρ)) (services : List (Row ξ)) : List (String × ℕ) :=
  let joined := (Sql.innerJoin (fun s ss => id s.data = stakeOf ss.data) stakes services).filter
    fun row => stakeStatus row.1.data = .staked ∧ row.1.blockRange.upper = none ∧
      row.2.blockRange.upper = none
  (Sql.groupBy (fun row => serviceId row.2.data) joined).map fun group =>
    (group.1, Sql.countDistinct (group.2.map fun row => id row.1.data))

end

/-- The relative change of a figure, which is one when there is nothing to compare it with. -/
def changeOf (current previous : Option Int) : Option ℚ :=
  match previous with
  | none => some 1
  | some previous =>
    if previous ≠ 0 then current.map fun current => ((current - previous : Int) : ℚ) / previous
    else some 1

/-- The order of a column from its largest value down, where nulls come first. -/
def descending (one two : Option Int) : Bool :=
  match one, two with
  | none, _ => true
  | some _, none => false
  | some one, some two => two ≤ one

/-- The performance of the services of a period, beside what they had in the period before. -/
def performance (services : List (Row Service)) (tables : IndexedTables)
    (current previous : List (String × RelayFigures)) : List ServicePerformance :=
  let apps := currentlyStaked Application.id Application.stakeStatus
    ApplicationServiceProps.applicationId ApplicationServiceProps.serviceId tables.applications
    tables.applicationServices
  let suppliers := currentlyStaked Supplier.id Supplier.stakeStatus
    SupplierServiceConfigProps.supplierId SupplierServiceConfigProps.serviceId
    tables.supplierTables.suppliers tables.supplierTables.services
  -- The joins are made one after the other, each by the service of the current period.
  let joined := Sql.leftJoin (fun row s => row.1.1.1.1 = s.data.id)
    (Sql.leftJoin (fun row other => row.1.1.1 = other.1)
      (Sql.leftJoin (fun row other => row.1.1 = other.1)
        (Sql.leftJoin (fun c p => c.1 = p.1) current previous) apps) suppliers) services
  let known := joined.filter fun row => row.2.any fun s => s.blockRange.upper = none
  (known.mergeSort fun one two =>
    descending one.1.1.1.1.2.computedUnits two.1.1.1.1.2.computedUnits).map fun row => {
      serviceId := row.1.1.1.1.1
      serviceName := row.2.map fun s => s.data.name
      figures := row.1.1.1.1.2
      change := changeOf row.1.1.1.1.2.estimatedComputedUnits
        (row.1.1.1.2.bind fun p => p.2.estimatedComputedUnits)
      appsStaked := (row.1.1.2.map Prod.snd).getD 0
      suppliersStaked := (row.1.2.map Prod.snd).getD 0 }

/-- The performance of services in a period, compared with the one that ends where it starts. -/
def servicesPerformanceBetweenTimes (services : List (Row Service))
    (endCurrent startCurrentAndEndPrevious startPrevious : Int) (tables : ReportTables) :
    Option (List ServicePerformance) :=
  Sql.jsonbAgg <| performance services tables.toIndexedTables
    (relaysByService startCurrentAndEndPrevious endCurrent tables)
    (relaysByService startPrevious startCurrentAndEndPrevious tables)

end Pocketdex
