import Pocketdex.DbFunctions.RelaySummaries

/-! The functions of the database that answer from the summary of staked suppliers. -/

namespace Pocketdex

/-- The summary rows of the blocks between two dates, each with its block. -/
def stakedBetween (startDate endDate : Int) (tables : ReportTables) :
    List (StakedByBlockAndService × BlockRow) :=
  (Sql.innerJoin (fun s b => b.id = s.blockId) tables.stakedSuppliersByBlockAndServices
    (tables.blocks.map Block.row)).filter fun row => row.2.within startDate endDate

/-- What is staked for a service: the suppliers of all blocks, their tokens, and the blocks. -/
structure StakedFigures where
  amount : Option Int
  tokens : Option Int
  blocks : ℕ
  deriving DecidableEq, Repr

/-- The order of points by date, and by the amount of suppliers, both from the largest down. -/
def beforePoint (one two : (Int × String) × StakedFigures) : Bool :=
  if one.1.1 = two.1.1 then descending one.2.amount two.2.amount else two.1.1 < one.1.1

/-- What is staked for each service on each truncated date. -/
def getSuppliersStakedAndBlocksByPointJson (dateTrunc : Int → Int)
    (startTimestamp endTimestamp : Int) (tables : ReportTables) :
    Option (List ((Int × String) × StakedFigures)) :=
  let points := (Sql.groupBy (fun row => (dateTrunc row.2.timestamp, row.1.serviceId))
    (stakedBetween startTimestamp endTimestamp tables)).map fun group => (group.1, {
      amount := Sql.sum (group.2.map fun row => some row.1.amount)
      tokens := Sql.sum (group.2.map fun row => row.1.tokens)
      blocks := group.2.length })
  Sql.jsonbAgg (points.mergeSort beforePoint)

/-- How many blocks a service has staked suppliers in, and how many in all blocks. -/
def getAmountOfBlocksAndSuppliersByTimes (startDate endDate : Int) (tables : ReportTables) :
    Option (List (String × ℕ × Option Int)) :=
  Sql.jsonbAgg <| (Sql.groupBy (fun row => row.1.serviceId)
    (stakedBetween startDate endDate tables)).map fun group => (group.1,
      Sql.countDistinct (group.2.map fun row => row.1.blockId),
      Sql.sum (group.2.map fun row => some row.1.amount))

end Pocketdex
