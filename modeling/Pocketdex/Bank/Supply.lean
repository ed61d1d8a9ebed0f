import Pocketdex.Base.Store
import Pocketdex.Utils.Db
import Pocketdex.Utils.Ids
import Pocketdex.Utils.Js

/-! The total supply of each block: amounts that did not change are pointed to, not stored again. -/

namespace Pocketdex

structure Supply where
  id : String
  denom : String
  amount : Int
  deriving DecidableEq, Repr

structure BlockSupply where
  id : String
  blockId : ℕ
  supplyId : String
  deriving DecidableEq, Repr

structure SupplyDenom where
  id : String
  deriving DecidableEq, Repr

/-- The stored denominations, amounts, and pointers from blocks to amounts. -/
structure SupplyTables where
  denoms : Store SupplyDenom.id
  supplies : Store Supply.id
  blockSupplies : Store BlockSupply.id

/-- A supply is identified by its denomination and the height it was read at. -/
def getSupplyId (denom : String) (height : ℕ) : String := s!"{denom}@{height}"

/-- The record of an amount read at a height. -/
def getSupplyRecord (supply : Coin) (height : ℕ) : Except String Supply := do
  let amount ← bigInt supply.amount
  return ⟨getSupplyId supply.denom height, supply.denom, amount⟩

/-- The stored denominations, page by page. -/
def fetchAllSupplyDenom (denoms : Store SupplyDenom.id) : List SupplyDenom :=
  fetchPaginatedRecords (fun offset limit => (denoms.records.drop offset).take limit)
    (denoms.records.length + 1) 0

/-- The height whose pointers a block starts from. -/
def supplyIdHeight (height : ℕ) : ℕ := if height = 1 then height else height - 1

/-- The amount a block points to before its own answer is looked at. -/
def previousSupplyId (blockSupplies : Store BlockSupply.id) (height : ℕ) (denom : String) : String :=
  match blockSupplies.get (getSupplyId denom (supplyIdHeight height)) with
  | some blockSupply => blockSupply.supplyId
  -- Syncing may start above genesis, where the previous block has no pointer.
  | none => getSupplyId denom height

/-- The pointer of a block for a denomination. -/
def blockSupplyProps (blockSupplies : Store BlockSupply.id) (height : ℕ) (denom : String) :
    BlockSupply :=
  ⟨getSupplyId denom height, getBlockId height, previousSupplyId blockSupplies height denom⟩

/-- The amount a pointer leads to, which is stored first where there is none. -/
def latestSupply (height : ℕ) (supplies : Store Supply.id) (supplyId : String) (supply : Coin) :
    Except String (Supply × Store Supply.id) :=
  match supplies.get supplyId with
  | some latestDenomSupply => .ok (latestDenomSupply, supplies)
  | none => do
    let latestDenomSupply ← getSupplyRecord supply height
    return (latestDenomSupply, supplies.save latestDenomSupply)

/-- One amount of the answer: it is stored, and pointed to, when it differs from the last one. -/
def recordSupply (height : ℕ) (tables : Store BlockSupply.id × Store Supply.id) (supply : Coin) :
    Except String (Store BlockSupply.id × Store Supply.id) :=
  let (blockSuppliesMap, supplies) := tables
  let blockSupplyId := getSupplyId supply.denom height
  match blockSuppliesMap.get blockSupplyId with
  | none => .error s!"[handleSupply]: BlockSupply not found for id={blockSupplyId}"
  | some latestBlockSupply => do
    let (latestDenomSupply, supplies) ← latestSupply height supplies latestBlockSupply.supplyId supply
    if toString latestDenomSupply.amount ≠ supply.amount then do
      let newSupply ← getSupplyRecord supply height
      return (blockSuppliesMap.save { latestBlockSupply with supplyId := newSupply.id },
        supplies.save newSupply)
    else return (blockSuppliesMap, supplies)

/-- The denominations of an answer that are not stored yet. -/
def supplyDenomsToSave (supplyDenoms : List SupplyDenom) (totalSupply : List Coin) :
    List SupplyDenom :=
  let denominationsSaved := supplyDenoms.map SupplyDenom.id
  (totalSupply.filter fun supply => supply.denom ∉ denominationsSaved).map fun supply =>
    ⟨supply.denom⟩

/-- The supply of a block: unknown denominations are stored, every known one gets a pointer, and the
amounts of the chain's answer are recorded. -/
def handleSupply (height : ℕ) (totalSupply : List Coin) (tables : SupplyTables) :
    Except String SupplyTables := do
  let supplyDenoms := fetchAllSupplyDenom tables.denoms
  let newDenoms := supplyDenomsToSave supplyDenoms totalSupply
  let denoms := tables.denoms.bulkCreate newDenoms
  let supplyDenoms := supplyDenoms ++ newDenoms
  let blockSuppliesMap := Store.empty.bulkCreate
    (supplyDenoms.map fun denom => blockSupplyProps tables.blockSupplies height denom.id)
  -- A chain without any supply is taken for a failed query.
  if totalSupply.isEmpty then
    .error s!"[handleSupply]: query.totalSupply returned 0 records, block.header.height={height}"
  else do
    let (blockSuppliesMap, supplies) ←
      totalSupply.foldlM (recordSupply height) (blockSuppliesMap, tables.supplies)
    return ⟨denoms, supplies, tables.blockSupplies.bulkCreate blockSuppliesMap.records⟩

/-- The characters of a supply id. -/
theorem getSupplyId_toList (denom : String) (height : ℕ) :
    (getSupplyId denom height).toList = denom.toList ++ '@' :: (toString height).toList := by
  simp [getSupplyId, toString]

/-- Supply ids tell their denomination and height. -/
theorem getSupplyId_inj {denom other : String} {height later : ℕ}
    (same : getSupplyId denom height = getSupplyId other later) : denom = other ∧ height = later := by
  -- A height is spelled without the separator.
  have absent : ∀ number : ℕ, '@' ∉ (toString number).toList := by
    intro number member
    rw [Nat.toString_eq_ofList_toDigits, String.toList_ofList] at member
    have digit := Nat.isDigit_of_mem_toDigits (by decide) (by decide) member
    exact absurd digit (by decide)
  have listed := congrArg String.toList same
  rw [getSupplyId_toList, getSupplyId_toList] at listed
  obtain ⟨denoms, heights⟩ := joined_inj (absent height) (absent later) listed
  exact ⟨String.toList_inj.mp denoms, toString_inj heights⟩

end Pocketdex
