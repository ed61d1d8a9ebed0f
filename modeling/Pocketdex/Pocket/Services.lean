import Pocketdex.Base.Store
import Pocketdex.Utils.Ids
import Pocketdex.Utils.Js

/-! The events that tell a new relay mining difficulty of a service. -/

namespace Pocketdex

/-- The record of a difficulty event. -/
structure EventRelayMiningDifficultyUpdatedProps where
  id : String
  serviceId : String
  prevTargetHashHexEncoded : String
  newTargetHashHexEncoded : String
  prevNumRelaysEma : Int
  newNumRelaysEma : Int
  blockId : ℕ
  eventId : String
  deriving DecidableEq, Repr

/-- The variables the attributes of an event are read into, with the values they start at. -/
structure DifficultyAttributes where
  serviceId : String := ""
  prevTargetHashHexEncoded : String := ""
  newTargetHashHexEncoded : String := ""
  prevNumRelaysEma : Option Int := none
  newNumRelaysEma : Option Int := none
  deriving DecidableEq, Repr

/-- One attribute sets the variable its key names, whatever the variable held. -/
def readDifficultyAttribute (vars : DifficultyAttributes) (entry : Attribute) :
    Except String DifficultyAttributes :=
  let value := replaceQuotes entry.value
  if entry.key = "service_id" then .ok { vars with serviceId := value }
  else if entry.key = "prev_target_hash_hex_encoded" then
    .ok { vars with prevTargetHashHexEncoded := value }
  else if entry.key = "new_target_hash_hex_encoded" then
    .ok { vars with newTargetHashHexEncoded := value }
  else if entry.key = "prev_num_relays_ema" then
    (bigInt value).map fun ema => { vars with prevNumRelaysEma := some ema }
  else if entry.key = "new_num_relays_ema" then
    (bigInt value).map fun ema => { vars with newNumRelaysEma := some ema }
  else .ok vars

/-- The record of a difficulty event, which must tell all five values. -/
def _handleEventRelayMiningDifficultyUpdated (kindText : CosmosEventKind → String)
    (event : CosmosEvent) : Except String EventRelayMiningDifficultyUpdatedProps := do
  let vars ← event.attributes.foldlM readDifficultyAttribute {}
  if vars.serviceId = "" then
    .error "[handleEventRelayMiningDifficultyUpdated] serviceId not found in event"
  else if vars.prevTargetHashHexEncoded = "" then
    .error "[handleEventRelayMiningDifficultyUpdated] prevTargetHashHexEncoded not found in event"
  else if vars.newTargetHashHexEncoded = "" then
    .error "[handleEventRelayMiningDifficultyUpdated] newTargetHashHexEncoded not found in event"
  else
    -- A condition on an integer fails for zero as it does for null.
    match vars.prevNumRelaysEma.filter (· ≠ 0), vars.newNumRelaysEma.filter (· ≠ 0) with
    | none, _ =>
      .error "[handleEventRelayMiningDifficultyUpdated] prevNumRelaysEma not found in event"
    | some _, none =>
      .error "[handleEventRelayMiningDifficultyUpdated] newNumRelaysEma not found in event"
    | some prevNumRelaysEma, some newNumRelaysEma =>
      let eventId := getEventId kindText event
      return {
        id := eventId
        serviceId := vars.serviceId
        prevTargetHashHexEncoded := vars.prevTargetHashHexEncoded
        newTargetHashHexEncoded := vars.newTargetHashHexEncoded
        prevNumRelaysEma := prevNumRelaysEma
        newNumRelaysEma := newNumRelaysEma
        blockId := getBlockId event.height
        eventId := eventId }

/-- The records of a block's difficulty events are stored together. -/
def handleEventRelayMiningDifficultyUpdated (kindText : CosmosEventKind → String)
    (events : List CosmosEvent) (store : Store EventRelayMiningDifficultyUpdatedProps.id) :
    Except String (Store EventRelayMiningDifficultyUpdatedProps.id) := do
  let records ← events.mapM (_handleEventRelayMiningDifficultyUpdated kindText)
  return store.bulkCreate records

end Pocketdex
