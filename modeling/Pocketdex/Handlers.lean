import Pocketdex.IndexerManager
import Pocketdex.Pocket.Gateways

/-! The handler of each stake message and event, and the indexing of a block's stake entities. -/

namespace Pocketdex

/-- The handlers of application events. -/
def applicationEventHandler : EventType → Option (List CosmosEvent → ApplicationProgram Unit)
  | .applicationTransferBegin => some handleTransferApplicationBeginEvent
  | .applicationTransferEnd => some handleTransferApplicationEndEvent
  | .applicationTransferError => some handleTransferApplicationErrorEvent
  | .applicationUnbondingBegin => some handleApplicationUnbondingBeginEvent
  | .applicationUnbondingEnd => some handleApplicationUnbondingEndEvent
  | _ => none

/-- The handlers of gateway events. -/
def gatewayEventHandler : EventType → Option (CosmosEvent → GatewayProgram Unit)
  | .gatewayUnstaked => some _handleGatewayUnstakeEvent
  | .gatewayUnbondingBegin => some _handleEventGatewayUnbondingBegin
  | .gatewayUnbondingEnd => some _handleEventGatewayUnbondingEnd
  | _ => none

/-- The handlers of application messages, as far as they concern the application rows. -/
def applicationMsgHandler (msg : CosmosMessage) : Option (ApplicationProgram Unit) :=
  match msg.decodedMsg with
  | .stakeApplication decoded =>
    some (handleAppMsgStake [(msg, decoded)] >>= fun _ => return ())
  | .claimMorseApplication decoded =>
    some (handleMsgClaimMorseApplication [(msg, decoded)] >>= fun _ => return ())
  | .unstakeApplication decoded => some (handleUnstakeApplicationMsg [(msg, decoded)])
  | .transferApplication decoded => some (handleTransferApplicationMsg [decoded])
  -- Delegations are kept in a table of their own.
  | .delegateToGateway _ => some (return ())
  | .undelegateFromGateway _ => some (return ())
  | _ => none

/-- The handlers of gateway messages. -/
def gatewayMsgHandler (msg : CosmosMessage) : Option (GatewayProgram Unit) :=
  match msg.decodedMsg with
  | .stakeGateway decoded => some (_handleGatewayMsgStake decoded)
  | .unstakeGateway decoded => some (_handleGatewayMsgUnstake msg decoded)
  | _ => none

/-- The message a missing handler fails with. -/
def missingHandler : String := "EventHandlers[datum.event.type] is not a function"

/-- Handling one datum of an application. -/
def handleApplicationDatum : StakeDatum → ApplicationProgram Unit
  | .event event => match applicationEventHandler event.type with
    | some handle => handle [event]
    | none => Program.fail missingHandler
  | .msg msg => (applicationMsgHandler msg).getD (Program.fail missingHandler)

/-- Handling one datum of a gateway. -/
def handleGatewayDatum : StakeDatum → GatewayProgram Unit
  | .event event => match gatewayEventHandler event.type with
    | some handle => handle event
    | none => Program.fail missingHandler
  | .msg msg => (gatewayMsgHandler msg).getD (Program.fail missingHandler)

/-- The rows after data were handled one after the other. -/
def runInOrder {ν : Type} (handle : StakeDatum → Program String String ν Unit)
    (order : List StakeDatum) (table : Dict String ν) : Except String (Dict String ν) :=
  order.foldlM (fun table datum => ((handle datum).run table).map Prod.snd) table

/-- The type name a datum is filed under. -/
def StakeDatum.typeName : StakeDatum → String
  | .event emitted => emitted.type.name
  | .msg sent => sent.decodedMsg.typeUrl

/-- The data of the given types, type by type. -/
def dataOfTypes (types : List String) (data : List StakeDatum) : List StakeDatum :=
  types.flatMap fun type => data.filter fun datum => datum.typeName = type

/-- The data of some types are those whose type is listed. -/
theorem mem_dataOfTypes {data : List StakeDatum} {types : List String} {datum : StakeDatum} :
    datum ∈ dataOfTypes types data ↔ datum ∈ data ∧ datum.typeName ∈ types := by
  simp only [dataOfTypes, List.mem_flatMap, List.mem_filter, decide_eq_true_eq]
  constructor
  · rintro ⟨type, listed, member, rfl⟩
    exact ⟨member, listed⟩
  · rintro ⟨member, listed⟩
    exact ⟨datum.typeName, listed, member, rfl⟩

/-- The messages and events that application rows are built from. -/
def applicationTypes : List String := [
  "/pocket.application.MsgDelegateToGateway",
  "/pocket.application.MsgUndelegateFromGateway",
  "/pocket.application.MsgUnstakeApplication",
  "/pocket.application.MsgStakeApplication",
  "/pocket.migration.MsgClaimMorseApplication",
  "/pocket.application.MsgTransferApplication",
  "pocket.application.EventTransferBegin",
  "pocket.application.EventTransferEnd",
  "pocket.application.EventTransferError",
  "pocket.application.EventApplicationUnbondingBegin",
  "pocket.application.EventApplicationUnbondingEnd"]

/-- The messages after which applications are reconciled. -/
def APPLICATION_RECONCILE_MSG_TYPES : List String := [
  "/pocket.application.MsgStakeApplication",
  "/pocket.application.MsgUnstakeApplication",
  "/pocket.application.MsgTransferApplication",
  "/pocket.application.MsgDelegateToGateway",
  "/pocket.application.MsgUndelegateFromGateway",
  "/pocket.migration.MsgClaimMorseApplication"]

/-- The events after which applications are reconciled. -/
def APPLICATION_RECONCILE_EVENT_TYPES : List String := [
  "pocket.tokenomics.EventClaimSettled",
  "pocket.tokenomics.EventApplicationOverserviced",
  "pocket.tokenomics.EventApplicationReimbursementRequest",
  "pocket.application.EventApplicationUnbondingBegin",
  "pocket.application.EventApplicationUnbondingEnd",
  "pocket.application.EventTransferBegin",
  "pocket.application.EventTransferEnd",
  "pocket.application.EventTransferError"]

/-- Whether the data of a block hold one after which applications are reconciled. -/
def hasAppChange (data : List StakeDatum) : Bool :=
  data.any fun datum => datum.typeName ∈
    APPLICATION_RECONCILE_MSG_TYPES ++ APPLICATION_RECONCILE_EVENT_TYPES

/-- A block's application data are handled in one of the scheduled orders, and then reconciled. -/
def IndexesApplications (reconcileEveryBlock : Bool) (chainApps : List ChainApplication)
    (data : List StakeDatum) (table after : Dict String Application) : Prop :=
  ∃ task order handled,
    indexStakeEntity Task.step (dataOfTypes applicationTypes data) applicationIds = .ok task ∧
      Trace task order ∧ runInOrder handleApplicationDatum order table = .ok handled ∧
      (if hasAppChange data || reconcileEveryBlock then reconcileApplications chainApps handled
        else .ok handled) = .ok after

end Pocketdex
