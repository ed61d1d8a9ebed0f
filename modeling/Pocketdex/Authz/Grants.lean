import Pocketdex.Base.Dict
import Pocketdex.Base.Except
import Pocketdex.Utils.Ids
import Pocketdex.Utils.Js

/-! Grants of authorizations, each stored with the type of the message it allows. -/

namespace Pocketdex.Authz

/-- An event of a block, with its type as the chain spells it. -/
structure BlockEvent where
  idx : ℕ
  height : ℕ
  kind : CosmosEventKind
  type : String
  attributes : List Attribute
  tx : Option CosmosTransaction
  deriving DecidableEq, Repr

/-- A point in time between the years 1 and 9999. -/
structure Timestamp where
  seconds : Int
  nanos : ℕ
  inRange : -62135596800 ≤ seconds ∧ seconds ≤ 253402300799
  small : nanos < 1000000000
  deriving DecidableEq, Repr

/-- What a grant allows, named by its type, and until when. -/
structure Grant where
  authorization : Option String
  expiration : Option Timestamp
  deriving DecidableEq, Repr

structure MsgGrant where
  granter : String
  grantee : String
  grant : Grant
  deriving DecidableEq, Repr

/-- A message that grants, with its transaction and its index inside it. -/
structure GrantMessage where
  idx : ℕ
  height : ℕ
  tx : CosmosTransaction
  decodedMsg : MsgGrant
  deriving DecidableEq, Repr

structure AuthzProps where
  id : String
  type : String
  msg : String
  blockId : ℕ
  granterId : String
  granteeId : String
  eventId : String
  expiration : Option Int := none
  deriving DecidableEq, Repr

/-- An event is identified by its transaction or block, its kind as the node spells it, and its
index. -/
def getEventId (kindText : CosmosEventKind → String) (event : BlockEvent) : String :=
  let hash := (event.tx.map CosmosTransaction.hash).getD ""
  let origin := if hash = "" then toString (getBlockId event.height) else hash
  s!"{origin}-{kindText event.kind}-{event.idx}"

/-- A text without its first slash. -/
def withoutSlash (text : String) : String := String.ofList (text.toList.erase '/')

/-- A grant is identified by who grants what to whom. -/
def getAuthzId (granter msg grantee : String) : String := s!"{granter}:{withoutSlash msg}-{grantee}"

/-- The milliseconds of a point in time. -/
def Timestamp.milliseconds (time : Timestamp) : Int := time.seconds * 1000 + time.nanos / 1000000

/-- A text that was found and is not empty. -/
def requireText (text : Option String) (message : String) : Except String String :=
  match text with
  | none => .error message
  | some "" => .error message
  | some text => .ok text

/-- The last attribute of a key, without its quotes. -/
def lastAttribute (key : String) (event : BlockEvent) : Option String :=
  (event.attributes.reverse.find? fun entry => entry.key = key).map
    fun entry => replaceQuotes entry.value

/-- The row of a grant that a block made. -/
def _handleEventGrant (kindText : CosmosEventKind → String) (event : BlockEvent) :
    Except String AuthzProps := do
  let granter ← requireText (lastAttribute "granter" event)
    "[handleEventGrant] granter not found in event"
  let grantee ← requireText (lastAttribute "grantee" event)
    "[handleEventGrant] grantee not found in event"
  let msgTypeUrl ← requireText (lastAttribute "msg_type_url" event)
    "[handleEventGrant] msgTypeUrl not found in event"
  return {
    id := getAuthzId granter msgTypeUrl grantee
    eventId := getEventId kindText event
    granterId := granter
    granteeId := grantee
    msg := msgTypeUrl
    type := "cosmos.authz.v1beta1.EventGrant"
    blockId := getBlockId event.height }

/-- Whether an event is one of a grant by a message of a transaction. -/
def isGrantOf (tx : CosmosTransaction) (event : BlockEvent) : Bool :=
  event.type = "cosmos.authz.v1beta1.EventGrant" ∧ event.kind = .message ∧
    event.tx.map CosmosTransaction.hash = some tx.hash

/-- The type of message an event of a grant names first. -/
def grantedType (event : BlockEvent) : Except String String :=
  requireText ((event.attributes.find? fun entry => entry.key = "msg_type_url").map
    fun entry => replaceQuotes entry.value)
    "[handleMsgGrant] msgType not found in event"

/-- The type of an authorization. -/
def authorizationType (grant : Grant) : Except String String :=
  match grant.authorization with
  | some typeUrl => .ok typeUrl
  | none => .error "Cannot read properties of undefined (reading 'typeUrl')"

/-- The event a grant is stored with: the first one of its transaction. -/
def grantEvent (blockEvents : List BlockEvent) (msg : GrantMessage) : Except String BlockEvent :=
  match blockEvents.find? (isGrantOf msg.tx) with
  | some event => .ok event
  | none => .error s!"[handleMsgGrant] event for MsgGrant not found at {msg.height} height"

/-- The row of a grant that a message made. -/
def _handleMsgGrant (kindText : CosmosEventKind → String) (blockEvents : List BlockEvent)
    (msg : GrantMessage) : Except String AuthzProps := do
  let event ← grantEvent blockEvents msg
  let msgType ← grantedType event
  let type ← authorizationType msg.decodedMsg.grant
  return {
    id := getAuthzId msg.decodedMsg.granter msgType msg.decodedMsg.grantee
    type := type
    msg := msgType
    blockId := getBlockId msg.height
    granterId := msg.decodedMsg.granter
    granteeId := msg.decodedMsg.grantee
    eventId := getEventId kindText event
    expiration := msg.decodedMsg.grant.expiration.map Timestamp.milliseconds }

/-- Storing the grants that a block itself made. -/
def handleEventGrant (kindText : CosmosEventKind → String) (events : List BlockEvent)
    (authz : Dict String AuthzProps) : Except String (Dict String AuthzProps) := do
  let rows ← (events.filter fun event => event.kind = .finalizeBlock).mapM
    (_handleEventGrant kindText)
  return Dict.storeAll AuthzProps.id rows authz

/-- Storing the grants of messages. -/
def handleMsgGrant (kindText : CosmosEventKind → String) (blockEvents : List BlockEvent)
    (messages : List GrantMessage) (authz : Dict String AuthzProps) :
    Except String (Dict String AuthzProps) := do
  let rows ← messages.mapM (_handleMsgGrant kindText blockEvents)
  return Dict.storeAll AuthzProps.id rows authz

end Pocketdex.Authz
