import Mathlib.Algebra.Order.Monoid.Unbundled.WithTop
import Mathlib.Data.List.Sort
import Pocketdex.Base.Components
import Pocketdex.Base.Dict
import Pocketdex.Base.Task
import Pocketdex.Utils.Js
import Pocketdex.Utils.Primitives

/-! Scheduling of stake data: which messages and events are handled in order, and which together. -/

namespace Pocketdex

/-- What an id getter finds: nothing, one entity id, or the ids of all entities updated together. -/
inductive EntityId where
  | missing
  | one (id : String)
  | many (ids : List String)
  deriving DecidableEq, Repr

/-- How to read entity ids: message fields by path, event attributes by a getter. -/
structure RecordGetId where
  path : String → Option String
  getIdFromEventAttribute : EventType → Option (List Attribute → Except String EntityId)

/-- One message or event handed to a handler. -/
inductive StakeDatum where
  | event (event : CosmosEvent)
  | msg (msg : CosmosMessage)
  deriving DecidableEq, Repr

namespace StakeDatum

/-- Messages are ranked before the events of their transaction. -/
def rank : StakeDatum → ℕ
  | .event _ => 1
  | .msg _ => 0

/-- The index of an event or message. -/
def idx : StakeDatum → ℕ
  | .event emitted => emitted.idx
  | .msg sent => sent.idx

/-- The index of the transaction, greater than any when there is none. -/
def txIdx : StakeDatum → WithTop ℕ
  | .event emitted => match emitted.tx with
    | some tx => (tx.idx : WithTop ℕ)
    | none => ⊤
  | .msg sent => (sent.tx.idx : WithTop ℕ)

/-- Whether a datum is an event of block finalization. -/
def isFinalized : StakeDatum → Bool
  | .event emitted => isEventOfFinalizedBlockKind emitted
  | .msg _ => false

/-- Ascending order by transaction index, then by rank, then by index. -/
def ordered (first second : StakeDatum) : Prop :=
  first.txIdx < second.txIdx ∨ (first.txIdx = second.txIdx ∧
    (first.rank < second.rank ∨ (first.rank = second.rank ∧ first.idx ≤ second.idx)))

instance : DecidableRel ordered := fun _ _ => by unfold ordered; infer_instance

end StakeDatum

/-- The data of one entity or of one group of entities. -/
structure EntityData where
  finalizedEvents : List CosmosEvent
  nonFinalizedData : List StakeDatum

namespace EntityData

/-- An entity without data. -/
def empty : EntityData := ⟨[], []⟩

/-- A datum is kept with the events of finalization or with the rest. -/
def push (data : EntityData) : StakeDatum → EntityData
  | .event event =>
    if isEventOfFinalizedBlockKind event then
      { data with finalizedEvents := data.finalizedEvents ++ [event] }
    else { data with nonFinalizedData := data.nonFinalizedData ++ [.event event] }
  | .msg msg => { data with nonFinalizedData := data.nonFinalizedData ++ [.msg msg] }

/-- The data of two entities together. -/
def append (first second : EntityData) : EntityData :=
  ⟨first.finalizedEvents ++ second.finalizedEvents,
    first.nonFinalizedData ++ second.nonFinalizedData⟩

/-- The order in which the data of a group are handled. -/
def schedule (data : EntityData) : List StakeDatum :=
  data.nonFinalizedData.insertionSort StakeDatum.ordered ++
    (data.finalizedEvents.insertionSort fun first second => first.idx ≤ second.idx).map .event

end EntityData

/-- The neighbors of an item with the other members of one of its groups added. -/
def addOthers (group : List String) (item : String) (neighbors : List String) : List String :=
  group.foldl (fun neighbors other =>
    if item ≠ other ∧ other ∉ neighbors then neighbors ++ [other] else neighbors) neighbors

/-- Every item of a group is linked to the others of the group. -/
def addGroup (adjacencyList : Dict String (List String)) (group : List String) :
    Dict String (List String) :=
  group.foldl (fun adjacencyList item =>
    adjacencyList.set item (addOthers group item ((adjacencyList.get item).getD []))) adjacencyList

/-- The neighbors of every item that occurs in a group. -/
def adjacencyList (arrays : List (List String)) : Dict String (List String) :=
  arrays.foldl addGroup Dict.empty

/-- Adding a group's members leaves out the item itself. -/
theorem mem_addOthers {group : List String} {item other : String} {neighbors : List String} :
    other ∈ addOthers group item neighbors ↔
      other ∈ neighbors ∨ (other ∈ group ∧ item ≠ other) := by
  -- Each member of the group is looked at once.
  induction group generalizing neighbors with
  | nil => simp [addOthers]
  | cons head rest ih =>
    have step : addOthers (head :: rest) item neighbors = addOthers rest item
        (if item ≠ head ∧ head ∉ neighbors then neighbors ++ [head] else neighbors) := rfl
    rw [step, ih]
    by_cases same : other = head
    · subst same
      split <;> grind
    · split <;> simp [same]

/-- After adding a group, its members are linked in addition to the earlier links. -/
theorem mem_addGroup {links : Dict String (List String)} {group : List String}
    {item other : String} :
    other ∈ ((addGroup links group).get item).getD [] ↔
      other ∈ (links.get item).getD [] ∨ (item ∈ group ∧ other ∈ group ∧ item ≠ other) := by
  -- The members added stay the same while the loop passes over the items.
  have loop : ∀ (items : List String) (links : Dict String (List String)),
      other ∈ ((items.foldl (fun links item =>
        links.set item (addOthers group item ((links.get item).getD []))) links).get item).getD [] ↔
      other ∈ (links.get item).getD [] ∨ (item ∈ items ∧ other ∈ group ∧ item ≠ other) := by
    intro items
    induction items with
    | nil => simp
    | cons head rest ih =>
      intro links
      rw [List.foldl_cons, ih, Dict.get_set]
      by_cases same : item = head
      · subst same
        simp only [if_true, Option.getD_some, mem_addOthers, List.mem_cons, true_or, true_and]
        tauto
      · simp [same]
  exact loop group links

/-- Adding a group adds its members to the items. -/
theorem mem_keys_addGroup {links : Dict String (List String)} {group : List String}
    {item : String} : item ∈ (addGroup links group).keys ↔ item ∈ links.keys ∨ item ∈ group := by
  have loop : ∀ (items : List String) (links : Dict String (List String)),
      item ∈ (items.foldl (fun links item =>
        links.set item (addOthers group item ((links.get item).getD []))) links).keys ↔
      item ∈ links.keys ∨ item ∈ items := by
    intro items
    induction items with
    | nil => simp
    | cons head rest ih =>
      intro links
      rw [List.foldl_cons, ih, Dict.mem_keys_set, List.mem_cons]
      tauto
  exact loop group links

/-- Two different items are linked exactly when one group holds both. -/
theorem mem_adjacencyList {arrays : List (List String)} {item other : String} :
    other ∈ ((adjacencyList arrays).get item).getD [] ↔
      ∃ group ∈ arrays, item ∈ group ∧ other ∈ group ∧ item ≠ other := by
  have loop : ∀ (arrays : List (List String)) (links : Dict String (List String)),
      other ∈ ((arrays.foldl addGroup links).get item).getD [] ↔
      other ∈ (links.get item).getD [] ∨
        ∃ group ∈ arrays, item ∈ group ∧ other ∈ group ∧ item ≠ other := by
    intro arrays
    induction arrays with
    | nil => simp
    | cons group rest ih =>
      intro links
      rw [List.foldl_cons, ih, mem_addGroup]
      simp [or_assoc]
  simp [adjacencyList, loop]

/-- The items of the adjacency list are those of the groups. -/
theorem mem_keys_adjacencyList {arrays : List (List String)} {item : String} :
    item ∈ (adjacencyList arrays).keys ↔ ∃ group ∈ arrays, item ∈ group := by
  have loop : ∀ (arrays : List (List String)) (links : Dict String (List String)),
      item ∈ (arrays.foldl addGroup links).keys ↔
      item ∈ links.keys ∨ ∃ group ∈ arrays, item ∈ group := by
    intro arrays
    induction arrays with
    | nil => simp
    | cons group rest ih =>
      intro links
      rw [List.foldl_cons, ih, mem_keys_addGroup]
      simp [or_assoc]
  simp [adjacencyList, loop]

/-- The graph whose links join the items of a common group. -/
def sharedGroupGraph (arrays : List (List String)) : UndirectedGraph String where
  nodes := (adjacencyList arrays).keys
  neighbors := fun item => ((adjacencyList arrays).get item).getD []
  closed := by
    intro node _ other linked
    obtain ⟨group, located, _, member, _⟩ := mem_adjacencyList.mp linked
    exact mem_keys_adjacencyList.mpr ⟨group, located, member⟩
  symmetric := by
    intro node other linked
    obtain ⟨group, located, held, member, different⟩ := mem_adjacencyList.mp linked
    exact mem_adjacencyList.mpr ⟨group, located, member, held, different.symm⟩

/-- The members of connected groups, each component sorted. -/
def groupConnectedComponents (arrays : List (List String)) : List (List String) :=
  (sharedGroupGraph arrays).components.map fun component => component.insertionSort (· ≤ ·)

/-- The data filed so far by entity id, and the ids that events update together. -/
structure Filed where
  entitiesUpdatedAtSameDatum : List (List String)
  dataByEntityId : Dict String EntityData

/-- Filing a datum under an entity id. -/
def Filed.push (filed : Filed) (entityId : String) (datum : StakeDatum) : Filed :=
  { filed with
    dataByEntityId := filed.dataByEntityId.set entityId
      (((filed.dataByEntityId.get entityId).getD EntityData.empty).push datum) }

/-- The ids of a datum, and whether they came as a list. -/
def getEntityId (getEntityIdArg : RecordGetId) : StakeDatum → Except String EntityId
  | .event event =>
    match getEntityIdArg.getIdFromEventAttribute event.type with
    | none => .error s!"getIdFromEventAttribute not found for event type {event.type.name}"
    | some getEntityId => getEntityId event.attributes
  | .msg msg =>
    match getEntityIdArg.path msg.decodedMsg.typeUrl with
    | none => .error s!"getIdFromEventAttribute not found for msg type {msg.decodedMsg.typeUrl}"
    | some entityIdPath => .ok (.one ((msg.decodedMsg.get entityIdPath).getD "undefined"))

/-- One datum is filed under its id, the first one when it updates several entities. -/
def fileDatum (getEntityIdArg : RecordGetId) (filed : Filed) (datum : StakeDatum) :
    Except String Filed := do
  let entityId ← getEntityId getEntityIdArg datum
  match datum, entityId with
  | .msg _, .one id => return filed.push id datum
  | .msg _, _ => .error "message ids are single"
  | .event event, .missing => .error s!"entityId not found for event type {event.type.name}"
  | .event event, .one id =>
    if id = "" then .error s!"entityId not found for event type {event.type.name}"
    else return filed.push (replaceQuotes id) datum
  | .event _, .many ids =>
    match ids with
    | [] => .error "Cannot read properties of undefined (reading replaceAll)"
    | id :: _ =>
      -- Entities of one event are remembered, so that their data are scheduled together.
      return ({ filed with
        entitiesUpdatedAtSameDatum := filed.entitiesUpdatedAtSameDatum ++ [ids] }).push
          (replaceQuotes id) datum

/-- The entry of one entity is moved to the data gathered so far, and deleted where it was. -/
def gatherEntity : EntityData × Dict String EntityData → String →
    EntityData × Dict String EntityData
  | (gathered, dataByEntityId), entity =>
    match dataByEntityId.get entity with
    | none => (gathered, dataByEntityId)
    | some data => (gathered.append data, dataByEntityId.erase entity)

/-- The data of connected entities, and the entries of the others. -/
def gather (dataByEntityId : Dict String EntityData) (entities : List String) :
    EntityData × Dict String EntityData :=
  entities.foldl gatherEntity (EntityData.empty, dataByEntityId)

/-- The joined id of a group of connected entities. -/
def joinIds (entities : List String) : String :=
  String.ofList (['-'].intercalate (entities.map String.toList))

/-- Connected entities are replaced by one entry under their joined id. -/
def mergeGroup (dataByEntityId : Dict String EntityData) (entities : List String) :
    Dict String EntityData :=
  let (gathered, remaining) := gather dataByEntityId entities
  remaining.set (joinIds entities) gathered

/-- The data that are scheduled: those of successful transactions and of no transaction. -/
def successfulData (allData : List StakeDatum) : List StakeDatum :=
  let allEvents := allData.filterMap fun
    | .event event => some event
    | .msg _ => none
  let allMsgs := allData.filterMap fun
    | .event _ => none
    | .msg msg => some msg
  (filterEventsByTxStatus allEvents).1.map .event ++ (filterMsgByTxStatus allMsgs).1.map .msg

/-- The groups of data, each in the order its handlers are awaited. -/
def indexStakeEntityGroups (allData : List StakeDatum) (getEntityIdArg : RecordGetId) :
    Except String (List (List StakeDatum)) := do
  let filed ← (successfulData allData).foldlM (fileDatum getEntityIdArg) ⟨[], Dict.empty⟩
  let groups := (groupConnectedComponents filed.entitiesUpdatedAtSameDatum).foldl mergeGroup
    filed.dataByEntityId
  return groups.values.map EntityData.schedule

/-- Groups run side by side, and inside a group each handler is awaited before the next. -/
def indexStakeEntity {α : Type} (handle : StakeDatum → Task α) (allData : List StakeDatum)
    (getEntityIdArg : RecordGetId) : Except String (Task α) := do
  let groups ← indexStakeEntityGroups allData getEntityIdArg
  return Task.all (groups.map fun group => Task.chain (group.map handle))

/-- Only texts can be stripped of their quotes. -/
def textOfJson : Json → Except String String
  | .string text => .ok text
  | _ => .error "entityId.replaceAll is not a function"

/-- The entity id an address read from a JSON value stands for. -/
def entityIdOfJson : Option Json → Except String EntityId
  | none => .ok .missing
  | some .null => .ok .missing
  | some (.bool false) => .ok .missing
  | some (.string text) => .ok (.one text)
  | some (.array items) => (items.mapM textOfJson).map .many
  | some _ => .error "entityId.replaceAll is not a function"

/-- The address inside the JSON object of the first attribute with the given key. -/
def getAddressOfJson (name : String) (attributes : List Attribute) : Except String EntityId :=
  match attributes.find? fun entry => entry.key = name with
  | none => .ok .missing
  | some entry => do
    let value ← parseJson entry.value
    entityIdOfJson (← property value "address")

/-- The source of a transfer that begins or fails. -/
def getIdOfTransferEvents (attributes : List Attribute) : Except String EntityId :=
  match attributes.find? fun entry => entry.key = "source_address" with
  | none => .ok .missing
  | some entry => .ok (.one entry.value)

/-- Both sides of a transfer that ends. -/
def getIdsOfTransferEndEvents (attributes : List Attribute) : Except String EntityId :=
  let addresses := attributes.filter fun entry =>
    entry.key = "source_address" ∨ entry.key = "destination_address"
  .ok (.many ((addresses.take 2).map fun entry => replaceQuotes entry.value))

/-- The application that starts or finishes unbonding. -/
def getIdOfBondingEvents : List Attribute → Except String EntityId := getAddressOfJson "application"

/-- The gateway that starts or finishes unbonding. -/
def getIdOfUnbondingEvents : List Attribute → Except String EntityId := getAddressOfJson "gateway"

/-- How application data are read. -/
def applicationIds : RecordGetId where
  path
    | "/pocket.application.MsgDelegateToGateway" => some "appAddress"
    | "/pocket.application.MsgUndelegateFromGateway" => some "appAddress"
    | "/pocket.application.MsgUnstakeApplication" => some "address"
    | "/pocket.application.MsgStakeApplication" => some "address"
    | "/pocket.migration.MsgClaimMorseApplication" => some "shannonDestAddress"
    | "/pocket.application.MsgTransferApplication" => some "sourceAddress"
    | _ => none
  getIdFromEventAttribute
    | .applicationTransferBegin => some getIdOfTransferEvents
    | .applicationTransferEnd => some getIdsOfTransferEndEvents
    | .applicationTransferError => some getIdOfTransferEvents
    | .applicationUnbondingBegin => some getIdOfBondingEvents
    | .applicationUnbondingEnd => some getIdOfBondingEvents
    | _ => none

/-- How gateway data are read. -/
def gatewayIds : RecordGetId where
  path
    | "/pocket.gateway.MsgStakeGateway" => some "address"
    | "/pocket.gateway.MsgUnstakeGateway" => some "address"
    | _ => none
  getIdFromEventAttribute
    | .gatewayUnstaked => some getIdOfUnbondingEvents
    | .gatewayUnbondingBegin => some getIdOfUnbondingEvents
    | .gatewayUnbondingEnd => some getIdOfUnbondingEvents
    | _ => none

end Pocketdex
