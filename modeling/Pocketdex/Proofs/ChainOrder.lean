import Mathlib.Algebra.Order.Monoid.Unbundled.WithTop
import Mathlib.Data.Set.BooleanAlgebra
import Mathlib.Order.CompletePartialOrder
import Pocketdex.Base.Reorder
import Pocketdex.Pocket.Delegations
import Pocketdex.Proofs.ApplicationStakes
import Pocketdex.Proofs.IdGetters
import Pocketdex.Proofs.SupplierServices

/-! The order in which stake data are handled is compared with the one the chain executed. -/

namespace Pocketdex

/-- A message with the events it emitted. -/
structure ExecutedMsg where
  msg : CosmosMessage
  events : List CosmosEvent

/-- A transaction with its messages, which are numbered as they were executed, and so are the events
they emitted. -/
structure ExecutedTx where
  tx : CosmosTransaction
  msgs : List ExecutedMsg
  ofTx : ∀ executed ∈ msgs, executed.msg.tx = tx ∧ ∀ event ∈ executed.events,
    event.tx = some tx ∧ isEventOfFinalizedBlockKind event = false
  msgsNumbered : msgs.Pairwise fun earlier later => earlier.msg.idx < later.msg.idx
  eventsNumbered : (msgs.flatMap ExecutedMsg.events).Pairwise fun earlier later =>
    earlier.idx < later.idx

/-- A block with its transactions and the events of its finalization. -/
structure ExecutedBlock where
  txs : List ExecutedTx
  finalizeEvents : List CosmosEvent
  txsNumbered : txs.Pairwise fun earlier later => earlier.tx.idx < later.tx.idx
  finalizing : ∀ event ∈ finalizeEvents, isEventOfFinalizedBlockKind event = true
  finalizeNumbered : finalizeEvents.Pairwise fun earlier later => earlier.idx < later.idx

/-- A message, and then its events. -/
def ExecutedMsg.data (executed : ExecutedMsg) : List StakeDatum :=
  .msg executed.msg :: executed.events.map .event

/-- The messages of a transaction as they were executed, each followed by its events. -/
def ExecutedTx.chainOrder (executed : ExecutedTx) : List StakeDatum :=
  executed.msgs.flatMap ExecutedMsg.data

/-- The messages of a transaction, and then all events. -/
def ExecutedTx.messagesFirst (executed : ExecutedTx) : List StakeDatum :=
  (executed.msgs.map fun sent => .msg sent.msg) ++
    (executed.msgs.flatMap ExecutedMsg.events).map .event

namespace ExecutedBlock

/-- The data of a block in the order the chain executed them. -/
def chainOrder (block : ExecutedBlock) : List StakeDatum :=
  block.txs.flatMap ExecutedTx.chainOrder ++ block.finalizeEvents.map .event

/-- The data of a block with the messages of each transaction before its events. -/
def messagesFirst (block : ExecutedBlock) : List StakeDatum :=
  block.txs.flatMap ExecutedTx.messagesFirst ++ block.finalizeEvents.map .event

/-- No event of a successful transaction shares an id with a later message of the transaction. -/
def EventsLast (ids : StakeDatum → Set String) (block : ExecutedBlock) : Prop :=
  ∀ executed ∈ block.txs, executed.tx.code = 0 → executed.msgs.Pairwise fun earlier later =>
    ∀ event ∈ earlier.events, Disjoint (ids (.event event)) (ids (.msg later.msg))

end ExecutedBlock

/-- The data of an order that were successful and have one of some types. -/
def executedData (types : List String) (order : List StakeDatum) : List StakeDatum :=
  order.filter fun datum => datum.succeeded && datum.typeName ∈ types

/-- The operators a datum is about. -/
def operatorsOf (externals : Externals) (datum : StakeDatum) : Set String :=
  {operator | Concerns externals operator datum}

/-- The entities that a getter finds in a datum. -/
def entitiesOf (getEntityIdArg : RecordGetId) (datum : StakeDatum) : Set String :=
  {id | id ∈ entityIds getEntityIdArg datum}

/-- The rows that handling data leaves, seen through their lookups, if all can be handled. -/
def finalRows {ν : Type} (result : Except String (Dict String ν)) : Option (String → Option ν) :=
  result.toOption.map Dict.get

/-- What indexing a block makes of suppliers, applications and gateways is what handling its data in
some order makes of them. -/
structure FollowsOrder (externals : Externals) (data order : List StakeDatum) : Prop where
  suppliers : ∀ record : Dict String SupplierRecord, WellKept record.get →
    finalRows (((processSupplierEventsAndMessages externals
        (sortEventsAndMsgs (dataOfTypes supplierTypes data))).run record).map Prod.snd) =
      finalRows (((processSupplierEventsAndMessages externals
        (executedData supplierTypes order)).run record).map Prod.snd)
  applications : ∀ table task trace, StoredById Application.id table →
    indexStakeEntity Task.step (dataOfTypes applicationTypes data) applicationIds = .ok task →
    Trace task trace →
    finalRows (runInOrder handleApplicationDatum trace table) =
      finalRows (runInOrder handleApplicationDatum (executedData applicationTypes order) table)
  gateways : ∀ table task trace, StoredById Gateway.id table →
    indexStakeEntity Task.step (dataOfTypes gatewayTypes data) gatewayIds = .ok task →
    Trace task trace →
    finalRows (runInOrder handleGatewayDatum trace table) =
      finalRows (runInOrder handleGatewayDatum (executedData gatewayTypes order) table)

/-- What the data of a block name: events name one entity each, in the attribute that its getter
reads, and ids are addresses. -/
structure ConsistentData (data : List StakeDatum) : Prop where
  operators : ∀ datum ∈ data, NamesOneOperator datum
  events : ∀ event, .event event ∈ data →
    (StakeDatum.event event).typeName ∈ applicationTypes ++ gatewayTypes →
      CarriesGetterAttribute event ∧ ∃ source destination, ConsistentEvent event source destination
  addresses : ∀ datum ∈ data, ∀ id ∈ entityIds applicationIds datum ++ entityIds gatewayIds datum,
    IsAddress id

section Order

variable {ids : StakeDatum → Set String} {block : ExecutedBlock} {executed : ExecutedTx}

/-- The data of a transaction belong to it, and are not of finalization. -/
theorem ExecutedTx.mem_chainOrder {datum : StakeDatum} (member : datum ∈ executed.chainOrder) :
    datum.txIdx = WithTop.some executed.tx.idx ∧ datum.isFinalized = false ∧
      (datum.succeeded = true → executed.tx.code = 0) := by
  obtain ⟨sent, inside, held⟩ := List.mem_flatMap.mp member
  obtain ⟨own, emitted⟩ := executed.ofTx sent inside
  rcases List.mem_cons.mp held with rfl | held
  · exact ⟨by rw [StakeDatum.txIdx, own]; rfl, rfl, by simp [StakeDatum.succeeded, own]⟩
  · obtain ⟨event, listed, rfl⟩ := List.mem_map.mp held
    obtain ⟨ofTx, unfinalized⟩ := emitted event listed
    exact ⟨by rw [StakeDatum.txIdx, ofTx]; rfl, unfinalized, by simp [StakeDatum.succeeded, ofTx]⟩

/-- Both orders of a transaction hold the same data. -/
theorem ExecutedTx.messagesFirst_perm (executed : ExecutedTx) :
    executed.messagesFirst.Perm executed.chainOrder := by
  unfold messagesFirst chainOrder
  -- One message after the other moves in front of the events before it.
  induction executed.msgs with
  | nil => exact List.Perm.nil
  | cons sent rest ih =>
    simp only [List.map_cons, List.flatMap_cons, List.map_append, List.cons_append, ExecutedMsg.data]
    refine List.Perm.cons _ ?_
    rw [← List.append_assoc]
    refine (List.perm_append_comm.append_right _).trans ?_
    rw [List.append_assoc]
    exact ih.append_left _

/-- Within a transaction data are ordered by rank and index. -/
theorem ExecutedTx.precedes {earlier later : StakeDatum} (one : earlier ∈ executed.chainOrder)
    (two : later ∈ executed.chainOrder) (order : earlier.rank < later.rank ∨
      (earlier.rank = later.rank ∧ earlier.idx < later.idx)) : earlier.precedes later := by
  obtain ⟨first, unfinalized, -⟩ := mem_chainOrder one
  obtain ⟨second, also, -⟩ := mem_chainOrder two
  exact Or.inr (Or.inl ⟨unfinalized, also, Or.inr ⟨first.trans second.symm, order⟩⟩)

/-- The events of a transaction are among its data. -/
theorem ExecutedTx.event_mem {event : CosmosEvent}
    (member : event ∈ executed.msgs.flatMap ExecutedMsg.events) :
    .event event ∈ executed.chainOrder := by
  obtain ⟨sent, inside, listed⟩ := List.mem_flatMap.mp member
  exact List.mem_flatMap.mpr ⟨sent, inside, List.mem_cons_of_mem _ (List.mem_map_of_mem listed)⟩

/-- So are its messages. -/
theorem ExecutedTx.msg_mem {sent : ExecutedMsg} (member : sent ∈ executed.msgs) :
    .msg sent.msg ∈ executed.chainOrder :=
  List.mem_flatMap.mpr ⟨sent, member, List.mem_cons_self⟩

/-- With the messages first, each datum of a transaction precedes all that come later. -/
theorem ExecutedTx.messagesFirst_pairwise (executed : ExecutedTx) :
    executed.messagesFirst.Pairwise StakeDatum.precedes := by
  refine List.pairwise_append.mpr ⟨?_, ?_, ?_⟩
  · rw [List.pairwise_map]
    exact executed.msgsNumbered.imp_of_mem fun one two before =>
      precedes (msg_mem one) (msg_mem two) (Or.inr ⟨rfl, before⟩)
  · rw [List.pairwise_map]
    exact executed.eventsNumbered.imp_of_mem fun one two before =>
      precedes (event_mem one) (event_mem two) (Or.inr ⟨rfl, before⟩)
  · intro earlier one later two
    obtain ⟨sent, inside, rfl⟩ := List.mem_map.mp one
    obtain ⟨event, listed, rfl⟩ := List.mem_map.mp two
    exact precedes (msg_mem inside) (event_mem listed) (Or.inl Nat.zero_lt_one)

/-- As executed, an earlier datum of a successful transaction precedes a later one, or shares no id
with it. -/
theorem ExecutedTx.chainOrder_pairwise (last : executed.msgs.Pairwise fun earlier later =>
      ∀ event ∈ earlier.events, Disjoint (ids (.event event)) (ids (.msg later.msg))) :
    executed.chainOrder.Pairwise fun earlier later =>
      earlier.precedes later ∨ Disjoint (ids earlier) (ids later) := by
  obtain ⟨within, across⟩ := List.pairwise_flatMap.mp executed.eventsNumbered
  refine List.pairwise_flatMap.mpr ⟨fun sent inside => List.pairwise_cons.mpr ⟨?_, ?_⟩, ?_⟩
  · -- A message comes before the events it emits, by rank.
    intro later member
    obtain ⟨event, listed, rfl⟩ := List.mem_map.mp member
    exact Or.inl (precedes (msg_mem inside)
      (event_mem (List.mem_flatMap.mpr ⟨sent, inside, listed⟩)) (Or.inl Nat.zero_lt_one))
  · rw [List.pairwise_map]
    exact (within sent inside).imp_of_mem fun one two before => Or.inl (precedes
      (event_mem (List.mem_flatMap.mpr ⟨sent, inside, one⟩))
      (event_mem (List.mem_flatMap.mpr ⟨sent, inside, two⟩)) (Or.inr ⟨rfl, before⟩))
  · -- Between two messages only an event and a later message are out of rank.
    refine ((executed.msgsNumbered.and across).and last).imp_of_mem ?_
    rintro first second one two ⟨⟨numbered, before⟩, apart⟩ earlier held later listed
    rcases List.mem_cons.mp held with rfl | held
    · rcases List.mem_cons.mp listed with rfl | listed
      · exact Or.inl (precedes (msg_mem one) (msg_mem two) (Or.inr ⟨rfl, numbered⟩))
      · obtain ⟨event, emitted, rfl⟩ := List.mem_map.mp listed
        exact Or.inl (precedes (msg_mem one)
          (event_mem (List.mem_flatMap.mpr ⟨second, two, emitted⟩)) (Or.inl Nat.zero_lt_one))
    · obtain ⟨event, emitted, rfl⟩ := List.mem_map.mp held
      rcases List.mem_cons.mp listed with rfl | listed
      · exact Or.inr (apart event emitted)
      · obtain ⟨other, also, rfl⟩ := List.mem_map.mp listed
        exact Or.inl (precedes (event_mem (List.mem_flatMap.mpr ⟨first, one, emitted⟩))
          (event_mem (List.mem_flatMap.mpr ⟨second, two, also⟩))
          (Or.inr ⟨rfl, before event emitted other also⟩))

/-- Both orders of a block hold the same data. -/
theorem ExecutedBlock.messagesFirst_perm (block : ExecutedBlock) :
    block.messagesFirst.Perm block.chainOrder :=
  (List.Perm.flatMap_left _ fun executed _ => executed.messagesFirst_perm).append_right _

/-- In an order of its transactions that keeps to each of them, a block's data keep to precedence
where the data of each transaction do. -/
theorem ExecutedBlock.pairwise {order : ExecutedTx → List StakeDatum}
    {related : StakeDatum → StakeDatum → Prop}
    (holds : ∀ executed ∈ block.txs, (order executed).Perm executed.chainOrder)
    (within : ∀ executed ∈ block.txs, ((order executed).filter StakeDatum.succeeded).Pairwise
      fun earlier later => earlier.precedes later ∨ related earlier later) :
    ((block.txs.flatMap order ++ block.finalizeEvents.map StakeDatum.event).filter
      StakeDatum.succeeded).Pairwise fun earlier later =>
        earlier.precedes later ∨ related earlier later := by
  -- A datum of a transaction carries its index, and is not of finalization.
  have ofTx : ∀ {executed datum}, executed ∈ block.txs →
      datum ∈ (order executed).filter StakeDatum.succeeded →
      datum.txIdx = WithTop.some executed.tx.idx ∧ datum.isFinalized = false := by
    intro executed datum inside member
    obtain ⟨own, unfinalized, -⟩ := ExecutedTx.mem_chainOrder
      ((holds executed inside).mem_iff.mp (List.mem_filter.mp member).1)
    exact ⟨own, unfinalized⟩
  rw [List.filter_append, List.filter_flatMap]
  refine List.pairwise_append.mpr ⟨List.pairwise_flatMap.mpr ⟨within, ?_⟩, ?_, ?_⟩
  · refine block.txsNumbered.imp_of_mem fun one two before earlier held later listed => ?_
    obtain ⟨first, unfinalized⟩ := ofTx one held
    obtain ⟨second, also⟩ := ofTx two listed
    refine Or.inl (Or.inr (Or.inl ⟨unfinalized, also, Or.inl ?_⟩))
    rw [first, second]
    exact WithTop.coe_lt_coe.mpr before
  · refine List.Pairwise.filter _ (List.pairwise_map.mpr ?_)
    exact block.finalizeNumbered.imp_of_mem fun one two before => Or.inl (Or.inr (Or.inr
      ⟨block.finalizing _ one, block.finalizing _ two, before⟩))
  · intro earlier held later listed
    obtain ⟨executed, inside, member⟩ := List.mem_flatMap.mp held
    obtain ⟨event, emitted, rfl⟩ := List.mem_map.mp (List.mem_filter.mp listed).1
    exact Or.inl (Or.inl ⟨(ofTx inside member).2, block.finalizing event emitted⟩)

/-- With the messages first, each datum of a block precedes all that come later. -/
theorem ExecutedBlock.messagesFirst_pairwise (block : ExecutedBlock) :
    (block.messagesFirst.filter StakeDatum.succeeded).Pairwise fun earlier later =>
      earlier.precedes later ∨ Disjoint (ids earlier) (ids later) :=
  ExecutedBlock.pairwise (fun executed _ => executed.messagesFirst_perm) fun executed _ =>
    (executed.messagesFirst_pairwise.imp Or.inl).filter _

/-- As executed, an earlier datum of a block precedes a later one or shares no id with it, unless an
event and a later message of its transaction do. -/
theorem ExecutedBlock.chainOrder_pairwise (last : block.EventsLast ids) :
    (block.chainOrder.filter StakeDatum.succeeded).Pairwise fun earlier later =>
      earlier.precedes later ∨ Disjoint (ids earlier) (ids later) := by
  refine ExecutedBlock.pairwise (fun executed _ => List.Perm.refl _) fun executed inside => ?_
  by_cases failed : executed.tx.code = 0
  · exact (executed.chainOrder_pairwise (last executed inside failed)).filter _
  · -- A failed transaction has no successful data.
    have none : executed.chainOrder.filter StakeDatum.succeeded = [] :=
      List.filter_eq_nil_iff.mpr fun datum member succeeded =>
        failed ((ExecutedTx.mem_chainOrder member).2.2 succeeded)
    rw [none]
    exact List.Pairwise.nil

end Order

section Scheduled

variable {data order : List StakeDatum} {types : List String}

/-- Choosing among the events and among the messages is choosing among both. -/
theorem filter_parts_perm {keep : StakeDatum → Bool} {keepEvent : CosmosEvent → Bool}
    {keepMsg : CosmosMessage → Bool} (ofEvent : ∀ event, keepEvent event = keep (.event event))
    (ofMsg : ∀ msg, keepMsg msg = keep (.msg msg)) (data : List StakeDatum) :
    (((data.filterMap fun
        | .event event => some event
        | .msg _ => none).filter keepEvent).map StakeDatum.event ++
      ((data.filterMap fun
        | .event _ => none
        | .msg msg => some msg).filter keepMsg).map StakeDatum.msg).Perm (data.filter keep) := by
  induction data with
  | nil => exact List.Perm.nil
  | cons datum rest ih =>
    cases datum with
    | event event =>
      simp only [List.filterMap_cons, List.filter_cons, ofEvent]
      by_cases chosen : keep (.event event) = true
      · rw [if_pos chosen, if_pos chosen]
        exact ih.cons _
      · rw [if_neg chosen, if_neg chosen]
        exact ih
    | msg msg =>
      simp only [List.filterMap_cons, List.filter_cons, ofMsg]
      by_cases chosen : keep (.msg msg) = true
      · rw [if_pos chosen, if_pos chosen]
        exact List.perm_middle.trans (ih.cons _)
      · rw [if_neg chosen, if_neg chosen]
        exact ih

/-- The successful data are all that succeeded, the events first. -/
theorem successfulData_perm (data : List StakeDatum) :
    (successfulData data).Perm (data.filter StakeDatum.succeeded) := by
  simp only [successfulData, filterEventsByTxStatus, filterMsgByTxStatus,
    List.partition_eq_filter_filter]
  exact @filter_parts_perm StakeDatum.succeeded _ _ (fun _ => rfl) (fun _ => rfl) data

/-- Data are listed type by type, each once. -/
theorem dataOfTypes_perm (distinct : types.Nodup) (data : List StakeDatum) :
    (dataOfTypes types data).Perm (data.filter fun datum => datum.typeName ∈ types) := by
  have listed : dataOfTypes types data = (types.map fun type =>
      (data.filter fun datum => datum.typeName ∈ types).filter
        fun datum => datum.typeName = type).flatten := by
    rw [dataOfTypes, List.flatMap_def]
    congr 1
    refine List.map_congr_left fun type member => ?_
    rw [List.filter_filter]
    refine List.filter_congr fun datum _ => ?_
    by_cases same : datum.typeName = type
    · simp [same, member]
    · simp [same]
  rw [listed]
  exact flatten_labelled_perm distinct fun datum member => by simpa using (List.mem_filter.mp member).2

/-- The data of some types that are scheduled are those that were executed. -/
theorem scheduledData_perm (distinct : types.Nodup) (same : data.Perm order) :
    (successfulData (dataOfTypes types data)).Perm (executedData types order) := by
  refine (successfulData_perm _).trans ?_
  refine ((dataOfTypes_perm distinct data).filter _).trans ?_
  rw [List.filter_filter]
  exact same.filter _

/-- Pushing data onto an entry keeps it sorted, and adds them to its contents. -/
theorem foldl_push {entry : EntityData} (sorted : entry.Sorted) (data : List StakeDatum) :
    (data.foldl EntityData.push entry).Sorted ∧
      (data.foldl EntityData.push entry).contents.Perm (entry.contents ++ data) := by
  induction data generalizing entry with
  | nil => exact ⟨sorted, by rw [List.append_nil]; exact List.Perm.refl _⟩
  | cons datum rest ih =>
    obtain ⟨later, held⟩ := ih (push_sorted sorted datum)
    refine ⟨later, held.trans ?_⟩
    rw [← List.singleton_append, ← List.append_assoc]
    exact (push_contents entry datum).append_right rest

/-- The sorted data of suppliers are the successful ones, and none comes after one it precedes. -/
theorem sortEventsAndMsgs_spec (data : List StakeDatum) :
    (sortEventsAndMsgs data).Perm (successfulData data) ∧
      (sortEventsAndMsgs data).Pairwise fun earlier later => ¬later.precedes earlier := by
  have empty : EntityData.empty.Sorted := ⟨by simp [EntityData.empty], by simp [EntityData.empty]⟩
  obtain ⟨sorted, held⟩ := foldl_push empty (successfulData data)
  exact ⟨(schedule_perm _).trans held, schedule_inOrder sorted⟩

/-- In a scheduled order no datum comes after one it precedes, unless they share no id. -/
theorem scheduled_inOrder {getEntityIdArg : RecordGetId} {task : Task StakeDatum}
    {trace : List StakeDatum}
    (addresses : ∀ datum ∈ successfulData data, ∀ id ∈ entityIds getEntityIdArg datum, IsAddress id)
    (built : indexStakeEntity Task.step data getEntityIdArg = .ok task) (run : Trace task trace) :
    trace.Pairwise fun earlier later => ¬later.precedes earlier ∨
      Disjoint (entitiesOf getEntityIdArg earlier) (entitiesOf getEntityIdArg later) := by
  obtain ⟨groups, grouped, same⟩ := exceptBind_ok built
  cases same
  have free := indexStakeEntityGroups_conflictFree addresses grouped
  have listed : ∀ group : List StakeDatum,
      (Task.chain (group.map Task.step)).actions = group := by
    intro group
    rw [Task.actions_chain, List.map_map]
    exact flatten_map_steps group
  refine run.all_pairwise ?_ ?_
  · intro task member own ran
    obtain ⟨group, located, rfl⟩ := List.mem_map.mp member
    rw [ran.chain_steps]
    exact (free.inOrder group located).imp Or.inl
  · rw [List.pairwise_map]
    refine free.apart.imp fun {group beside} apart datum inside other held => ?_
    rw [listed] at inside held
    have disjoint : Disjoint (entitiesOf getEntityIdArg datum) (entitiesOf getEntityIdArg other) :=
      Set.disjoint_left.mpr (apart datum inside other held)
    exact ⟨Or.inr disjoint, Or.inr disjoint.symm⟩

end Scheduled

section Handling

variable {ν : Type}

/-- Handling data one after the other, seen through the lookups. -/
theorem finalRows_runInOrder (handle : StakeDatum → Program String String ν Unit)
    (order : List StakeDatum) (table : Dict String ν) :
    finalRows (runInOrder handle order table) =
      order.foldlM (fun rows datum => (handle datum).rowsAfter rows) table.get := by
  induction order generalizing table with
  | nil => rfl
  | cons datum rest ih =>
    rw [List.foldlM_cons, Program.rowsAfter_get]
    show finalRows ((((handle datum).run table).map Prod.snd).bind (runInOrder handle rest)) = _
    cases (handle datum).run table with
    | error message => rfl
    | ok result => exact ih result.2

/-- Handlers whose data touch no rows but those they name leave the same rows in both orders. -/
theorem runInOrder_reordered {id : ν → String} {handle : StakeDatum → Program String String ν Unit}
    {keys : StakeDatum → Set String} {trace order : List StakeDatum}
    (owns : ∀ datum, (handle datum).SavesOwn id)
    (touches : ∀ datum ∈ order, ∀ table value after, StoredById id table →
      (handle datum).run table = .ok (value, after) →
      ∀ key ∈ (handle datum).touched table, key ∈ keys datum)
    (same : trace.Perm order)
    (ordered : order.Pairwise fun earlier later =>
      earlier.precedes later ∨ Disjoint (keys earlier) (keys later))
    (kept : trace.Pairwise fun earlier later =>
      ¬later.precedes earlier ∨ Disjoint (keys earlier) (keys later))
    {table : Dict String ν} (byId : StoredById id table) :
    finalRows (runInOrder handle trace table) = finalRows (runInOrder handle order table) := by
  have confined : ∀ datum ∈ order, Confined (fun rows => ∃ table, StoredById id table ∧
      table.get = rows) (keys datum) fun rows => (handle datum).rowsAfter rows :=
    fun datum inside => Program.confined_of_touched
      (fun table value after stored ran => (owns datum).run ran stored) (touches datum inside)
  rw [finalRows_runInOrder, finalRows_runInOrder]
  exact (foldlM_confined confined same.symm ordered kept ⟨table, byId, rfl⟩).symm

/-- Handling supplier data one after the other, seen through the lookups. -/
theorem finalRows_suppliers (externals : Externals) (data : List StakeDatum)
    (record : Dict String SupplierRecord) :
    finalRows (((processSupplierEventsAndMessages externals data).run record).map Prod.snd) =
      data.foldlM (fun rows datum => (processSupplierDatum externals datum).rowsAfter rows)
        record.get := by
  have lookups : ∀ {program : SupplierProgram SupplierChanges},
      finalRows ((program.run record).map Prod.snd) = program.rowsAfter record.get := by
    intro program
    rw [Program.rowsAfter_get]
    cases program.run record <;> rfl
  rw [lookups]
  -- What the data add to the changes plays no part.
  generalize record.get = rows
  induction data generalizing rows with
  | nil => rfl
  | cons datum rest ih =>
    rw [List.foldlM_cons]
    refine Program.rowsAfter_bind _ (fun changes middle => ?_) rows
    rw [← ih middle]
    exact Program.rowsAfter_map _ changes.append middle

/-- With other records of operators that a datum is not about, its step is the same. -/
theorem SupplierStep.elsewhere {externals : Externals} {records other after : SupplierRecords}
    {datum : StakeDatum} {changes : SupplierChanges}
    (step : SupplierStep externals records datum changes after)
    (agree : ∀ operator, Concerns externals operator datum → other operator = records operator) :
    ∃ result, SupplierStep externals other datum changes result ∧
      ∀ operator, Concerns externals operator datum → result operator = after operator := by
  -- Entering a record keeps the agreement about the operators of the datum.
  have entered : ∀ {named : String} {entry : Option SupplierRecord} operator,
      Concerns externals operator datum →
      Function.update other named entry operator = Function.update records named entry operator := by
    intro named entry operator about
    by_cases same : operator = named
    · rw [same, Function.update_self, Function.update_self]
    · rw [Function.update_of_ne same, Function.update_of_ne same, agree operator about]
  cases step with
  | @stake msg decoded amount denom kind stake =>
    have same := agree decoded.operatorAddress
      (by simp [Concerns, kind, supplierPath, DecodedMsg.get])
    rw [← same] at stake ⊢
    exact ⟨_, .stake kind stake, entered⟩
  | @claim msg decoded props kind made =>
    have same := agree decoded.shannonOperatorAddress
      (by simp [Concerns, kind, supplierPath, DecodedMsg.get])
    rw [← same]
    exact ⟨_, .claim kind made, entered⟩
  | @unstake msg decoded entry supplier kind found has =>
    have same := agree decoded.operatorAddress
      (by simp [Concerns, kind, supplierPath, DecodedMsg.get])
    exact ⟨_, .unstake kind (same.trans found) has, entered⟩
  | @unbondingBegin event unbonding entry supplier reason recorded kind told found has =>
    have same := agree unbonding.operatorAddress
      (by simp only [Concerns, kind, (readSupplierUnbonding_ok told.read).1])
    exact ⟨_, .unbondingBegin kind told (same.trans found) has, entered⟩
  | @unbondingEnd event unbonding entry supplier reason recorded kind told found has =>
    have same := agree unbonding.operatorAddress
      (by simp only [Concerns, kind, (readSupplierUnbonding_ok told.read).1])
    exact ⟨_, .unbondingEnd kind told (same.trans found) has, entered⟩
  | @slash event values entry supplier coin penalty told kind read found has =>
    have same := agree values.operatorAddress
      (by simp only [Concerns, kind]; exact ⟨_, read.read, rfl⟩)
    exact ⟨_, .slash kind read (same.trans found) has, entered⟩
  | @activate event height operator entry kind read found =>
    have same := agree operator (by simp only [Concerns, kind, read.read])
    exact ⟨_, .activate kind read (same.trans found), entered⟩
  | @activateUnknown event height operator kind read unknown =>
    have same := agree operator (by simp only [Concerns, kind, read.read])
    exact ⟨other, .activateUnknown kind read (same.trans unknown), agree⟩
  -- A datum that is ignored reads no record.
  | ignoreMsg kind => exact ⟨other, .ignoreMsg kind, agree⟩
  | ignoreEvent kind => exact ⟨other, .ignoreEvent kind, agree⟩

/-- Handling a datum keeps to the operators it is about. -/
theorem processSupplierDatum_confined (externals : Externals) {datum : StakeDatum}
    (consistent : NamesOneOperator datum) : Confined WellKept (operatorsOf externals datum)
      fun rows => (processSupplierDatum externals datum).rowsAfter rows := by
  have step : ∀ {rows after}, WellKept rows →
      (processSupplierDatum externals datum).rowsAfter rows = some after →
      ∃ changes, SupplierStep externals rows datum changes after := by
    intro rows after kept ran
    obtain ⟨⟨changes, final⟩, done, rfl⟩ := Option.map_eq_some_iff.mp ran
    exact ⟨changes, supplierStep_of_exec kept.keyed consistent done⟩
  constructor
  · intro rows after kept ran
    obtain ⟨changes, step⟩ := step kept ran
    exact step.wellKept kept
  · intro rows after kept ran operator outside
    obtain ⟨changes, step⟩ := step kept ran
    exact step.frame outside
  · intro rows other after kept alsoKept agree ran
    obtain ⟨changes, step⟩ := step kept ran
    obtain ⟨result, again, same⟩ := step.elsewhere agree
    have ran := exec_of_supplierStep alsoKept.keyed consistent again
    exact ⟨result, by rw [Program.rowsAfter, ran]; rfl, same⟩

end Handling

section Touched

variable {event : CosmosEvent} {msg : CosmosMessage} {source destination : String}

/-- An application event touches the applications its getter finds. -/
theorem applicationEvent_touches (consistent : ConsistentEvent event source destination)
    (carries : CarriesGetterAttribute event) {table : Dict String Application}
    {final : Unit × Dict String Application} (stored : StoredById Application.id table)
    (ran : (handleApplicationDatum (.event event)).run table = .ok final) :
    ∀ id ∈ (handleApplicationDatum (.event event)).touched table,
      id ∈ entityIds applicationIds (.event event) := by
  rw [handleApplicationDatum] at ran ⊢
  unfold CarriesGetterAttribute at carries
  cases kind : event.type with
  | applicationTransferBegin =>
    simp only [kind, applicationEventHandler] at ran carries ⊢
    have touched := transferBegin_touched consistent stored ran
    exact fun id => (((sourceGetter_agrees_iff consistent (by simp [kind, applicationIds])
      touched).mpr carries).2 id).mpr
  | applicationTransferEnd =>
    simp only [kind, applicationEventHandler] at ran carries ⊢
    obtain ⟨carried, touched⟩ := transferEnd_touched consistent stored ran
    exact fun id => (((transferEndGetter_agrees_iff consistent kind carried
      touched).mpr carries).2 id).mpr
  | applicationTransferError =>
    simp only [kind, applicationEventHandler] at ran ⊢
    obtain ⟨carried, touched⟩ := transferError_touched consistent stored ran
    exact fun id => (((sourceGetter_agrees_iff consistent (by simp [kind, applicationIds])
      touched).mpr carried).2 id).mpr
  | applicationUnbondingBegin =>
    simp only [kind, applicationEventHandler] at ran carries ⊢
    have touched := unbondingBegin_touched consistent stored ran
    exact fun id => (((jsonGetter_agrees_iff consistent (by simp) (by simp [kind, applicationIds,
      getIdOfBondingEvents]) touched).mpr carries).2 id).mpr
  | applicationUnbondingEnd =>
    simp only [kind, applicationEventHandler] at ran carries ⊢
    have touched := unbondingEnd_touched consistent stored ran
    exact fun id => (((jsonGetter_agrees_iff consistent (by simp) (by simp [kind, applicationIds,
      getIdOfBondingEvents]) touched).mpr carries).2 id).mpr
  | _ =>
    -- The other events have no handler.
    simp [kind, applicationEventHandler, Program.run] at ran

/-- A gateway event touches the gateway its getter finds. -/
theorem gatewayEvent_touches (consistent : ConsistentEvent event source destination)
    (carries : CarriesGetterAttribute event) {table : Dict String Gateway}
    {final : Unit × Dict String Gateway} (stored : StoredById Gateway.id table)
    (ran : (handleGatewayDatum (.event event)).run table = .ok final) :
    ∀ id ∈ (handleGatewayDatum (.event event)).touched table,
      id ∈ entityIds gatewayIds (.event event) := by
  rw [handleGatewayDatum] at ran ⊢
  unfold CarriesGetterAttribute at carries
  have agrees : ∀ {ids : List String},
      gatewayIds.getIdFromEventAttribute event.type = some getIdOfUnbondingEvents →
      Carries event "gateway" → (∀ id, id ∈ ids ↔ id = source) →
      ∀ id ∈ ids, id ∈ entityIds gatewayIds (.event event) :=
    fun getter carried touched id => (((jsonGetter_agrees_iff consistent (by simp)
      getter touched).mpr carried).2 id).mpr
  cases kind : event.type with
  | gatewayUnstaked =>
    simp only [kind, gatewayEventHandler] at ran ⊢
    obtain ⟨carried, touched⟩ := gatewayUnstaked_touched consistent stored ran
    exact agrees (by rw [kind]; rfl) carried touched
  | gatewayUnbondingBegin =>
    simp only [kind, gatewayEventHandler] at ran carries ⊢
    exact agrees (by rw [kind]; rfl) carries (gatewayUnbondingBegin_touched consistent stored ran)
  | gatewayUnbondingEnd =>
    simp only [kind, gatewayEventHandler] at ran carries ⊢
    exact agrees (by rw [kind]; rfl) carries (gatewayUnbondingEnd_touched consistent stored ran)
  | _ => simp [kind, gatewayEventHandler, Program.run] at ran

/-- An application message touches the application its getter finds. -/
theorem applicationMsg_touches {table : Dict String Application}
    {final : Unit × Dict String Application} (stored : StoredById Application.id table)
    (ran : (handleApplicationDatum (.msg msg)).run table = .ok final) :
    ∀ id ∈ (handleApplicationDatum (.msg msg)).touched table,
      id ∈ entityIds applicationIds (.msg msg) := by
  cases kind : msg.decodedMsg with
  | stakeApplication decoded =>
    have within : (handleApplicationDatum (.msg msg)).Within {decoded.address} := by
      simp only [handleApplicationDatum, applicationMsgHandler, kind, handleAppMsgStake,
        collectStakes, _handleAppMsgStake, _stakeApplication, saveApplications, Program.bind_eq,
        Option.getD_some, List.mapM_cons, List.mapM_nil, Program.pure_eq, Program.bind_assoc,
        Program.read_bind, List.map_cons, List.map_nil, Program.write_bind, Program.bind]
      exact (Program.Within.lift _ _).bind fun amount => ⟨rfl, fun _ => ⟨rfl, trivial⟩⟩
    intro id inside
    rw [within.touched table id inside]
    simp [entityIds, getEntityId, applicationIds, kind, DecodedMsg.typeUrl, DecodedMsg.get]
  | claimMorseApplication decoded =>
    have within : (handleApplicationDatum (.msg msg)).Within {decoded.shannonDestAddress} := by
      simp only [handleApplicationDatum, applicationMsgHandler, kind,
        handleMsgClaimMorseApplication, collectStakes, _handleMsgClaimMorseApplication,
        _stakeApplication, saveApplications, Program.bind_eq, Option.getD_some, List.mapM_cons,
        List.mapM_nil, Program.pure_eq, Program.bind_assoc, Program.read_bind, List.map_cons,
        List.map_nil, Program.write_bind, Program.bind]
      refine (Program.Within.lift _ _).bind fun stakeCoin =>
        (Program.Within.lift _ _).bind fun balanceCoin => ⟨rfl, fun app => ?_⟩
      refine (Program.Within.lift _ _).bind fun stakeAmount =>
        (Program.Within.lift _ _).bind fun balanceAmount =>
          (Program.Within.lift _ _).bind fun services => ?_
      exact ⟨rfl, fun _ => ⟨rfl, trivial⟩⟩
    intro id inside
    rw [within.touched table id inside]
    simp [entityIds, getEntityId, applicationIds, kind, DecodedMsg.typeUrl, DecodedMsg.get]
  | unstakeApplication decoded =>
    simp only [handleApplicationDatum, applicationMsgHandler, kind, handleUnstakeApplicationMsg,
      handleAll_single, Option.getD_some, _handleUnstakeApplicationMsg, Program.bind_eq,
      Program.bind_assoc] at ran ⊢
    obtain ⟨application, found, -, touched⟩ := run_getApplication_bind ran
    rw [touched]
    simp [touched_saveApplications, stored _ _ found, entityIds, getEntityId, applicationIds, kind,
      DecodedMsg.typeUrl, DecodedMsg.get]
  | transferApplication decoded =>
    simp only [handleApplicationDatum, applicationMsgHandler, kind, handleTransferApplicationMsg,
      handleAll_single, Option.getD_some, _handleTransferApplicationMsg, Program.bind_eq,
      Program.bind_assoc] at ran ⊢
    obtain ⟨application, found, -, touched⟩ := run_getApplication_bind ran
    rw [touched]
    simp [touched_saveApplications, stored _ _ found, entityIds, getEntityId, applicationIds, kind,
      DecodedMsg.typeUrl, DecodedMsg.get]
  | _ =>
    -- The others touch no row, or have no handler.
    simp [handleApplicationDatum, applicationMsgHandler, kind, Program.run, Program.touched] at ran ⊢

/-- A gateway message touches the gateway its getter finds. -/
theorem gatewayMsg_touches {table : Dict String Gateway} {final : Unit × Dict String Gateway}
    (stored : StoredById Gateway.id table)
    (ran : (handleGatewayDatum (.msg msg)).run table = .ok final) :
    ∀ id ∈ (handleGatewayDatum (.msg msg)).touched table, id ∈ entityIds gatewayIds (.msg msg) := by
  cases kind : msg.decodedMsg with
  | stakeGateway decoded =>
    have within : (handleGatewayDatum (.msg msg)).Within {decoded.address} := by
      simp only [handleGatewayDatum, gatewayMsgHandler, kind, Option.getD_some,
        _handleGatewayMsgStake, Program.bind_eq]
      exact (Program.Within.lift _ _).bind fun stake =>
        (Program.Within.lift _ _).bind fun amount => ⟨rfl, trivial⟩
    intro id inside
    rw [within.touched table id inside]
    simp [entityIds, getEntityId, gatewayIds, kind, DecodedMsg.typeUrl, DecodedMsg.get]
  | unstakeGateway decoded =>
    simp only [handleGatewayDatum, gatewayMsgHandler, kind, Option.getD_some,
      _handleGatewayMsgUnstake, Program.bind_eq] at ran ⊢
    obtain ⟨gateway, found, -, touched⟩ := run_getGateway_bind ran
    rw [touched]
    simp [Program.write, Program.touched, stored _ _ found, entityIds, getEntityId, gatewayIds,
      kind, DecodedMsg.typeUrl, DecodedMsg.get]
  | _ => simp [handleGatewayDatum, gatewayMsgHandler, kind, Program.run] at ran

/-- Fetching a gateway stores nothing. -/
theorem getGateway_savesOwn (id message : String) : (getGateway id message).SavesOwn Gateway.id := by
  intro row
  cases row <;> exact trivial

/-- Every handler stores gateways under their own ids. -/
theorem handleGatewayDatum_savesOwn (datum : StakeDatum) :
    (handleGatewayDatum datum).SavesOwn Gateway.id := by
  have saved : ∀ {id message : String} {next : Gateway → GatewayProgram Unit},
      (∀ gateway, (next gateway).SavesOwn Gateway.id) →
      ((getGateway id message).bind next).SavesOwn Gateway.id :=
    fun {id message next} => (getGateway_savesOwn id message).bind
  cases datum with
  | event event =>
    rw [handleGatewayDatum]
    cases event.type with
    | gatewayUnstaked =>
      exact (Program.SavesOwn.lift _ _).bind fun _ => (Program.SavesOwn.lift _ _).bind fun _ =>
        saved fun gateway => ⟨rfl, trivial⟩
    | gatewayUnbondingBegin =>
      exact (Program.SavesOwn.lift _ _).bind fun _ => saved fun gateway => ⟨rfl, trivial⟩
    | gatewayUnbondingEnd =>
      exact (Program.SavesOwn.lift _ _).bind fun _ => saved fun gateway => ⟨rfl, trivial⟩
    | _ => exact trivial
  | msg msg =>
    rw [handleGatewayDatum, gatewayMsgHandler]
    cases msg.decodedMsg with
    | stakeGateway decoded =>
      exact (Program.SavesOwn.lift _ _).bind fun _ => (Program.SavesOwn.lift _ _).bind fun _ =>
        ⟨rfl, trivial⟩
    | unstakeGateway decoded => exact saved fun gateway => ⟨rfl, trivial⟩
    | _ => exact trivial

end Touched

section Blocks

variable {externals : Externals} {block : ExecutedBlock} {data order : List StakeDatum}

/-- A block is indexed in the order of its data, where these keep to precedence but for data that
share no id. -/
theorem followsOrder_of_pairwise (same : data.Perm order)
    (consistent : ConsistentData (data.filter StakeDatum.succeeded))
    (ordered : ∀ ids ∈ [operatorsOf externals, entitiesOf applicationIds, entitiesOf gatewayIds],
      (order.filter StakeDatum.succeeded).Pairwise fun earlier later =>
        earlier.precedes later ∨ Disjoint (ids earlier) (ids later)) :
    FollowsOrder externals data order := by
  -- Leaving data out keeps the order of the rest.
  have handled : ∀ types ids, ids ∈ [operatorsOf externals, entitiesOf applicationIds,
      entitiesOf gatewayIds] → (executedData types order).Pairwise fun earlier later =>
        earlier.precedes later ∨ Disjoint (ids earlier) (ids later) := by
    intro types ids listed
    have part : executedData types order =
        (order.filter StakeDatum.succeeded).filter fun datum => datum.typeName ∈ types := by
      rw [executedData, List.filter_filter]
      exact List.filter_congr fun datum _ => Bool.and_comm _ _
    rw [part]
    exact (ordered ids listed).filter _
  have held : ∀ {types datum}, datum ∈ executedData types order →
      datum ∈ data.filter StakeDatum.succeeded ∧ datum.typeName ∈ types := by
    intro types datum member
    obtain ⟨inside, chosen⟩ := List.mem_filter.mp member
    obtain ⟨succeeded, typed⟩ := Bool.and_eq_true_iff.mp chosen
    exact ⟨List.mem_filter.mpr ⟨same.mem_iff.mpr inside, succeeded⟩, of_decide_eq_true typed⟩
  have addresses : ∀ {types}, types.Nodup → ∀ datum ∈ successfulData (dataOfTypes types data),
      ∀ id ∈ entityIds applicationIds datum ++ entityIds gatewayIds datum, IsAddress id :=
    fun distinct datum member => consistent.addresses datum
      (held ((scheduledData_perm distinct same).mem_iff.mp member)).1
  constructor
  · -- Suppliers are written by sorted data, which differs from the order by swaps within other ids.
    intro record kept
    obtain ⟨perm, inOrder⟩ := sortEventsAndMsgs_spec (dataOfTypes supplierTypes data)
    have confined : ∀ datum ∈ executedData supplierTypes order,
        Confined WellKept (operatorsOf externals datum)
          fun rows => (processSupplierDatum externals datum).rowsAfter rows := fun datum member =>
      processSupplierDatum_confined externals (consistent.operators datum (held member).1)
    rw [finalRows_suppliers, finalRows_suppliers]
    exact (foldlM_confined confined (perm.trans (scheduledData_perm (by decide) same)).symm
      (handled _ _ (by simp)) (inOrder.imp Or.inl) kept).symm
  · -- Applications run by dependencies, which keep the data that share an id in order.
    intro table task trace byId built run
    have named : ∀ datum ∈ successfulData (dataOfTypes applicationTypes data),
        ∀ id ∈ entityIds applicationIds datum, IsAddress id := fun datum member id inside =>
      addresses (by decide) datum member id (List.mem_append_left _ inside)
    refine runInOrder_reordered handleApplicationDatum_savesOwn (fun datum member => ?_)
      ((scheduled_perm named built run).trans (scheduledData_perm (by decide) same))
      (handled _ (entitiesOf applicationIds) (by simp)) (scheduled_inOrder named built run) byId
    intro table value after stored ran
    obtain ⟨inside, typed⟩ := held member
    cases datum with
    | msg msg => exact applicationMsg_touches stored ran
    | event event =>
      obtain ⟨carries, source, destination, names⟩ := consistent.events event inside
        (List.mem_append_left _ typed)
      exact applicationEvent_touches names carries stored ran
  · -- Gateways run the same way, with their own ids.
    intro table task trace byId built run
    have named : ∀ datum ∈ successfulData (dataOfTypes gatewayTypes data),
        ∀ id ∈ entityIds gatewayIds datum, IsAddress id := fun datum member id inside =>
      addresses (by decide) datum member id (List.mem_append_right _ inside)
    refine runInOrder_reordered handleGatewayDatum_savesOwn (fun datum member => ?_)
      ((scheduled_perm named built run).trans (scheduledData_perm (by decide) same))
      (handled _ (entitiesOf gatewayIds) (by simp)) (scheduled_inOrder named built run) byId
    intro table value after stored ran
    obtain ⟨inside, typed⟩ := held member
    cases datum with
    | msg msg => exact gatewayMsg_touches stored ran
    | event event =>
      obtain ⟨carries, source, destination, names⟩ := consistent.events event inside
        (List.mem_append_right _ typed)
      exact gatewayEvent_touches names carries stored ran

/--
Indexing stakes refines handling a block's data transaction by transaction.

Within a transaction the messages come before the events. Where no event of a transaction is about an
entity of a later message, this is what handling them in the order the chain executed them leaves.
-/
theorem indexStake_followsOrder (same : data.Perm block.chainOrder)
    (consistent : ConsistentData (data.filter StakeDatum.succeeded)) :
    FollowsOrder externals data block.messagesFirst ∧
      (block.EventsLast (operatorsOf externals) → block.EventsLast (entitiesOf applicationIds) →
        block.EventsLast (entitiesOf gatewayIds) →
        FollowsOrder externals data block.chainOrder) := by
  constructor
  · exact followsOrder_of_pairwise (same.trans block.messagesFirst_perm.symm) consistent
      fun ids _ => block.messagesFirst_pairwise
  · intro operators applications gateways
    refine followsOrder_of_pairwise same consistent fun ids listed => ?_
    simp only [List.mem_cons, List.not_mem_nil, or_false] at listed
    rcases listed with rfl | rfl | rfl
    · exact block.chainOrder_pairwise operators
    · exact block.chainOrder_pairwise applications
    · exact block.chainOrder_pairwise gateways

end Blocks

/-- A message of a supplier in one transaction. -/
def sameTxMsg (idx : ℕ) (decodedMsg : DecodedMsg) : CosmosMessage :=
  ⟨idx, 120, ⟨0, "T", 0, []⟩, decodedMsg⟩

/-- The unbonding that the first message of the transaction begins. -/
def sameTxUnbonding : CosmosEvent where
  idx := 0
  height := 120
  kind := .message
  type := .supplierUnbondingBegin
  attributes := [⟨"operator_address", "pokt1op"⟩, ⟨"unbonding_end_height", "130"⟩,
    ⟨"session_end_height", "119"⟩, ⟨"reason", "SUPPLIER_UNBONDING_REASON_VOLUNTARY"⟩]
  tx := some ⟨0, "T", 0, []⟩
  msg := some (sameTxMsg 0 (.unstakeSupplier ⟨"pokt1op", "pokt1op"⟩))

/-- A supplier unstakes and stakes again in a transaction, and then an application's unbonding ends. -/
def sameTxBlock : ExecutedBlock where
  txs := [{
    tx := ⟨0, "T", 0, []⟩
    msgs := [⟨sameTxMsg 0 (.unstakeSupplier ⟨"pokt1op", "pokt1op"⟩), [sameTxUnbonding]⟩,
      ⟨sameTxMsg 1 (.stakeSupplier ⟨"pokt1op", "pokt1op", "pokt1op", some ⟨"100", "upokt"⟩, []⟩),
        []⟩]
    ofTx := by decide
    msgsNumbered := by decide
    eventsNumbered := by decide }]
  finalizeEvents := [jsonUnbondingEnd]
  txsNumbered := by decide
  finalizing := by decide
  finalizeNumbered := by decide

/-- The data of the block name what the chain promises. -/
theorem sameTxBlock_consistent :
    ConsistentData (sameTxBlock.chainOrder.filter StakeDatum.succeeded) where
  operators := by
    intro datum member event same kind
    subst same
    have activated : ∀ datum ∈ sameTxBlock.chainOrder, datum.typeName ≠
      "pocket.supplier.EventSupplierServiceConfigActivated" := by decide +kernel
    refine absurd ?_ (activated _ (List.mem_filter.mp member).1)
    rw [StakeDatum.typeName, kind]
    rfl
  events := by
    intro event member typed
    have ended : ∀ datum ∈ sameTxBlock.chainOrder.filter StakeDatum.succeeded,
        datum.typeName ∈ applicationTypes ++ gatewayTypes → datum = .event jsonUnbondingEnd := by
      decide +kernel
    cases ended _ member typed
    exact ⟨⟨_, List.mem_cons_self, rfl⟩, _, _, jsonUnbondingEnd_consistent⟩
  addresses := by decide +kernel

/-- A block in which a supplier is staked again follows its messages before their events. -/
theorem indexStake_followsOrder_restaked :
    FollowsOrder plainExternals sameTxBlock.chainOrder sameTxBlock.messagesFirst :=
  (indexStake_followsOrder (List.Perm.refl _) sameTxBlock_consistent).1

/-- In the order of the chain the supplier ends up staked, and as indexed it is noted to unbond. -/
theorem indexStake_not_chainOrder :
    ConsistentData (sameTxBlock.chainOrder.filter StakeDatum.succeeded) ∧
      ¬FollowsOrder plainExternals sameTxBlock.chainOrder sameTxBlock.chainOrder := by
  refine ⟨sameTxBlock_consistent, fun follows => ?_⟩
  have kept : WellKept (Dict.empty.set "pokt1op"
      (⟨some (plainSupplier "pokt1op" .staked), Dict.empty⟩ : SupplierRecord)).get := by
    refine wellKept_of_entries fun entry member => ?_
    have only : (Dict.empty.set "pokt1op" (⟨some (plainSupplier "pokt1op" .staked), Dict.empty⟩ :
        SupplierRecord)).entries =
          [("pokt1op", ⟨some (plainSupplier "pokt1op" .staked), Dict.empty⟩)] := rfl
    rw [only, List.mem_singleton] at member
    subst member
    refine ⟨fun supplier has => ?_, fun service inside => absurd inside List.not_mem_nil⟩
    cases has
    rfl
  have same := congrArg (Option.map fun rows => (rows "pokt1op").map fun entry =>
    entry.supplier.map Supplier.unstakingEndHeight) (follows.suppliers _ kept)
  exact absurd same (by decide +kernel)

end Pocketdex
