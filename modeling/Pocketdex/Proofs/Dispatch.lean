import Pocketdex.IndexingHandler

/-! Every message and event of a block is handed over once, to a recipient of its type. -/

namespace Pocketdex.IndexingHandler

/-- The types of events that are filed and then left alone. -/
def unusedTypes : List HandledType :=
  [.event .mint, .event .coinbase, .event .transfer, .event .burn]

/-- The types whose data are handled whether or not their transaction succeeded. -/
def anyStatusTypes : List HandledType := [.msg .send, .event .rewards, .event .commission,
  .event .coinReceived, .event .coinSpent, .event .claimSettled]

/-- Whether data are handled by their type and status. -/
def handledWith (succeeded : Bool) (type : HandledType) : Bool :=
  !unusedTypes.contains type && (succeeded || anyStatusTypes.contains type)

/-- Whether a datum of a block is handed over. -/
def BlockDatum.isIndexed (moduleAccounts : List String) (datum : BlockDatum) : Bool :=
  let valid := match datum with
    | .msg _ => true
    | .event emitted => isValidEvent moduleAccounts emitted
  valid && datum.type?.any (handledWith datum.succeeded)

/-- The types that a recipient is there for. -/
def Recipient.types : Recipient → List HandledType
  | handler type => [type]
  | applications => applicationTypes
  | gateways => gatewayTypes
  | suppliers => supplierTypes
  | claimSettled => [.event .claimSettled]
  | balances => [.event .coinReceived, .event .coinSpent]

/-- A call hands over data of the types of its recipient, and only settled claims look others up. -/
structure Call.Fits (call : Call) : Prop where
  own : ∀ datum ∈ call.docs, ∃ type ∈ call.recipient.types, datum.type? = some type
  alone : call.recipient ≠ .claimSettled → call.lookedUp = []

/-- All recipients, in the order the block is indexed. -/
def recipients : List Recipient := [
  .handler (.msg .exec), .applications, .gateways, .suppliers,
  .handler (.msg .createClaim), .handler (.msg .submitProof),
  .handler (.event .claimExpired), .handler (.event .claimUpdated),
  .handler (.event .proofUpdated), .handler (.event .proofValidityChecked),
  .handler (.event .applicationOverserviced), .handler (.event .applicationReimbursementRequest),
  .handler (.event .settlementBatch), .handler (.event .validatorRewardDistribution),
  .claimSettled, .balances, .handler (.msg .send), .handler (.msg .grant),
  .handler (.event .grant), .handler (.msg .addService),
  .handler (.event .relayMiningDifficultyUpdated), .handler (.msg .createValidator),
  .handler (.event .rewards), .handler (.event .commission),
  .handler (.msg .claimMorseAccount), .handler (.msg .recoverMorseAccount)]

/-- What a list of types contributes to the handling of a type. -/
def share (types : List HandledType) (type : HandledType) (kept : Bool) : ℕ :=
  if kept then types.count type else 0

section

variable {data : List BlockDatum} {datum : BlockDatum} {types : List HandledType}
  {status : ByTxStatus}

/-- The data of some types hold a datum as often as its type is listed. -/
theorem count_byType (types : List HandledType) (keeps : BlockDatum → Bool) :
    ((types.flatMap (byType data)).filter keeps).count datum =
      (datum.type?.elim 0 fun type => share types type (keeps datum)) * data.count datum := by
  induction types with
  | nil => cases datum.type? <;> simp [share]
  | cons type rest ih =>
    -- The data of the first type are counted apart from those of the others.
    rw [List.flatMap_cons, List.filter_append, List.count_append, ih]
    have one : ((byType data type).filter keeps).count datum =
        if keeps datum ∧ datum.type? = some type then data.count datum else 0 := by
      unfold byType
      rw [List.filter_filter]
      split
      · rename_i chosen
        rw [List.count_filter (by simp [chosen])]
      · rename_i left
        rw [List.count_eq_zero]
        intro member
        have chosen := (List.mem_filter.mp member).2
        simp only [Bool.and_eq_true, decide_eq_true_eq] at chosen
        exact left chosen
    rw [one]
    cases filed : datum.type? with
    | none => simp
    | some own =>
      -- A listed type counts once more when it is the datum's own.
      by_cases kept : keeps datum = true
      · by_cases same : own = type
        · subst same
          simp only [kept, and_self, if_true, Option.elim_some, share, List.count_cons_self,
            Nat.add_mul, Nat.one_mul, Nat.add_comm]
        · have other : type ≠ own := fun equal => same equal.symm
          simp [kept, same, share, List.count_cons_of_ne other]
      · simp [kept, share]

/-- The calls by type hand over the data that the status keeps. -/
theorem flatMap_handleByType (types : List HandledType) (data : List BlockDatum)
    (status : ByTxStatus) : (handleByType types data status).flatMap Call.docs =
      (types.flatMap (byType data)).filter status.keeps := by
  induction types with
  | nil => rfl
  | cons type rest ih =>
    rw [List.flatMap_cons, List.filter_append, ← ih]
    unfold handleByType
    rw [List.filterMap_cons]
    by_cases some : (byType data type).length > 0
    · simp [some]
    · -- A type without data is not called, and there is nothing to hand over.
      have none : byType data type = [] := List.eq_nil_of_length_eq_zero (by omega)
      simp [none]

/-- The handlers that are called are those of the listed types, each at most once. -/
theorem recipients_handleByType (types : List HandledType) (data : List BlockDatum)
    (status : ByTxStatus) : ((handleByType types data status).map Call.recipient).Sublist
      (types.map .handler) := by
  induction types with
  | nil => exact List.Sublist.refl _
  | cons type rest ih =>
    unfold handleByType
    rw [List.filterMap_cons, List.map_cons]
    by_cases some : (byType data type).length > 0
    · simp only [some, if_true, List.map_cons]
      exact ih.cons_cons _
    · simp only [some, if_false]
      exact ih.cons _

end

variable {moduleAccounts : List String} {messages : List BlockMsg} {events : List BlockEvent}

/-- All data that are handed over, and how often each type of them is. -/
theorem count_indexingHandler (data : List BlockDatum) (datum : BlockDatum) :
    ((indexParams data ++ indexStake data ++ indexRelays data ++ indexBalances data ++
      indexGrants data ++ indexService data ++ indexValidators data ++
        indexMigrationAccounts data).flatMap Call.docs).count datum =
      if datum.type?.any (handledWith datum.succeeded) then data.count datum else 0 := by
  have plain : ∀ types : List HandledType, (types.flatMap (byType data)).count datum =
      (datum.type?.elim 0 fun type => share types type true) * data.count datum := by
    intro types
    have all := @count_byType data datum types fun _ => true
    rwa [List.filter_eq_self.mpr fun _ _ => rfl] at all
  have single : ∀ type, (byType data type).count datum =
      (datum.type?.elim 0 fun own => share [type] own true) * data.count datum := by
    intro type
    have one := plain [type]
    rwa [List.flatMap_singleton] at one
  -- Every function hands over shares of the data, by the types it lists.
  have called : ∀ types status, ((handleByType types data status).flatMap Call.docs).count datum =
      (datum.type?.elim 0 fun type => share types type (status.keeps datum)) *
        data.count datum := fun types status => by rw [flatMap_handleByType, count_byType]
  have stakes : ∀ types, (successfulByType types data).count datum =
      (datum.type?.elim 0 fun type => share types type datum.succeeded) * data.count datum :=
    fun types => count_byType types _
  simp only [indexParams, indexStake, indexRelays, indexBalances, indexGrants, indexService,
    indexValidators, indexMigrationAccounts, List.flatMap_append, List.flatMap_cons,
    List.flatMap_nil, List.append_nil, called, stakes, List.count_append, single, ByTxStatus.keeps]
  cases datum.type? with
  | none =>
    -- A datum whose type has no handler is in no share.
    simp
  | some type =>
    simp only [Option.elim_some, Option.any_some, ← Nat.add_mul]
    -- Every type is listed once in all, with the status its data are handled by.
    generalize datum.succeeded = succeeded
    have listed : ∀ factor : ℕ, factor = (if handledWith succeeded type then 1 else 0) →
        factor * data.count datum = if handledWith succeeded type then data.count datum else 0 := by
      rintro factor rfl
      split <;> simp
    apply listed
    cases type with
    | msg type => cases type <;> cases succeeded <;> rfl
    | event type => cases type <;> cases succeeded <;> rfl

/-- A handler is handed data of its own type only. -/
theorem handleByType_fits {types : List HandledType} {data : List BlockDatum} {status : ByTxStatus}
    {call : Call} (called : call ∈ handleByType types data status) : call.Fits := by
  obtain ⟨type, -, made⟩ := List.mem_filterMap.mp called
  dsimp only at made
  split at made
  · cases made
    refine ⟨fun datum member => ?_, fun _ => rfl⟩
    have filed := (List.mem_filter.mp (List.mem_filter.mp member).1).2
    exact ⟨type, List.mem_singleton_self _, of_decide_eq_true filed⟩
  · cases made

/-- The data of some types are of these types. -/
theorem type_of_mem_flatMap {types : List HandledType} {data : List BlockDatum} {datum : BlockDatum}
    (member : datum ∈ types.flatMap (byType data)) : ∃ type ∈ types, datum.type? = some type := by
  obtain ⟨type, listed, inside⟩ := List.mem_flatMap.mp member
  exact ⟨type, listed, of_decide_eq_true (List.mem_filter.mp inside).2⟩

/-- Every recipient of a block is called at most once, with data of its own types. -/
theorem indexingHandler_recipients :
    ((indexingHandler moduleAccounts messages events).map Call.recipient).Nodup ∧
      ∀ call ∈ indexingHandler moduleAccounts messages events, call.Fits := by
  unfold indexingHandler
  dsimp only
  generalize messages.map BlockDatum.msg ++
    (events.filter (isValidEvent moduleAccounts)).map BlockDatum.event = data
  refine ⟨?_, ?_⟩
  · -- Those that are called are some of all, in the same order.
    have distinct : recipients.Nodup := by decide
    have called := fun types status => recipients_handleByType types data status
    refine List.Nodup.sublist ?_ distinct
    simp only [List.map_append, indexParams, indexStake, indexRelays, indexBalances, indexGrants,
      indexService, indexValidators, indexMigrationAccounts, List.map_cons, List.map_nil]
    exact (((((((called _ _).append (List.Sublist.refl _)).append
      (((called _ _).append (called _ _)).append (List.Sublist.refl _))).append
        ((called _ _).cons_cons _)).append ((called _ _).append (called _ _))).append
          ((called _ _).append (called _ _))).append ((called _ _).append (called _ _))).append
            (called _ _)
  · intro call member
    simp only [indexParams, indexStake, indexRelays, indexBalances, indexGrants, indexService,
      indexValidators, indexMigrationAccounts, List.mem_append, List.mem_cons, List.not_mem_nil,
      or_false] at member
    -- The three stake functions list the types of their recipients.
    have stake : ∀ recipient types, recipient.types = types →
        call = { recipient, docs := successfulByType types data } → call.Fits := by
      rintro recipient types rfl rfl
      refine ⟨fun datum inside => ?_, fun _ => rfl⟩
      exact type_of_mem_flatMap (List.mem_filter.mp inside).1
    rcases member with ((((((called | stakes) | (called | called) | same) | (same | called)) |
      (called | called)) | (called | called)) | (called | called)) | called
    · exact handleByType_fits called
    · rcases stakes with same | same | same
      · exact stake _ _ rfl same
      · exact stake _ _ rfl same
      · exact stake _ _ rfl same
    · exact handleByType_fits called
    · exact handleByType_fits called
    · -- Settled claims are handed over on their own, beside those that are looked up.
      subst same
      refine ⟨fun datum inside => ?_, fun other => absurd rfl other⟩
      exact ⟨_, List.mem_singleton_self _, of_decide_eq_true (List.mem_filter.mp inside).2⟩
    · subst same
      refine ⟨fun datum inside => ?_, fun _ => rfl⟩
      exact @type_of_mem_flatMap [.event .coinReceived, .event .coinSpent] data datum (by
        simpa using inside)
    · exact handleByType_fits called
    · exact handleByType_fits called
    · exact handleByType_fits called
    · exact handleByType_fits called
    · exact handleByType_fits called
    · exact handleByType_fits called
    · exact handleByType_fits called
    · exact handleByType_fits called

end Pocketdex.IndexingHandler
