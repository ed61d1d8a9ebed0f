import Pocketdex.Authz.Grants

/-! When every grant is stored with the event that its own message emitted. -/

namespace Pocketdex.Authz

/-- A message that grants, with the event it emitted and what that says. -/
structure OwnGrant where
  msg : GrantMessage
  event : BlockEvent
  emitted : isGrantOf msg.tx event = true
  msgType : String
  tells : grantedType event = .ok msgType
  type : String
  authorizes : msg.decodedMsg.grant.authorization = some type

/-- Who grants what to whom. -/
def OwnGrant.subject (grant : OwnGrant) : String × String × String :=
  (grant.msg.decodedMsg.granter, grant.msgType, grant.msg.decodedMsg.grantee)

/-- A block with its grants. Its events have different ids, addresses are free of separators, and
types of messages start with a slash. -/
structure GrantBlock (kindText : CosmosEventKind → String) where
  events : List BlockEvent
  grants : List OwnGrant
  emitted : ∀ grant ∈ grants, grant.event ∈ events
  eventIds : (events.map (getEventId kindText)).Nodup
  granters : ∀ grant ∈ grants, ':' ∉ grant.msg.decodedMsg.granter.toList
  grantees : ∀ grant ∈ grants, '-' ∉ grant.msg.decodedMsg.grantee.toList
  types : ∀ grant ∈ grants, ∃ rest, grant.msgType.toList = '/' :: rest

/-- The row of a grant: its parties, authorization and expiration are those of the message, and its
type of message, id and event those of the event that the message emitted. -/
def OwnGrant.row (kindText : CosmosEventKind → String) (grant : OwnGrant) : AuthzProps where
  id := getAuthzId grant.msg.decodedMsg.granter grant.msgType grant.msg.decodedMsg.grantee
  type := grant.type
  msg := grant.msgType
  blockId := getBlockId grant.msg.height
  granterId := grant.msg.decodedMsg.granter
  granteeId := grant.msg.decodedMsg.grantee
  eventId := getEventId kindText grant.event
  expiration := grant.msg.decodedMsg.grant.expiration.map Timestamp.milliseconds

/-- Every grant of a block has its own row, and is stored with it unless a later grant of the block
is about the same. -/
structure GrantsAttributed {kindText : CosmosEventKind → String} (block : GrantBlock kindText) :
    Prop where
  rows : ∀ grant ∈ block.grants,
    _handleMsgGrant kindText block.events grant.msg = .ok (grant.row kindText)
  kept : ∀ authz, ∃ after,
    handleMsgGrant kindText block.events (block.grants.map OwnGrant.msg) authz = .ok after ∧
      ∀ earlier grant later, block.grants = earlier ++ grant :: later →
        (∀ other ∈ later, other.subject ≠ grant.subject) →
          after.get (grant.row kindText).id = some (grant.row kindText)

/-- No event of a grant by a message precedes the own event of a grant of its transaction. -/
def OwnEventsFirst {kindText : CosmosEventKind → String} (block : GrantBlock kindText) : Prop :=
  ∀ grant ∈ block.grants, ∀ before after, block.events = before ++ grant.event :: after →
    ∀ event ∈ before, isGrantOf grant.msg.tx event = false

/-- The characters of a grant's id. -/
theorem getAuthzId_toList (granter msg grantee : String) :
    (getAuthzId granter msg grantee).toList =
      granter.toList ++ ':' :: (msg.toList.erase '/' ++ '-' :: grantee.toList) := by
  simp [getAuthzId, withoutSlash, toString]

/-- Ids of grants tell who grants what to whom. -/
theorem getAuthzId_inj {granter otherGranter msg otherMsg grantee otherGrantee : String}
    (granters : ':' ∉ granter.toList) (otherGranters : ':' ∉ otherGranter.toList)
    (grantees : '-' ∉ grantee.toList) (otherGrantees : '-' ∉ otherGrantee.toList)
    (slashed : ∃ rest, msg.toList = '/' :: rest) (alsoSlashed : ∃ rest, otherMsg.toList = '/' :: rest)
    (same : getAuthzId granter msg grantee = getAuthzId otherGranter otherMsg otherGrantee) :
    granter = otherGranter ∧ msg = otherMsg ∧ grantee = otherGrantee := by
  -- The granter ends at the first colon, and the grantee starts after the last dash.
  have listed := congrArg String.toList same
  rw [getAuthzId_toList, getAuthzId_toList] at listed
  obtain ⟨first, rest⟩ := first_joined_inj granters otherGranters listed
  obtain ⟨types, last⟩ := joined_inj grantees otherGrantees rest
  obtain ⟨path, spelled⟩ := slashed
  obtain ⟨otherPath, otherSpelled⟩ := alsoSlashed
  rw [spelled, otherSpelled, List.erase_cons_head, List.erase_cons_head] at types
  refine ⟨String.toList_inj.mp first, String.toList_inj.mp ?_, String.toList_inj.mp last⟩
  rw [spelled, otherSpelled, types]

section

variable {kindText : CosmosEventKind → String} {block : GrantBlock kindText}

/-- A grant has its own row just when its own event is the first one of its transaction. -/
theorem handleMsgGrant_row_iff {grant : OwnGrant} (member : grant ∈ block.grants) :
    _handleMsgGrant kindText block.events grant.msg = .ok (grant.row kindText) ↔
      block.events.find? (isGrantOf grant.msg.tx) = some grant.event := by
  unfold _handleMsgGrant grantEvent
  constructor
  · intro ran
    obtain ⟨event, found, ran⟩ := exceptBind_ok ran
    obtain ⟨msgType, told, ran⟩ := exceptBind_ok ran
    obtain ⟨type, authorized, ran⟩ := exceptBind_ok ran
    cases first : block.events.find? (isGrantOf grant.msg.tx) with
    | none => rw [first] at found; cases found
    | some other =>
      rw [first] at found
      cases found
      -- The row names the event by its id, which no other event of the block has.
      have ids : getEventId kindText event = getEventId kindText grant.event :=
        congrArg AuthzProps.eventId (Except.ok.inj ran)
      exact congrArg some (List.inj_on_of_nodup_map block.eventIds
        (List.mem_of_find?_eq_some first) (block.emitted grant member) ids)
  · intro first
    rw [first]
    simp only [grant.tells, authorizationType, grant.authorizes, bind, Except.bind, pure,
      Except.pure, OwnGrant.row]

/-- The own event of a grant is the first one of its transaction just when none precedes it. -/
theorem find_own_iff {grant : OwnGrant} (member : grant ∈ block.grants) :
    block.events.find? (isGrantOf grant.msg.tx) = some grant.event ↔
      ∀ before after, block.events = before ++ grant.event :: after →
        ∀ event ∈ before, isGrantOf grant.msg.tx event = false := by
  constructor
  · intro first before after split event inside
    by_contra granted
    -- Then the first event is one of those before, where the own event does not stand again.
    obtain ⟨found, located⟩ := Option.isSome_iff_exists.mp (List.find?_isSome.mpr
      ⟨event, inside, by simpa using granted⟩)
    rw [split, List.find?_append, located, Option.some_or, Option.some.injEq] at first
    have twice := block.eventIds.of_map
    rw [split, ← first] at twice
    exact (List.nodup_append.mp twice).2.2 found (List.mem_of_find?_eq_some located) found
      List.mem_cons_self rfl
  · intro first
    obtain ⟨before, after, split⟩ := List.append_of_mem (block.emitted grant member)
    refine List.find?_eq_some_iff_append.mpr ⟨grant.emitted, before, after, split, ?_⟩
    intro event inside
    simp [first before after split event inside]

/-- Different grants have different ids. -/
theorem row_id_inj {first second : OwnGrant} (one : first ∈ block.grants)
    (other : second ∈ block.grants)
    (same : (first.row kindText).id = (second.row kindText).id) : first.subject = second.subject := by
  obtain ⟨granter, msg, grantee⟩ := getAuthzId_inj (block.granters first one)
    (block.granters second other) (block.grantees first one) (block.grantees second other)
    (block.types first one) (block.types second other) same
  exact Prod.ext granter (Prod.ext msg grantee)

/-- Grants with their own rows are stored, the last one of each subject. -/
theorem handleMsgGrant_kept (rows : ∀ grant ∈ block.grants,
    _handleMsgGrant kindText block.events grant.msg = .ok (grant.row kindText))
    (authz : Dict String AuthzProps) : ∃ after,
    handleMsgGrant kindText block.events (block.grants.map OwnGrant.msg) authz = .ok after ∧
      ∀ earlier grant later, block.grants = earlier ++ grant :: later →
        (∀ other ∈ later, other.subject ≠ grant.subject) →
          after.get (grant.row kindText).id = some (grant.row kindText) := by
  have all : (block.grants.map OwnGrant.msg).mapM (_handleMsgGrant kindText block.events) =
      .ok (block.grants.map fun grant => grant.row kindText) := by
    generalize block.grants = grants at rows
    induction grants with
    | nil => rfl
    | cons grant rest ih =>
      rw [List.map_cons, List.mapM_cons, rows grant List.mem_cons_self,
        ih fun other member => rows other (List.mem_cons_of_mem _ member)]
      rfl
  refine ⟨Dict.storeAll AuthzProps.id (block.grants.map fun grant => grant.row kindText) authz,
    by rw [handleMsgGrant, all]; rfl, fun earlier grant later split last => ?_⟩
  rw [Dict.get_storeAll, split, List.map_append, List.map_cons, List.reverse_append,
    List.reverse_cons, List.append_assoc, List.find?_append]
  -- No later row has the id of the grant.
  have missing : ((later.map fun grant => grant.row kindText).reverse.find? fun value =>
      value.id = (grant.row kindText).id) = none := by
    refine List.find?_eq_none.mpr fun row member => ?_
    obtain ⟨other, inside, rfl⟩ := List.mem_map.mp (List.mem_reverse.mp member)
    intro same
    have one : other ∈ block.grants := by simp [split, inside]
    have also : grant ∈ block.grants := by simp [split]
    exact last other inside (row_id_inj one also (of_decide_eq_true same))
  rw [missing]
  simp

end

/-- A transaction that grants twice. -/
def grantTx : CosmosTransaction := ⟨0, "A1", 0, []⟩

/-- The event of a grant of a type of message. -/
def emittedGrant (idx : ℕ) (msgType : String) : BlockEvent where
  idx := idx
  height := 7
  kind := .message
  type := "cosmos.authz.v1beta1.EventGrant"
  attributes := [⟨"granter", "\"pokt1a\""⟩, ⟨"grantee", "\"pokt1b\""⟩, ⟨"msg_type_url", msgType⟩]
  tx := some grantTx

/-- A grant of a generic authorization. -/
def grantMessage (idx : ℕ) : GrantMessage where
  idx := idx
  height := 7
  tx := grantTx
  decodedMsg := ⟨"pokt1a", "pokt1b", ⟨some "/cosmos.authz.v1beta1.GenericAuthorization", none⟩⟩

/-- Both grants with their own events. -/
def twoGrants : GrantBlock (fun _ => "message") where
  events := [emittedGrant 3 "/cosmos.bank.v1beta1.MsgSend",
    emittedGrant 5 "/cosmos.gov.v1.MsgVote"]
  grants := [
    { msg := grantMessage 0, event := emittedGrant 3 "/cosmos.bank.v1beta1.MsgSend"
      emitted := by decide, msgType := "/cosmos.bank.v1beta1.MsgSend"
      tells := ok_of_toOption (by decide +kernel)
      type := "/cosmos.authz.v1beta1.GenericAuthorization", authorizes := rfl },
    { msg := grantMessage 1, event := emittedGrant 5 "/cosmos.gov.v1.MsgVote"
      emitted := by decide, msgType := "/cosmos.gov.v1.MsgVote"
      tells := ok_of_toOption (by decide +kernel)
      type := "/cosmos.authz.v1beta1.GenericAuthorization", authorizes := rfl }]
  emitted := by simp
  eventIds := by decide +kernel
  granters := List.forall_mem_cons.mpr ⟨by decide, List.forall_mem_singleton.mpr (by decide)⟩
  grantees := List.forall_mem_cons.mpr ⟨by decide, List.forall_mem_singleton.mpr (by decide)⟩
  types := List.forall_mem_cons.mpr ⟨⟨"cosmos.bank.v1beta1.MsgSend".toList, by decide⟩,
    List.forall_mem_singleton.mpr ⟨"cosmos.gov.v1.MsgVote".toList, by decide⟩⟩

end Pocketdex.Authz
