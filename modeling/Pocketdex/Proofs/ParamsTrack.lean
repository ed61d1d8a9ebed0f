import Pocketdex.Pocket.Params
import Pocketdex.Base.Except
import Pocketdex.Utils.Ids

/-! The stored parameters follow those of the chain as long as updates write every field. -/

namespace Pocketdex

/-- A parameter of the chain, with the text of its value. -/
structure ChainParam where
  ns : String
  name : String
  text : String
  deriving DecidableEq, Repr

/-- A parameter is found by its module and its name. -/
def ChainParam.place (param : ChainParam) : String × String := (param.ns, param.name)

/-- The current parameters of the chain. -/
abbrev ChainParams := Store ChainParam.place

/-- The parameters of the genesis file. -/
def genesisParams (sections : String → List (String × Json)) : List ChainParam :=
  genesisNamespaces.flatMap fun ns => (sections ns).map fun (key, value) => ⟨ns, key, sanitize value⟩

/-- The parameters of a module's update: all fields of the module, those the code ignores too. -/
def PocketParams.known (params : PocketParams) : List ChainParam :=
  params.fields.map fun field => ⟨params.module, field.name, sanitize field.value.json⟩

/-- The parameters of fields that are lost when an update is decoded. -/
def PocketParams.unknown (params : PocketParams) : List ChainParam :=
  params.unknownFields.map fun field => ⟨params.module, field.1, sanitize field.2.json⟩

/-- The parameters an update message sets on the chain. -/
def UpdateMsg.params : UpdateMsg → List ChainParam
  | pocketParams _ params => params.known ++ params.unknown
  | pocketParam module _ name _ value => [⟨module.name, name, sanitize value⟩]
  | cosmosParams params => params.module.fields.map fun field =>
      ⟨params.module.name, field.1, sanitize (params.value field.1)⟩

/-- The chain after an update message. -/
def executeUpdate (chain : ChainParams) (message : UpdateMsg) : ChainParams :=
  chain.bulkCreate message.params

/-- A row shows a parameter of the chain. -/
structure Shows (param : ChainParam) (row : ParamProps) : Prop where
  id : row.id = getParamId param.ns param.name
  ns : row.ns = param.ns
  key : row.key = param.name
  value : row.value = param.text

/-- Each parameter of the chain has its row, and there are no other rows. -/
structure Tracks (chain : ChainParams) (store : Store ParamProps.id) : Prop where
  stored : ∀ param ∈ chain.records, ∃ row ∈ store.records, Shows param row
  sound : ∀ row ∈ store.records, ∃ param ∈ chain.records, Shows param row
  dashless : ∀ param ∈ chain.records, '-' ∉ param.ns.toList

/-- Ids of parameters of modules without dashes tell the module and the name. -/
theorem getParamId_inj {ns other key second : String} (dashless : '-' ∉ ns.toList)
    (otherDashless : '-' ∉ other.toList) (same : getParamId ns key = getParamId other second) :
    ns = other ∧ key = second :=
  -- A balance id is made of its two parts in the same way.
  getBalanceId_inj dashless otherDashless same

/-- A parameter that is set on the chain and saved as a row is tracked. -/
theorem Tracks.save {chain : ChainParams} {store : Store ParamProps.id} {param : ChainParam}
    {row : ParamProps} (tracks : Tracks chain store) (dashless : '-' ∉ param.ns.toList)
    (shows' : Shows param row) : Tracks (chain.save param) (store.save row) := by
  -- Other parameters have other ids, as no module has a dash in its name.
  have apart : ∀ {other : ChainParam} {second : ParamProps}, '-' ∉ other.ns.toList →
      Shows other second → (other.place = param.place ↔ second.id = row.id) := by
    intro other second plain shown
    rw [shown.id, shows'.id]
    constructor
    · intro same
      simp only [ChainParam.place, Prod.mk.injEq] at same
      rw [same.1, same.2]
    · intro same
      obtain ⟨modules, names⟩ := getParamId_inj plain dashless same
      exact Prod.ext modules names
  constructor
  · intro other member
    rcases Store.mem_records_save.mp member with rfl | ⟨before, different⟩
    · exact ⟨row, Store.mem_records_save.mpr (Or.inl rfl), shows'⟩
    · obtain ⟨second, inside, shown⟩ := tracks.stored other before
      have elsewhere := (apart (tracks.dashless other before) shown).not.mp different
      exact ⟨second, Store.mem_records_save.mpr (Or.inr ⟨inside, elsewhere⟩), shown⟩
  · intro second member
    rcases Store.mem_records_save.mp member with rfl | ⟨before, different⟩
    · exact ⟨param, Store.mem_records_save.mpr (Or.inl rfl), shows'⟩
    · obtain ⟨other, inside, shown⟩ := tracks.sound second before
      have elsewhere := (apart (tracks.dashless other inside) shown).not.mpr different
      exact ⟨other, Store.mem_records_save.mpr (Or.inr ⟨inside, elsewhere⟩), shown⟩
  · intro other member
    rcases Store.mem_records_save.mp member with rfl | ⟨before, _⟩
    · exact dashless
    · exact tracks.dashless other before

/-- Parameters that are set on the chain and saved as rows are tracked. -/
theorem Tracks.bulkCreate {params : List ChainParam} {rows : List ParamProps}
    (shown : List.Forall₂ Shows params rows) (dashless : ∀ param ∈ params, '-' ∉ param.ns.toList)
    {chain : ChainParams} {store : Store ParamProps.id} (tracks : Tracks chain store) :
    Tracks (chain.bulkCreate params) (store.bulkCreate rows) := by
  induction shown generalizing chain store with
  | nil => exact tracks
  | cons one _ ih =>
    rw [Store.bulkCreate_cons, Store.bulkCreate_cons]
    exact ih (fun param member => dashless param (List.mem_cons_of_mem _ member))
      (tracks.save (dashless _ List.mem_cons_self) one)

/-- Only what the chain holds under each place matters. -/
theorem Tracks.congr {chain other : ChainParams} {store : Store ParamProps.id}
    (tracks : Tracks chain store) (same : ∀ place, other.get place = chain.get place) :
    Tracks other store := by
  have members : ∀ param, param ∈ other.records ↔ param ∈ chain.records := fun param => by
    rw [Store.mem_records, Store.mem_records, same]
  constructor
  · exact fun param member => tracks.stored param ((members param).mp member)
  · intro row member
    obtain ⟨param, inside, shown⟩ := tracks.sound row member
    exact ⟨param, (members param).mpr inside, shown⟩
  · exact fun param member => tracks.dashless param ((members param).mp member)

/-- The row of a parameter shows it. -/
theorem paramRow_shows (ns : String) (blockId : ℕ) (key : String) (value : Json) :
    Shows ⟨ns, key, sanitize value⟩ (paramRow ns blockId key value) := ⟨rfl, rfl, rfl, rfl⟩

/-- Rows that are made item by item show the parameters made of the same items. -/
theorem forall₂_shows {α : Type} {items : List α} {param : α → ChainParam} {row : α → ParamProps}
    (each : ∀ item ∈ items, Shows (param item) (row item)) :
    List.Forall₂ Shows (items.map param) (items.map row) := by
  induction items with
  | nil => exact List.Forall₂.nil
  | cons item rest ih =>
    exact List.Forall₂.cons (each item List.mem_cons_self)
      (ih fun other member => each other (List.mem_cons_of_mem _ member))

/-- The genesis rows show the genesis parameters. -/
theorem genesis_tracks (sections : String → List (String × Json)) (blockId : ℕ) :
    Tracks (Store.empty.bulkCreate (genesisParams sections))
      (_handleGenesisParams sections blockId Store.empty) := by
  have none : Tracks Store.empty Store.empty :=
    ⟨by simp [Store.mem_records], by simp [Store.mem_records], by simp [Store.mem_records]⟩
  refine none.bulkCreate ?_ ?_
  · -- Both lists go through the same sections.
    unfold genesisParams
    induction genesisNamespaces with
    | nil => exact List.Forall₂.nil
    | cons ns rest ih =>
      rw [List.flatMap_cons, List.flatMap_cons]
      exact List.rel_append (forall₂_shows fun entry _ => paramRow_shows ns blockId entry.1 entry.2)
        ih
  · intro param member
    obtain ⟨ns, listed, inside⟩ := List.mem_flatMap.mp member
    obtain ⟨entry, _, rfl⟩ := List.mem_map.mp inside
    have plain : ∀ ns ∈ genesisNamespaces, '-' ∉ ns.toList := by decide +kernel
    exact plain ns listed

/-- The names of the modules with update messages. -/
def moduleNames : List String := genesisNamespaces ++ ["migration"]

theorem PocketParams.module_mem (params : PocketParams) : params.module ∈ moduleNames := by
  cases params <;> simp [PocketParams.module, moduleNames, genesisNamespaces]

theorem ParamModule.name_mem (module : ParamModule) : module.name ∈ moduleNames := by
  cases module <;> simp [ParamModule.name, moduleNames, genesisNamespaces]

theorem CosmosModule.name_mem (module : CosmosModule) : module.name ∈ moduleNames := by
  cases module <;> simp [CosmosModule.name, moduleNames, genesisNamespaces]

/-- No module has a dash or a dot in its name. -/
theorem moduleNames_plain : ∀ name ∈ moduleNames, '-' ∉ name.toList ∧ '.' ∉ name.toList := by
  simp only [moduleNames, genesisNamespaces, List.cons_append, List.nil_append,
    List.forall_mem_cons, List.not_mem_nil, false_implies, implies_true, and_true]
  repeat' apply And.intro
  all_goals exact not_mem_of_chars rfl (by decide)

/-- No module has a dash in its name. -/
theorem moduleNames_dashless : ∀ name ∈ moduleNames, '-' ∉ name.toList :=
  fun name member => (moduleNames_plain name member).1

/-- A name between the first two dots of a text is its namespace. -/
theorem namespaceOf_joined {front name back : String} (before : List Char) {after : List Char}
    (fronted : front.toList = before ++ ['.']) (plain : '.' ∉ before) (dotless : '.' ∉ name.toList)
    (backed : back.toList = '.' :: after) : namespaceOf (front ++ name ++ back) = name := by
  have stops : ∀ {chars : List Char}, '.' ∉ chars → ∀ char ∈ chars, decide (char ≠ '.') = true := by
    intro chars absent char member
    refine decide_eq_true ?_
    rintro rfl
    exact absent member
  unfold namespaceOf
  rw [String.toList_append, String.toList_append, fronted, backed, List.append_assoc,
    List.append_assoc, List.dropWhile_append_of_pos (stops plain), List.singleton_append,
    List.dropWhile_cons_of_neg (by simp), List.drop_one, List.tail_cons,
    List.takeWhile_append_of_pos (stops dotless), List.takeWhile_cons_of_neg (by simp),
    List.append_nil, String.ofList_toList]

/-- The type URLs of updates of all parameters name the module. -/
theorem namespaceOf_pocketParams (params : PocketParams) :
    namespaceOf ("/pocket." ++ params.module ++ ".MsgUpdateParams") = params.module :=
  namespaceOf_joined ['/', 'p', 'o', 'c', 'k', 'e', 't'] String.toList_ofList (by decide)
    (moduleNames_plain _ params.module_mem).2 String.toList_ofList

/-- So do those of updates of single parameters. -/
theorem namespaceOf_pocketParam (module : ParamModule) :
    namespaceOf ("/pocket." ++ module.name ++ ".MsgUpdateParam") = module.name :=
  namespaceOf_joined ['/', 'p', 'o', 'c', 'k', 'e', 't'] String.toList_ofList (by decide)
    (moduleNames_plain _ module.name_mem).2 String.toList_ofList

/-- Their type URLs do not end in the plural. -/
theorem pocketParam_singular (module : ParamModule) :
    "MsgUpdateParams".toList.isSuffixOf ("/pocket." ++ module.name ++ ".MsgUpdateParam").toList =
      false := by
  rw [Bool.eq_false_iff, ne_eq, List.isSuffixOf_iff_suffix]
  rintro ⟨front, same⟩
  -- The plural ends in another letter.
  have last := congrArg List.getLast? same
  rw [String.toList_append, (String.toList_ofList : "MsgUpdateParams".toList = _),
    (String.toList_ofList : ".MsgUpdateParam".toList = _), List.getLast?_append,
    List.getLast?_append] at last
  simp at last

/-- And those of the modules of the framework. -/
theorem namespaceOf_cosmosParams (module : CosmosModule) :
    namespaceOf ("/cosmos." ++ module.name ++ "." ++ module.version ++ ".MsgUpdateParams") =
      module.name := by
  have backed : ("." ++ (module.version ++ ".MsgUpdateParams")).toList =
      '.' :: (module.version ++ ".MsgUpdateParams").toList := by
    rw [String.toList_append]
    exact congrArg (· ++ _) String.toList_ofList
  rw [String.append_assoc, String.append_assoc]
  exact namespaceOf_joined ['/', 'c', 'o', 's', 'm', 'o', 's'] String.toList_ofList (by decide)
    (moduleNames_plain _ module.name_mem).2 backed

/-- The names of generated fields are turned back into those of the chain. -/
theorem PocketParams.snakeCase_jsonName (params : PocketParams) :
    ∀ field ∈ params.fields, snakeCase field.jsonName = field.name := by
  cases params <;>
    simp only [PocketParams.fields, ApplicationParams.fields, ServiceParams.fields,
      SupplierParams.fields, GatewayParams.fields, ProofParams.fields, SharedParams.fields,
      TokenomicsParams.fields, SessionParams.fields, MigrationParams.fields,
      List.forall_mem_cons, List.not_mem_nil, false_implies, implies_true, and_true] <;>
    repeat' apply And.intro
  all_goals exact snakeCase_of_chars rfl rfl rfl

/-- Names of the chain are written the same way already. -/
theorem PocketParams.snakeCase_name (params : PocketParams) :
    ∀ name ∈ params.fields.map MessageField.name ++ params.unknownFields.map Prod.fst,
      snakeCase name = name := by
  cases params <;>
    simp only [PocketParams.fields, PocketParams.unknownFields, ApplicationParams.fields,
      ServiceParams.fields, SupplierParams.fields, GatewayParams.fields, ProofParams.fields,
      SharedParams.fields, SharedParams.unknownFields, TokenomicsParams.fields,
      SessionParams.fields, MigrationParams.fields, List.map_cons, List.map_nil, List.cons_append,
      List.nil_append, List.forall_mem_cons, List.not_mem_nil, false_implies, implies_true,
      and_true] <;>
    repeat' apply And.intro
  all_goals exact snakeCase_of_chars rfl rfl rfl

/-- No module has two fields of one name. -/
theorem PocketParams.names_nodup (params : PocketParams) :
    (params.fields.map MessageField.name ++ params.unknownFields.map Prod.fst).Nodup := by
  cases params <;>
    simp [PocketParams.fields, PocketParams.unknownFields, ApplicationParams.fields,
      ServiceParams.fields, SupplierParams.fields, GatewayParams.fields, ProofParams.fields,
      SharedParams.fields, SharedParams.unknownFields, TokenomicsParams.fields,
      SessionParams.fields, MigrationParams.fields]

/-- The fields of the framework's modules, but for those with digits, are turned back as well. -/
theorem CosmosModule.snakeCase_fields {module : CosmosModule} (digitless : module ≠ .auth) :
    ∀ field ∈ module.fields, snakeCase field.2 = field.1 := by
  cases module with
  | auth => exact absurd rfl digitless
  | _ =>
    simp only [CosmosModule.fields, List.forall_mem_cons, List.not_mem_nil, false_implies,
      implies_true, and_true]
    repeat' apply And.intro
    all_goals exact snakeCase_of_chars rfl rfl rfl

/-- What the codecs of the framework do: an update lists all fields under their generated names. -/
def WritesFields (cosmosJSON : CosmosParams → List (String × Json)) : Prop :=
  ∀ params : CosmosParams, params.module ≠ .consensus →
    Json.field (cosmosJSON params) "params" =
      some (.object (params.module.fields.map fun field => (field.2, params.value field.1)))

/-- The chain executes an update of a single parameter only if its module has that parameter. -/
def UpdateMsg.Executed : UpdateMsg → Prop
  | pocketParam module _ name _ _ => ∃ params : PocketParams, params.module = module.name ∧
      name ∈ params.fields.map MessageField.name ++ params.unknownFields.map Prod.fst
  | _ => True

/-- An update writes every field whose value it changes. -/
def UpdateMsg.WritesChanges (chain : ChainParams) : UpdateMsg → Prop
  | pocketParams _ params =>
    (∀ field ∈ params.fields, field.value.isDefault = true →
      ⟨params.module, field.name, sanitize field.value.json⟩ ∈ chain.records) ∧
      ∀ param ∈ params.unknown, param ∈ chain.records
  | pocketParam _ _ _ _ _ => True
  | cosmosParams params => params.module ≠ .auth ∧ params.module ≠ .consensus

/-- A type URL that ends in the plural. -/
theorem typeUrl_plural {first : String} (start : List Char)
    (listed : first.toList = start ++ ".MsgUpdateParams".toList) :
    "MsgUpdateParams".toList.isSuffixOf first.toList = true := by
  have plural : ".MsgUpdateParams".toList = '.' :: "MsgUpdateParams".toList := by
    rw [(String.toList_ofList : "MsgUpdateParams".toList = _)]
    exact String.toList_ofList
  rw [List.isSuffixOf_iff_suffix, listed, plural]
  exact ⟨start ++ ['.'], by simp⟩

/-- The params field of an encoded update message. -/
theorem field_params (authority : String) (fields : List (String × Json)) :
    Json.field (textField "authority" authority ++ [("params", .object fields)]) "params" =
      some (.object fields) := by
  simp [Json.field]

/-- The rows of an update of all parameters of a module. -/
theorem _handleUpdateParam_pocketParams (cosmosJSON : CosmosParams → List (String × Json))
    (blockId : ℕ) (authority : String) (params : PocketParams) :
    _handleUpdateParam (UpdateMsg.pocketParams authority params).typeUrl
      ((UpdateMsg.pocketParams authority params).toJSON cosmosJSON) blockId =
      .ok ((params.fields.filter fun field => !field.value.isDefault).map fun field =>
        paramRow params.module blockId field.name field.value.json) := by
  have plural : "MsgUpdateParams".toList.isSuffixOf
      (UpdateMsg.pocketParams authority params).typeUrl.toList = true :=
    typeUrl_plural ("/pocket." ++ params.module).toList (String.toList_append ..)
  have ns : namespaceOf (UpdateMsg.pocketParams authority params).typeUrl = params.module :=
    namespaceOf_pocketParams params
  unfold _handleUpdateParam
  simp only [plural, if_true, ns, UpdateMsg.toJSON, field_params, encodeFields, List.map_map,
    Except.ok.injEq]
  -- The generated names are turned back into those of the chain.
  apply List.map_congr_left
  intro field member
  have back := params.snakeCase_jsonName field (List.mem_filter.mp member).1
  simp only [Function.comp, back]

/-- A text field whose name is not that of a type is passed over. -/
theorem filter_textField {name : String} (other : "as".toList.isPrefixOf name.toList = false)
    (text : String) :
    ((textField name text).filter fun entry => "as".toList.isPrefixOf entry.1.toList) = [] := by
  refine List.filter_eq_nil_iff.mpr fun entry member => ?_
  obtain ⟨field, listed, rfl⟩ := List.mem_map.mp member
  rw [List.mem_singleton.mp (List.mem_filter.mp listed).1, other]
  exact Bool.false_ne_true

/-- The name of the updated parameter is read from its own field. -/
theorem updatedName_eq (authority name : String) (asType : AsType) (value : Json) :
    updatedName (textField "authority" authority ++ textField "name" name ++
      [(asType.jsonName, value)]) = snakeCase name := by
  have notTypeName : asType.jsonName ≠ "name" := by cases asType <;> decide
  have empty : snakeCase "" = "" := snakeCase_of_chars rfl rfl rfl
  -- An empty name is left out, and is read as an empty name again.
  by_cases unnamed : name = ""
  · by_cases unsigned : authority = "" <;>
      simp [updatedName, Json.field, textField, encodeFields, FieldValue.isDefault,
        FieldValue.json, unnamed, unsigned, notTypeName, empty]
  · simp [updatedName, Json.field, textField, encodeFields, FieldValue.isDefault,
      FieldValue.json, unnamed, notTypeName]

/-- The row of an update of a single parameter. -/
theorem _handleUpdateParam_pocketParam (cosmosJSON : CosmosParams → List (String × Json))
    (blockId : ℕ) (module : ParamModule) (authority name : String) (asType : AsType)
    (value : Json) :
    _handleUpdateParam (UpdateMsg.pocketParam module authority name asType value).typeUrl
      ((UpdateMsg.pocketParam module authority name asType value).toJSON cosmosJSON) blockId =
      .ok [paramRow module.name blockId (snakeCase name) value] := by
  have singular : "MsgUpdateParams".toList.isSuffixOf
      (UpdateMsg.pocketParam module authority name asType value).typeUrl.toList = false :=
    pocketParam_singular module
  have ns : namespaceOf (UpdateMsg.pocketParam module authority name asType value).typeUrl =
      module.name := namespaceOf_pocketParam module
  -- Only the key of the value starts like one.
  have isType : "as".toList.isPrefixOf asType.jsonName.toList = true := by
    cases asType <;> decide
  have typed : ((textField "authority" authority ++ textField "name" name ++
      [(asType.jsonName, value)]).filter fun entry => "as".toList.isPrefixOf entry.1.toList) =
      [(asType.jsonName, value)] := by
    rw [List.filter_append, List.filter_append, filter_textField (by decide),
      filter_textField (by decide), List.filter_cons, if_pos isType]
    rfl
  unfold _handleUpdateParam
  simp only [singular, ns, UpdateMsg.toJSON]
  rw [if_neg Bool.false_ne_true, updatedName_eq, typed]
  rfl

/-- The rows of an update of a module of the framework. -/
theorem _handleUpdateParam_cosmosParams {cosmosJSON : CosmosParams → List (String × Json)}
    (documented : WritesFields cosmosJSON) (blockId : ℕ) {params : CosmosParams}
    (digitless : params.module ≠ .auth) (wrapped : params.module ≠ .consensus) :
    _handleUpdateParam (UpdateMsg.cosmosParams params).typeUrl
      ((UpdateMsg.cosmosParams params).toJSON cosmosJSON) blockId =
      .ok (params.module.fields.map fun field =>
        paramRow params.module.name blockId field.1 (params.value field.1)) := by
  have plural : "MsgUpdateParams".toList.isSuffixOf
      (UpdateMsg.cosmosParams params).typeUrl.toList = true :=
    typeUrl_plural ("/cosmos." ++ params.module.name ++ "." ++ params.module.version).toList
      (String.toList_append ..)
  have ns : namespaceOf (UpdateMsg.cosmosParams params).typeUrl = params.module.name :=
    namespaceOf_cosmosParams params.module
  unfold _handleUpdateParam
  simp only [plural, if_true, ns, UpdateMsg.toJSON, documented params wrapped, List.map_map,
    Except.ok.injEq]
  apply List.map_congr_left
  intro field member
  simp only [Function.comp, CosmosModule.snakeCase_fields digitless field member]

/-- An update that writes its changes leaves the parameters tracked. -/
theorem executeUpdate_tracks {cosmosJSON : CosmosParams → List (String × Json)}
    (documented : WritesFields cosmosJSON) (blockId : ℕ) {chain : ChainParams}
    {store : Store ParamProps.id} {message : UpdateMsg} (executed : message.Executed)
    (writes : message.WritesChanges chain) (tracks : Tracks chain store) :
    ∃ rows, _handleUpdateParam message.typeUrl (message.toJSON cosmosJSON) blockId = .ok rows ∧
      Tracks (executeUpdate chain message) (store.bulkCreate rows) := by
  cases message with
  | pocketParams authority params =>
    refine ⟨_, _handleUpdateParam_pocketParams cosmosJSON blockId authority params, ?_⟩
    have dashless := moduleNames_dashless params.module params.module_mem
    let param : MessageField → ChainParam := fun field =>
      ⟨params.module, field.name, sanitize field.value.json⟩
    let kept := params.fields.filter fun field => !field.value.isDefault
    have wrote : Tracks (chain.bulkCreate (kept.map param)) (store.bulkCreate (kept.map fun field =>
        paramRow params.module blockId field.name field.value.json)) := by
      refine tracks.bulkCreate (forall₂_shows fun field _ => paramRow_shows _ blockId _ _) ?_
      intro param member
      obtain ⟨field, _, rfl⟩ := List.mem_map.mp member
      exact dashless
    -- The fields that are left out have the values they had.
    refine wrote.congr fun place => (Store.get_bulkCreate_sublist ?_ ?_ ?_ place).symm
    · have places : (params.known ++ params.unknown).map ChainParam.place =
          (params.fields.map MessageField.name ++ params.unknownFields.map Prod.fst).map
            (Prod.mk params.module) := by
        simp only [PocketParams.known, PocketParams.unknown, List.map_append, List.map_map]
        rfl
      show ((params.known ++ params.unknown).map ChainParam.place).Nodup
      rw [places]
      exact params.names_nodup.map fun _ _ same => (Prod.mk.inj same).2
    · exact (List.filter_sublist.map param).trans (List.sublist_append_left _ _)
    · intro param member absent
      rcases List.mem_append.mp member with known | unknown
      · obtain ⟨field, listed, rfl⟩ := List.mem_map.mp known
        refine Store.mem_records.mp (writes.1 field listed ?_)
        by_contra set
        exact absent (List.mem_map.mpr
          ⟨field, List.mem_filter.mpr ⟨listed, by simpa using set⟩, rfl⟩)
      · exact Store.mem_records.mp (writes.2 param unknown)
  -- One field is set, under the name the chain has for it.
  | pocketParam module authority name asType value =>
    refine ⟨_, _handleUpdateParam_pocketParam cosmosJSON blockId module authority name asType value,
      ?_⟩
    obtain ⟨params, _, known⟩ := executed
    rw [params.snakeCase_name name known]
    have dashless := moduleNames_dashless module.name module.name_mem
    exact tracks.save dashless (paramRow_shows module.name blockId name value)
  -- These modules write every field, so nothing is left out.
  | cosmosParams params =>
    obtain ⟨digitless, wrapped⟩ := writes
    refine ⟨_, _handleUpdateParam_cosmosParams documented blockId digitless wrapped, ?_⟩
    have dashless := moduleNames_dashless params.module.name params.module.name_mem
    refine tracks.bulkCreate (forall₂_shows fun field _ => paramRow_shows _ blockId field.1 _) ?_
    intro param member
    obtain ⟨field, _, rfl⟩ := List.mem_map.mp member
    exact dashless

/-- The chain after update messages. -/
def executeUpdates (chain : ChainParams) (messages : List UpdateMsg) : ChainParams :=
  messages.foldl executeUpdate chain

/-- Each of several updates writes its changes, in the state the earlier ones leave. -/
def AllWriteChanges (chain : ChainParams) : List UpdateMsg → Prop
  | [] => True
  | message :: rest =>
    message.WritesChanges chain ∧ AllWriteChanges (executeUpdate chain message) rest

/-- Updates before and after a point write their changes if all of them do. -/
theorem allWriteChanges_append {first second : List UpdateMsg} {chain : ChainParams} :
    AllWriteChanges chain (first ++ second) ↔
      AllWriteChanges chain first ∧ AllWriteChanges (executeUpdates chain first) second := by
  induction first generalizing chain with
  | nil => simp [AllWriteChanges, executeUpdates]
  | cons message rest ih =>
    simp only [List.cons_append, AllWriteChanges, ih, and_assoc]
    rfl

/-- A block of updates that write their changes leaves the parameters tracked. -/
theorem handleAuthzExec_tracks {cosmosJSON : CosmosParams → List (String × Json)}
    (documented : WritesFields cosmosJSON) (blockId : ℕ) {messages : List UpdateMsg}
    (executed : ∀ message ∈ messages, message.Executed) {chain : ChainParams}
    (writes : AllWriteChanges chain messages) {store : Store ParamProps.id}
    (tracks : Tracks chain store) :
    ∃ next, handleAuthzExec cosmosJSON blockId messages store = .ok next ∧
      Tracks (executeUpdates chain messages) next := by
  -- The rows of all messages are collected first, and saving them saves those of each in turn.
  have collected : ∃ rows, (messages.mapM fun message =>
      _handleUpdateParam message.typeUrl (message.toJSON cosmosJSON) blockId) = .ok rows ∧
        Tracks (executeUpdates chain messages) (store.bulkCreate rows.flatten) := by
    induction messages generalizing chain store with
    | nil => exact ⟨[], rfl, tracks⟩
    | cons message rest ih =>
      obtain ⟨rows, handled, next⟩ := executeUpdate_tracks documented blockId
        (executed message List.mem_cons_self) writes.1 tracks
      obtain ⟨more, others, final⟩ := ih
        (fun other member => executed other (List.mem_cons_of_mem _ member)) writes.2 next
      refine ⟨rows :: more, ?_, ?_⟩
      · rw [List.mapM_cons, handled, others]
        rfl
      · rw [List.flatten_cons, Store.bulkCreate_append]
        exact final
  obtain ⟨rows, handled, final⟩ := collected
  refine ⟨store.bulkCreate rows.flatten, ?_, final⟩
  rw [handleAuthzExec, handled]
  rfl

/-- The stored parameters after blocks of update messages, each with its height. -/
def indexUpdates (cosmosJSON : CosmosParams → List (String × Json))
    (blocks : List (ℕ × List UpdateMsg)) (store : Store ParamProps.id) :
    Except String (Store ParamProps.id) :=
  blocks.foldlM (fun store block => handleAuthzExec cosmosJSON block.1 block.2 store) store

/-- The update messages of blocks, in order. -/
def updatesOf (blocks : List (ℕ × List UpdateMsg)) : List UpdateMsg := blocks.flatMap Prod.snd

/-- Blocks of updates that write their changes leave the parameters tracked. -/
theorem indexUpdates_tracks {cosmosJSON : CosmosParams → List (String × Json)}
    (documented : WritesFields cosmosJSON) {blocks : List (ℕ × List UpdateMsg)}
    (executed : ∀ message ∈ updatesOf blocks, message.Executed) {chain : ChainParams}
    (writes : AllWriteChanges chain (updatesOf blocks)) {store : Store ParamProps.id}
    (tracks : Tracks chain store) :
    ∃ next, indexUpdates cosmosJSON blocks store = .ok next ∧
      Tracks (executeUpdates chain (updatesOf blocks)) next := by
  induction blocks generalizing chain store with
  | nil => exact ⟨store, rfl, tracks⟩
  | cons block rest ih =>
    obtain ⟨blockId, messages⟩ := block
    simp only [updatesOf, List.flatMap_cons] at executed writes ⊢
    obtain ⟨here, later⟩ := allWriteChanges_append.mp writes
    obtain ⟨next, handled, tracked⟩ := handleAuthzExec_tracks documented blockId
      (fun message member => executed message (List.mem_append_left _ member)) here tracks
    obtain ⟨final, others, last⟩ := ih
      (fun message member => executed message (List.mem_append_right _ member)) later tracked
    refine ⟨final, ?_, ?_⟩
    · rw [indexUpdates, List.foldlM_cons]
      show (handleAuthzExec cosmosJSON blockId messages store >>= _) = _
      rw [handled]
      exact others
    · rw [executeUpdates, List.foldl_append]
      exact last

/-- Codecs of the framework that list every field. -/
def plainCosmosJSON (params : CosmosParams) : List (String × Json) :=
  [("authority", .string params.authority), ("params",
    .object (params.module.fields.map fun field => (field.2, params.value field.1)))]

/-- They do as documented. -/
theorem plainCosmosJSON_writes : WritesFields plainCosmosJSON := by
  intro params _
  simp [plainCosmosJSON, Json.field]

/-- A genesis file with parameters of two modules. -/
def smallSections (ns : String) : List (String × Json) :=
  if ns = "session" then [("num_suppliers_per_session", .string "15")]
  else if ns = "tokenomics" then
    [("dao_reward_address", .string "pokt1dao"), ("mint_ratio", .number "0.975")]
  else []

/-- One block updates a module, and the next one sets a single parameter to zero. -/
def smallUpdates : List (ℕ × List UpdateMsg) :=
  [(2, [.pocketParams "pokt1gov" (.session ⟨"20"⟩)]),
    (3, [.pocketParam .tokenomics "pokt1gov" "mint_ratio" .asFloat (.number "0")])]

/-- The update of all parameters of a module that sets one of them to zero. -/
def zeroUpdate : List (ℕ × List UpdateMsg) :=
  [(2, [.pocketParams "pokt1gov" (.tokenomics ⟨"pokt1dao", some ⟨"0.1", "0.1", "0.6", "0.1", "0.1"⟩,
    "0.1", some ⟨"0.1", "0.1", "0.6", "0.1", "0.1"⟩, "0"⟩)])]

end Pocketdex
