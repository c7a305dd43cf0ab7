import OpxSai.Acl.Types

/-!
# The attributes of ACL rules

How a list of attributes becomes a rule, and how a rule answers for an attribute.
-/

variable (env : AclEnv)

namespace OpxSai

/-! ## Kinds of attributes -/

/-- `sai_acl_object_list_field_attr` -/
def aclObjectListFieldAttr : AclField → Bool
  | .inPorts | .outPorts => true
  | _ => false

/-- `sai_acl_object_list_action_attr` -/
def aclObjectListActionAttr : AclActionId → Bool
  | .mirrorIngress | .mirrorEgress | .redirectList => true
  | _ => false

/-- `sai_acl_range_attr` -/
def aclRangeAttr : AclField → Bool
  | .rangeType => true
  | _ => false

/-- `sai_acl_portlist_attr` -/
def aclPortlistAttr : AclField → Bool
  | .inPorts | .outPorts => true
  | _ => false

/-- `sai_acl_port_attr` -/
def aclPortAttr : AclField → Bool
  | .inPort | .outPort => true
  | _ => false

/-- `sai_acl_rule_udf_field_attr_range` -/
def aclUdfFieldAttrRange : AclField → Bool
  | .udf _ => true
  | _ => false

/-- `sai_acl_get_sample_direction`; `SAI_SAMPLEPACKET_DIR_MAX` is `none`. -/
def aclGetSampleDirection : AclActionId → Option SampleDirection
  | .ingressSamplepacketEnable => some .ingress
  | .egressSamplepacketEnable => some .egress
  | _ => none

/-- `sai_acl_rule_valid_attr_range` -/
def aclRuleValidAttrRange : AclEntryAttr → Bool
  | .outOfRange _ => false
  | _ => true

/-- The field that a rule of the table keeps for a field attribute: there is no port to leave by
at the ingress stage, and the destination port is taken for it. -/
def aclStageField (table : AclTable) (field : AclField) : AclField :=
  if field = .outPort ∧ table.acl_stage = .ingress then .dstPort else field

/-- `sai_acl_validate_object_type` -/
def aclValidateObjectType (attribute_id : AclEntryAttr) (oid : Oid) : Status :=
  let valid : Bool := match attribute_id with
    | .field .srcPort | .field .dstPort => oid.type = .port ∨ oid.type = .lag
    | .field .inPort | .field .outPort | .field .inPorts | .field .outPorts => oid.type = .port
    | .action .counter => oid.type = .aclCounter
    | .action .setPolicer => oid.type = .policer
    | .action .ingressSamplepacketEnable | .action .egressSamplepacketEnable =>
      oid.type = .samplePacket
    | .action .setCpuQueue => oid.type = .queue
    | .action .mirrorIngress | .action .mirrorEgress => oid.type = .mirrorSession
    | .field .rangeType => oid.type = .aclRange
    | _ => true
  if valid then .success else .invalidObjectType

/-- A check on each object of a list, up to the first that fails. -/
def aclCheckObjs (check : Oid → Status) : List Oid → Status
  | [] => .success
  | oid :: list => if check oid ≠ .success then check oid else aclCheckObjs check list

/-! ## Fields -/

/-- A filter after `calloc`, with its field and its state. -/
def AclFilter.new (field : AclField) (enable : Bool) : AclFilter :=
  ⟨field, enable, .zero, .zero, .zero, false, false⟩

/-- `sai_acl_rule_filter_populate_range` -/
def aclRuleFilterPopulateRange (env : AclEnv) (index : Nat) (filter : AclFilter)
    (value : AclAttrValue) : Except Status AclFilter :=
  let list := value.data.objs
  if list = [] ∧ value.enable then .error (.invalidAttrValue 0)
  else if value.enable then
    let rc := aclCheckObjs (aclValidateObjectType (.field filter.field)) list
    if rc ≠ .success then .error rc
    else if !env.avail (.fieldValue index) then .error .noMemory
    else .ok { filter with match_data := .objlist list, enable := true }
  else .ok filter

/-- `sai_acl_rule_filter_populate_object_list`. What goes wrong with a range is not looked at. -/
def aclRuleFilterPopulateObjectList (index : Nat) (filter : AclFilter)
    (value : AclAttrValue) : Except Status AclFilter :=
  let filter := if aclRangeAttr filter.field then
    match aclRuleFilterPopulateRange env index filter value with
    | .error _ => filter
    | .ok filter => filter
    else filter
  if aclPortlistAttr filter.field then
    let list := value.data.objs
    if list = [] ∧ value.enable then .error (.invalidAttrValue 0)
    else if value.enable then
      let rc := aclCheckObjs (aclValidateObjectType (.field filter.field)) list
      if rc ≠ .success then .error rc
      else if !list.all env.port_valid then .error .invalidObjectId
      else if !env.avail (.fieldValue index) then .error .noMemory
      else .ok { filter with match_data := .objlist list, enable := true }
    else .ok filter
  else .ok filter

/-- `sai_acl_rule_filter_populate_u8_list` -/
def aclRuleFilterPopulateU8List (env : AclEnv) (index : Nat) (filter : AclFilter)
    (value : AclAttrValue) : Except Status AclFilter :=
  if (value.data.bytes = [] ∨ value.mask.bytes = []) ∧ value.enable then
    .error (.invalidAttrValue 0)
  else if value.enable then
    if !env.avail (.fieldValue index) then .error .noMemory
    else .ok { filter with
      match_data := .u8list value.data.bytes
      match_mask := .u8list value.mask.bytes
      enable := true }
  else .ok filter

/-- `sai_acl_rule_filter_populate_attr_obj_id` -/
def aclRuleFilterPopulateAttrObjId (env : AclEnv) (filter : AclFilter) (value : AclAttrValue) :
    Except Status AclFilter :=
  let oid := value.data.getOid
  let done := { filter with match_data := .oid oid }
  if value.enable then
    let rc := aclValidateObjectType (.field filter.field) oid
    if rc ≠ .success then .error rc
    else if oid.type = .lag then .ok done
    else if oid.type = .port then
      if aclPortAttr filter.field ∧ !env.port_valid oid then .error .invalidObjectId else .ok done
    else if !env.obj_type_valid oid.type then .error .invalidObjectType
    else .error .notSupported
  else .ok done

/-- `sai_acl_rule_filter_populate_attr_type` on its way in. A boolean has no mask. -/
def aclRuleFilterPopulateAttrType (index : Nat) (filter : AclFilter)
    (value : AclAttrValue) : Except Status AclFilter :=
  match env.attr_types.typeOf (.field filter.field) with
  | .invalid => .ok filter
  | .bool => .ok { filter with match_data := value.data.read .bool }
  | .objectId => aclRuleFilterPopulateAttrObjId env filter value
  | .objectList => aclRuleFilterPopulateObjectList env index filter value
  | .oneByteList => aclRuleFilterPopulateU8List env index filter value
  | type => .ok { filter with
      match_data := value.data.read type
      match_mask := value.mask.read type }

/-- `sai_acl_table_find_udf_group_id`; the null id when the table has no such field. -/
def aclTableFindUdfGroupId (table : AclTable) (index : Nat) : Oid :=
  match table.udf_field_list.find? fun udf => udf.1 = index with
  | none => .null
  | some udf => udf.2

/-- `sai_acl_rule_udf_filter_populate` -/
def aclRuleUdfFilterPopulate (table : AclTable) (index : Nat) (filter : AclFilter) :
    Except Status AclFilter :=
  let udf_group_id := aclTableFindUdfGroupId table index
  if udf_group_id = .null then .error (.invalidAttribute 0)
  else
    let x := env.udf_hw_id udf_group_id
    if x.1 ≠ .success then .error x.1
    else .ok { filter with udf_field := ⟨udf_group_id, some index, x.2⟩ }

def aclRuleFilterOf (table : AclTable) (index : Nat) (field : AclField)
    (value : AclAttrValue) : Except Status AclFilter :=
  match aclRuleFilterPopulateAttrType env index
      (.new (aclStageField table field) value.enable) value with
  | .error rc => .error (getIndexedRetVal rc index)
  | .ok filter =>
    match field with
    | .udf n =>
      match aclRuleUdfFilterPopulate env table n filter with
      | .error rc => .error (getIndexedRetVal rc index)
      | .ok filter => .ok filter
    | _ => .ok filter

/-! ## Actions -/

/-- An action after `calloc`, with its id and its state. -/
def AclAction.new (action : AclActionId) (enable : Bool) : AclAction :=
  ⟨action, enable, .zero, false, false⟩

/-- The checks of `sai_acl_rule_action_populate_object_list` on one object. -/
def aclCheckActionObj (env : AclEnv) (action : AclActionId) (oid : Oid) : Status :=
  match action with
  | .mirrorIngress | .mirrorEgress =>
    if oid.type ≠ .mirrorSession ∨ !env.mirror_valid oid then .invalidAttrValue 0 else .success
  | .redirectList => if !env.port_valid oid then .invalidAttrValue 0 else .success
  | _ => .success

/-- `sai_acl_rule_action_populate_object_list` -/
def aclRuleActionPopulateObjectList (index : Nat) (action : AclAction)
    (value : AclAttrValue) : Except Status AclAction :=
  let list := value.data.objs
  if list = [] ∧ action.enable then .error (.invalidAttrValue 0)
  else if action.enable then
    let rc := aclCheckObjs (aclValidateObjectType (.action action.action)) list
    if rc ≠ .success then .error rc
    else
      let rc := aclCheckObjs (aclCheckActionObj env action.action) list
      if rc ≠ .success then .error rc
      else if !env.avail (.actionValue index) then .error .noMemory
      else .ok { action with parameter := .objlist list }
  else .ok action

/-- `sai_acl_rule_action_populate_attr_obj_id` -/
def aclRuleActionPopulateAttrObjId (action : AclAction) (value : AclAttrValue) :
    Except Status AclAction :=
  let oid := value.data.getOid
  if value.enable then
    let rc := aclValidateObjectType (.action action.action) oid
    if rc ≠ .success then .error rc else .ok { action with parameter := .oid oid }
  else .ok { action with parameter := .oid oid }

/-- `sai_acl_rule_action_populate_attr_type` on its way in. -/
def aclRuleActionPopulateAttrType (index : Nat) (action : AclAction)
    (value : AclAttrValue) : Except Status AclAction :=
  match env.attr_types.typeOf (.action action.action) with
  | .invalid | .bool | .oneByteList => .ok action
  | .objectId => aclRuleActionPopulateAttrObjId action value
  | .objectList => aclRuleActionPopulateObjectList env index action value
  | type => .ok { action with parameter := value.data.read type }

def aclRuleActionOf (index : Nat) (action : AclActionId) (value : AclAttrValue) :
    Except Status AclAction :=
  match aclRuleActionPopulateAttrType env index (.new action value.enable) value with
  | .error rc => .error (getIndexedRetVal rc index)
  | .ok action => .ok action

/-- What an enabled action writes to the rule beside its list of actions: the counter, the sample
packet session of its direction, or the policer. -/
def aclRuleActionIds (env : AclEnv) (index : Nat) (action : AclActionId) (value : AclAttrValue)
    (rule : AclRule) : Except Status AclRule :=
  let oid := value.data.getOid
  match action with
  | .counter =>
    if oid = .null ∧ value.enable then .error (.invalidAttrValue index)
    else .ok (if value.enable then { rule with counter_id := oid } else rule)
  | .ingressSamplepacketEnable =>
    if oid = .null ∧ value.enable then .error (.invalidAttrValue index)
    else .ok (if value.enable then { rule with ingress_sample_id := oid } else rule)
  | .egressSamplepacketEnable =>
    if oid = .null ∧ value.enable then .error (.invalidAttrValue index)
    else .ok (if value.enable then { rule with egress_sample_id := oid } else rule)
  | .setPolicer =>
    if value.enable ∧ oid = .null then .error (.invalidAttrValue index)
    else if value.enable ∧ !env.policer_is_tcm oid then .error (.invalidAttrValue index)
    else .ok (if value.enable then { rule with policer_id := oid } else rule)
  | _ => .ok rule

/-! ## Populate -/

/-- One turn of the loop of `sai_acl_rule_populate`. -/
def aclRulePopulateAttr (table : AclTable) (index : Nat) (attr : AclAttr)
    (rule : AclRule) : Except Status AclRule :=
  match attr.id with
  | .field field =>
    match aclRuleFilterOf env table index field attr.value with
    | .error rc => .error rc
    | .ok filter => .ok { rule with filter_list := rule.filter_list ++ [filter] }
  | .action action =>
    match aclRuleActionOf env index action attr.value with
    | .error rc => .error rc
    | .ok act =>
      aclRuleActionIds env index action attr.value
        { rule with action_list := rule.action_list ++ [act] }
  | .tableId => .ok { rule with table_id := attr.value.data.getOid }
  | .priority => .ok { rule with acl_rule_priority := attr.value.data.getU32 }
  | .adminState => .ok { rule with acl_rule_state := attr.value.data.getBool }
  | .unknown _ | .outOfRange _ => .error (.unknownAttribute index)

/-- The loop of `sai_acl_rule_populate`. -/
def aclRulePopulateAttrs (env : AclEnv) (table : AclTable) : Nat → List AclAttr → AclRule →
    Except Status AclRule
  | _, [], rule => .ok rule
  | index, attr :: attr_list, rule =>
    match aclRulePopulateAttr env table index attr rule with
    | .error rc => .error rc
    | .ok rule => aclRulePopulateAttrs env table (index + 1) attr_list rule

/-- `sai_acl_rule_populate`; a rule whose attributes do not name the admin state gets the default
one. -/
def aclRulePopulate (table : AclTable) (rule : AclRule)
    (attr_list : List AclAttr) : Except Status AclRule :=
  if !env.avail .filterList ∨ !env.avail .actionList then .error .noMemory
  else
    match aclRulePopulateAttrs env table 0 attr_list rule with
    | .error rc => .error rc
    | .ok rule =>
      .ok (if attr_list.any fun attr => attr.id = .adminState then rule
        else { rule with acl_rule_state := env.default_state })

/-- What `sai_acl_check_rule_attributes` counts and finds. -/
structure AclAttrCounts where
  field_count : Nat
  action_count : Nat
  acl_table_id : Oid
deriving DecidableEq

/-- `sai_acl_check_rule_attributes`, from attribute `index` on. -/
def aclCheckRuleAttributes (index : Nat) (counts : AclAttrCounts) :
    List AclAttr → Except Status AclAttrCounts
  | [] => .ok counts
  | attr :: attr_list =>
    if !aclRuleValidAttrRange attr.id then .error (.invalidAttribute index)
    else
      match attr_list.findIdx? fun dup => dup.id = attr.id with
      | some dup_index => .error (.invalidAttribute (index + 1 + dup_index))
      | none =>
        let counts := match attr.id with
          | .field _ => { counts with field_count := counts.field_count + 1 }
          | .action _ => { counts with action_count := counts.action_count + 1 }
          | .tableId => { counts with acl_table_id := attr.value.data.getOid }
          | _ => counts
        aclCheckRuleAttributes (index + 1) counts attr_list

/-! ## Get -/

/-- An attribute to get: the value, and the counts of its lists, which are the room there is on
the way in. -/
structure AclAttrBuf where
  id : AclEntryAttr
  value : AclAttrValue
  data_count : Nat
  mask_count : Nat
deriving DecidableEq

namespace AclAttrBuf

def putObjs (list : List Oid) (buf : AclAttrBuf) : Status × AclAttrBuf :=
  if buf.data_count < list.length then (.bufferOverflow, { buf with data_count := list.length })
  else
    (.success, { buf with
      data_count := list.length
      value := { buf.value with data := .objlist list } })

def putData (data : AclValue) (buf : AclAttrBuf) : AclAttrBuf :=
  { buf with value := { buf.value with data := data } }

def putMask (mask : AclValue) (buf : AclAttrBuf) : AclAttrBuf :=
  { buf with value := { buf.value with mask := mask } }

def putEnable (enable : Bool) (buf : AclAttrBuf) : AclAttrBuf :=
  { buf with value := { buf.value with enable := enable } }

end AclAttrBuf

/-- `sai_acl_rule_filter_populate_attr_type` on its way out. -/
def aclRuleFilterGet (filter : AclFilter) (buf : AclAttrBuf) : Status × AclAttrBuf :=
  match env.attr_types.typeOf (.field filter.field) with
  | .invalid => (.success, buf)
  | .bool => (.success, buf.putData (filter.match_data.read .bool))
  | .objectId => (.success, buf.putData (.oid filter.match_data.getOid))
  | .objectList =>
    if aclRangeAttr filter.field then
      -- the status of the range is dropped here as well
      (.success, (buf.putObjs filter.match_data.objs).2)
    else if aclPortlistAttr filter.field then buf.putObjs filter.match_data.objs
    else (.success, buf)
  | .oneByteList =>
    let data := filter.match_data.bytes
    let mask := filter.match_mask.bytes
    let counted := { buf with data_count := data.length, mask_count := mask.length }
    if buf.data_count < data.length ∨ buf.mask_count < mask.length then (.bufferOverflow, counted)
    else (.success, (counted.putData (.u8list data)).putMask (.u8list mask))
  | type =>
    (.success, (buf.putData (filter.match_data.read type)).putMask (filter.match_mask.read type))

/-- `sai_acl_rule_action_populate_attr_type` on its way out. -/
def aclRuleActionGet (action : AclAction) (buf : AclAttrBuf) : Status × AclAttrBuf :=
  match env.attr_types.typeOf (.action action.action) with
  | .invalid | .bool | .oneByteList => (.success, buf)
  | .objectId => (.success, buf.putData (.oid action.parameter.getOid))
  | .objectList => buf.putObjs action.parameter.objs
  | type => (.success, buf.putData (action.parameter.read type))

/-- The walk over the filters of the rule; whether the field was found is carried along. -/
def aclGetField (env : AclEnv) (field : AclField) (found : Bool) :
    List AclFilter → AclAttrBuf → Status × Bool × AclAttrBuf
  | [], buf => (.success, found, buf)
  | filter :: filter_list, buf =>
    if filter.field = field then
      let x := aclRuleFilterGet env filter buf
      if x.1 ≠ .success then (x.1, found, x.2)
      else aclGetField env field true filter_list (x.2.putEnable filter.enable)
    else aclGetField env field found filter_list buf

def aclGetAction (env : AclEnv) (action : AclActionId) (found : Bool) :
    List AclAction → AclAttrBuf → Status × Bool × AclAttrBuf
  | [], buf => (.success, found, buf)
  | act :: action_list, buf =>
    if act.action = action then
      let x := aclRuleActionGet env act buf
      if x.1 ≠ .success then (x.1, found, x.2)
      else aclGetAction env action true action_list (x.2.putEnable act.enable)
    else aclGetAction env action found action_list buf

/-- The loop of `sai_acl_get_attr_from_rule`. What was found for one attribute counts as found for
those behind it. -/
def aclGetAttrs (env : AclEnv) (table : AclTable) (rule : AclRule) (index : Nat)
    (field_found action_found : Bool) : List AclAttrBuf → Status × List AclAttrBuf
  | [] => (.success, [])
  | buf :: bufs =>
    let rest := fun (field_found action_found : Bool) (buf : AclAttrBuf) =>
      let x := aclGetAttrs env table rule (index + 1) field_found action_found bufs
      (x.1, buf :: x.2)
    match buf.id with
    | .outOfRange _ => (.invalidAttribute index, buf :: bufs)
    | .tableId => rest field_found action_found (buf.putData (.oid rule.table_id))
    | .priority => rest field_found action_found (buf.putData (.u32 rule.acl_rule_priority))
    | .adminState => rest field_found action_found (buf.putData (.booldata rule.acl_rule_state))
    | .field field =>
      let x := aclGetField env (aclStageField table field) field_found rule.filter_list buf
      if x.1 ≠ .success then (x.1, x.2.2 :: bufs)
      else if !x.2.1 then (.itemNotFound, x.2.2 :: bufs)
      else rest x.2.1 action_found x.2.2
    | .action action =>
      let x := aclGetAction env action action_found rule.action_list buf
      if x.1 ≠ .success then (x.1, x.2.2 :: bufs)
      else
        -- counter and policer are read from the rule, not from the action
        let buf := match action with
          | .counter => x.2.2.putData (.oid rule.counter_id)
          | .setPolicer => x.2.2.putData (.oid rule.policer_id)
          | _ => x.2.2
        if !x.2.1 then (.itemNotFound, buf :: bufs) else rest field_found x.2.1 buf
    | .unknown _ => (.unknownAttribute index, buf :: bufs)

/-- `sai_acl_get_attr_from_rule` -/
def aclGetAttrFromRule (table : AclTable) (rule : AclRule)
    (attr_list : List AclAttrBuf) : Status × List AclAttrBuf :=
  if attr_list = [] then (.invalidParameter, attr_list)
  else aclGetAttrs env table rule 0 false false attr_list

end OpxSai
