import OpxSai.Lib.SortedInsert
import OpxSai.SamplePacket.AclPort

/-!
# ACL — data model

The records of the ACL module: tables, the rules of a table with their fields and actions,
counters, policers, and table groups with their members.

A value of an attribute is a C union. `AclValue` is the member that was written, and
`AclValue.read` the member that the type of the attribute says. After `calloc` no member has been
written: `zero`.

The NPU library answers each call with the calls it was sent before in view, so it may fail at
any point of a run.
-/

namespace OpxSai

/-! ## Attributes -/

/-- The match fields of `sai_acl_entry_attr_t`: those that a function asks for by name, the user
defined fields, and the others. -/
inductive AclField where
  | srcPort | dstPort | inPort | outPort | inPorts | outPorts | rangeType
  | udf (index : Nat)
  | other (index : Nat)
deriving DecidableEq

/-- The actions of `sai_acl_entry_attr_t`. -/
inductive AclActionId where
  | counter | setPolicer | ingressSamplepacketEnable | egressSamplepacketEnable | setCpuQueue
  | mirrorIngress | mirrorEgress | redirectList
  | other (index : Nat)
deriving DecidableEq

/-- `sai_acl_entry_attr_t`. `unknown` is an id inside the range of the entry attributes that is
none of them, `outOfRange` one outside of it. -/
inductive AclEntryAttr where
  | tableId | priority | adminState
  | field (field : AclField)
  | action (action : AclActionId)
  | unknown (id : Nat)
  | outOfRange (id : Nat)
deriving DecidableEq

/-- `sai_acl_entry_attr_type`, without the prefix: the member of the union an attribute uses. -/
inductive AclAttrType where
  | invalid | bool | oneByte | twoBytes | fourBytes | enum | mac | ipv4 | ipv6
  | objectId | objectList | oneByteList
deriving DecidableEq

inductive AclValue where
  | zero
  | booldata (b : Bool)
  | u8 (n : BitVec 8)
  | u16 (n : BitVec 16)
  | u32 (n : BitVec 32)
  | s32 (n : BitVec 32)
  | mac (n : BitVec 48)
  | ip4 (n : BitVec 32)
  | ip6 (n : BitVec 128)
  | oid (oid : Oid)
  | objlist (list : List Oid)
  | u8list (list : List (BitVec 8))
deriving DecidableEq

namespace AclValue

/-- The member that the type says; a union in which another one was written is out of scope and
reads as zero. -/
def read : AclAttrType → AclValue → AclValue
  | .bool, .booldata b => .booldata b
  | .oneByte, .u8 n => .u8 n
  | .twoBytes, .u16 n => .u16 n
  | .fourBytes, .u32 n => .u32 n
  | .enum, .s32 n => .s32 n
  | .mac, .mac n => .mac n
  | .ipv4, .ip4 n => .ip4 n
  | .ipv6, .ip6 n => .ip6 n
  | .objectId, .oid o => .oid o
  | .objectList, .objlist l => .objlist l
  | .oneByteList, .u8list l => .u8list l
  | _, _ => .zero

def getOid : AclValue → Oid
  | .oid o => o
  | _ => .null

def getU32 : AclValue → BitVec 32
  | .u32 n => n
  | _ => 0

def getBool : AclValue → Bool
  | .booldata b => b
  | _ => false

/-- The objects of a list; a list without memory has none. -/
def objs : AclValue → List Oid
  | .objlist l => l
  | _ => []

def bytes : AclValue → List (BitVec 8)
  | .u8list l => l
  | _ => []

def ofObjs (list : List Oid) : AclValue := if list = [] then .zero else .objlist list

def ofBytes (list : List (BitVec 8)) : AclValue := if list = [] then .zero else .u8list list

end AclValue

/-- `sai_attribute_value_t`: `aclfield`, or `aclaction` with its parameter in `data`, or a plain
value in `data`. -/
structure AclAttrValue where
  enable : Bool
  data : AclValue
  mask : AclValue
deriving DecidableEq

/-- `sai_attribute_t` of an ACL entry -/
structure AclAttr where
  id : AclEntryAttr
  value : AclAttrValue
deriving DecidableEq

/-! ## Rules and tables -/

inductive AclStage where
  | ingress | egress
deriving DecidableEq

/-- `udf_field` of a filter; `udf_attr_index` is 0 until a field has been put there. -/
structure AclUdfField where
  udf_group_id : Oid
  udf_attr_index : Option Nat
  udf_npu_id : Nat
deriving DecidableEq

/-- `udf_field` after `calloc`. -/
def AclUdfField.zero : AclUdfField := ⟨.null, none, 0⟩

/-- `sai_acl_filter_t` -/
structure AclFilter where
  field : AclField
  enable : Bool
  match_data : AclValue
  match_mask : AclValue
  udf_field : AclUdfField
  field_change : Bool
  new_field : Bool
deriving DecidableEq

/-- `sai_acl_action_t` -/
structure AclAction where
  action : AclActionId
  enable : Bool
  parameter : AclValue
  action_change : Bool
  new_action : Bool
deriving DecidableEq

/-- `sai_acl_rule_t`. The array `samplepacket_id` is a pair. -/
structure AclRule where
  acl_id : Oid
  table_id : Oid
  acl_rule_priority : BitVec 32
  acl_rule_state : Bool
  filter_list : List AclFilter
  action_list : List AclAction
  counter_id : Oid
  policer_id : Oid
  ingress_sample_id : Oid
  egress_sample_id : Oid
deriving DecidableEq

namespace AclRule

/-- A rule after `calloc`. -/
def zero : AclRule := ⟨.null, .null, 0, false, [], [], .null, .null, .null, .null⟩

/-- `samplepacket_id[direction]` -/
def samplepacket_id (rule : AclRule) : SampleDirection → Oid
  | .ingress => rule.ingress_sample_id
  | .egress => rule.egress_sample_id

end AclRule

/-- `sai_acl_table_t`, with `rule_head` as the list of its rules. -/
structure AclTable where
  acl_stage : AclStage
  acl_table_priority : BitVec 32
  rule_head : List Ptr
  rule_count : BitVec 32
  in_npu : Bool
  /-- The user defined fields of the table with their groups. -/
  udf_field_list : List (Nat × Oid)
deriving DecidableEq

/-- `sai_acl_table_group_t` -/
structure AclTableGroup where
  acl_stage : Int
  acl_group_type : Int
  acl_bind_list : List Int
  table_list_head : List Ptr
deriving DecidableEq

/-- `sai_acl_table_group_member_t` -/
structure AclTableGroupMember where
  acl_table_group_member_id : Oid
  acl_group_id : Oid
  acl_table_id : Oid
  priority : BitVec 32
deriving DecidableEq

inductive AclGroupAttr where
  | stage (s32 : Int)
  | bindPointTypeList (s32list : List Int)
  | type (s32 : Int)
  | other (id : Nat)
deriving DecidableEq

inductive AclMemberAttr where
  | tableGroupId (oid : Oid)
  | tableId (oid : Oid)
  | priority (u32 : BitVec 32)
  | other (id : Nat)
deriving DecidableEq

/-! ## The outside -/

inductive AclCall where
  | createTable (table_id : Oid)
  | createRule (rule : AclRule)
  | deleteRule (rule : AclRule)
  | setRule (rule_scan given_rule : AclRule)
  | copyRule (rule : AclRule)
  | attachCntr (acl_id counter_id : Oid)
  | detachCntr (acl_id counter_id : Oid)
deriving DecidableEq

inductive AclResource where
  | rule | filterList | actionList | fieldValue (index : Nat) | actionValue (index : Nat)
  | ruleTree | scanRule | compareRule | compareValues | newFields | newActions | updateValue
  | groupNode | groupTree | bindList | memberNode | memberTree
deriving DecidableEq

/-- `dn_sai_operations_t` -/
inductive SaiOp where
  | create | set | get
deriving DecidableEq

/-- `sai_acl_rule_get_attr_type`: each attribute that a function asks for by name is of the type
that its values have. -/
structure AclAttrTypes where
  typeOf : AclEntryAttr → AclAttrType
  port : ∀ f, f = .srcPort ∨ f = .dstPort ∨ f = .inPort ∨ f = .outPort →
    typeOf (.field f) = .objectId
  objectList : ∀ f, f = .inPorts ∨ f = .outPorts ∨ f = .rangeType →
    typeOf (.field f) = .objectList
  udf : ∀ n, typeOf (.field (.udf n)) = .oneByteList
  object : ∀ a, a = .counter ∨ a = .setPolicer ∨ a = .ingressSamplepacketEnable ∨
    a = .egressSamplepacketEnable ∨ a = .setCpuQueue → typeOf (.action a) = .objectId
  actionList : ∀ a, a = .mirrorIngress ∨ a = .mirrorEgress ∨ a = .redirectList →
    typeOf (.action a) = .objectList

def AclAttrTypes.ofOthers (others : AclEntryAttr → AclAttrType) : AclAttrTypes where
  typeOf := fun id => match id with
    | .field .srcPort | .field .dstPort | .field .inPort | .field .outPort => .objectId
    | .field .inPorts | .field .outPorts | .field .rangeType => .objectList
    | .field (.udf _) => .oneByteList
    | .action (.other n) => others (.action (.other n))
    | .action .mirrorIngress | .action .mirrorEgress | .action .redirectList => .objectList
    | .action _ => .objectId
    | id => others id
  port := by rintro f (rfl | rfl | rfl | rfl) <;> rfl
  objectList := by rintro f (rfl | rfl | rfl) <;> rfl
  udf := fun _ => rfl
  object := by rintro a (rfl | rfl | rfl | rfl | rfl) <;> rfl
  actionList := by rintro a (rfl | rfl | rfl) <;> rfl

structure AclEnv where
  status : List (AclCall × Status) → AclCall → Status
  avail : AclResource → Bool
  sample : SampleAclEnv
  attr_types : AclAttrTypes
  /-- `SAI_ACL_RULE_DEFAULT_ADMIN_STATE` -/
  default_state : Bool
  /-- `sai_is_port_valid` -/
  port_valid : Oid → Bool
  /-- `sai_is_obj_type_valid` -/
  obj_type_valid : ObjType → Bool
  /-- `sai_mirror_is_valid_mirror_session` -/
  mirror_valid : Oid → Bool
  /-- `sai_get_type_from_npu_object` is one of the two three-colour modes. -/
  policer_is_tcm : Oid → Bool
  /-- `dn_sai_udf_group_hw_id_get` -/
  udf_hw_id : Oid → Status × Nat
  /-- What lies in memory behind a byte list that is read beyond its end. -/
  beyond : Nat → BitVec 8
  /-- `std_dll_insert` into a list that was initialised with a comparison. -/
  dll_insert : SortedInsert Ptr
  /-- What `std_dll_remove` makes of a list the link is not on: std_dll says nothing of it. -/
  unlink_absent : List Ptr → Ptr → List Ptr
  /-- `sai_attribute_validate` for groups. -/
  validate_group : SaiOp → List AclGroupAttr → Status
  /-- `sai_attribute_validate` for group members. -/
  validate_member : SaiOp → List AclMemberAttr → Status
  group_id_gen : IdGen
  member_id_gen : IdGen

/-! ## The state -/

/-- `acl_node_t` with the nodes its trees hold, the policers with their lists of rules, the sample
packet sessions, and the calls into the NPU library, oldest first. -/
structure AclDb where
  table_tree : Oid → Option AclTable
  rules : Heap AclRule
  rule_tree : Oid → Option Ptr
  /-- The counters, with the table each belongs to. -/
  counter_tree : Oid → Option Oid
  /-- The policers, with `acl_dll_head`. -/
  policer_tree : Oid → Option (List Ptr)
  group_tree : Oid → Option AclTableGroup
  members : Heap AclTableGroupMember
  member_tree : Oid → Option Ptr
  sample : SampleAclDb
  npu_log : List (AclCall × Status)

namespace AclDb

def call (env : AclEnv) (c : AclCall) (db : AclDb) : Status × AclDb :=
  (env.status db.npu_log c, { db with npu_log := db.npu_log ++ [(c, env.status db.npu_log c)] })

def modTable (table_id : Oid) (f : AclTable → AclTable) (db : AclDb) : AclDb :=
  { db with table_tree := fun t => if t = table_id then (db.table_tree t).map f else db.table_tree t }

def modRule (p : Ptr) (f : AclRule → AclRule) (db : AclDb) : AclDb :=
  { db with rules := db.rules.modify p f }

def modPolicer (policer_id : Oid) (f : List Ptr → List Ptr) (db : AclDb) : AclDb :=
  { db with policer_tree := fun q =>
      if q = policer_id then (db.policer_tree q).map f else db.policer_tree q }

def modGroup (group_id : Oid) (f : AclTableGroup → AclTableGroup) (db : AclDb) : AclDb :=
  { db with group_tree := fun g => if g = group_id then (db.group_tree g).map f else db.group_tree g }

def modMember (p : Ptr) (f : AclTableGroupMember → AclTableGroupMember) (db : AclDb) : AclDb :=
  { db with members := db.members.modify p f }

end AclDb

/-- `std_dll_remove` -/
def aclDllRemove (env : AclEnv) (p : Ptr) (l : List Ptr) : List Ptr :=
  if p ∈ l then l.erase p else env.unlink_absent l p

/-- The state before the first call, with the tables, counters and policers it is to have. -/
def AclDb.initial (tables : Oid → Option AclTable) (counters : Oid → Option Oid)
    (policers : Oid → Bool) (sample : SampleAclDb) : AclDb where
  table_tree := tables
  rules := Heap.empty
  rule_tree := fun _ => none
  counter_tree := counters
  policer_tree := fun q => if policers q then some [] else none
  group_tree := fun _ => none
  members := Heap.empty
  member_tree := fun _ => none
  sample := sample
  npu_log := []

def SampleAclDb.empty : SampleAclDb := ⟨⟨fun _ => none, Heap.empty, []⟩, []⟩

/-- An outside that does everything it is asked. The member attributes can be given at creation
and not be set. -/
def AclEnv.good (others : AclEntryAttr → AclAttrType) (ports : List Oid) : AclEnv where
  status := fun _ _ => .success
  avail := fun _ => true
  sample := ⟨⟨fun _ _ => .success, fun _ _ => true, 1⟩, ports⟩
  attr_types := .ofOthers others
  default_state := true
  port_valid := fun _ => true
  obj_type_valid := fun _ => true
  mirror_valid := fun _ => true
  policer_is_tcm := fun _ => true
  udf_hw_id := fun _ => (.success, 1)
  beyond := fun _ => 0
  dll_insert := .ordered Ptr
  unlink_absent := fun l _ => l
  validate_group := fun _ _ => .success
  validate_member := fun op _ => if op = .set then .invalidAttribute 0 else .success
  group_id_gen := IdGen.below 64
  member_id_gen := IdGen.below 64

end OpxSai
