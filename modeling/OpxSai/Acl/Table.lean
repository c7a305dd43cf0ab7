import OpxSai.Acl.TableGroup

/-!
# ACL tables

A table create is two steps. The attributes are validated before the module lock is taken, and the
tables that there are then are looked at in it; what the validation counted is kept by the caller.
The rest is done under the lock, and does not look at the other tables again.
-/

variable (env : AclTableEnv)

namespace OpxSai

open AclDb

/-! ## Attributes -/

/-- `sai_attribute_t` of an ACL table. A stage that is none of the two is `none`; `unknown` is an id
inside the range of the table attributes that is none of them, `outOfRange` one outside of it. -/
inductive AclTableAttr where
  | stage (s32 : Option AclStage)
  | priority (u32 : BitVec 32)
  | size (u32 : BitVec 32)
  | groupId (oid : Oid)
  | actionList (s32list : List Int)
  | field (index : Nat)
  | udfField (index : Nat) (oid : Oid)
  | unknown (id : Nat)
  | outOfRange (id : Nat)
deriving DecidableEq

inductive AclTableAttrId where
  | stage | priority | size | groupId | actionList
  | field (index : Nat)
  | udfField (index : Nat)
  | unknown (id : Nat)
  | outOfRange (id : Nat)
deriving DecidableEq

def AclTableAttr.id : AclTableAttr → AclTableAttrId
  | .stage _ => .stage
  | .priority _ => .priority
  | .size _ => .size
  | .groupId _ => .groupId
  | .actionList _ => .actionList
  | .field n => .field n
  | .udfField n _ => .udfField n
  | .unknown n => .unknown n
  | .outOfRange n => .outOfRange n

/-! ## The state -/

/-- The members of `sai_acl_table_t` that rules and groups do not ask for. -/
structure AclTableInfo where
  table_size : BitVec 32
  table_group_id : Oid
  num_counters : Nat
deriving DecidableEq

/-- What `sai_acl_table_validate_attributes` counts. -/
structure AclTableCounts where
  num_fields : Nat
  num_udf_fields : Nat
  num_actions : Nat
deriving DecidableEq

inductive AclTableResource where
  | table | fieldList | actionList | udfFieldList | tableTree
deriving DecidableEq

structure AclTableEnv where
  avail : AclTableResource → Bool
  /-- `dn_sai_udf_group_node_get`, with whether the group is a generic one. -/
  udf_group : Oid → Option Bool
  /-- `dn_sai_udf_group_hw_id_get` -/
  udf_hw_id : Oid → Status
  validate_field : AclTable → Status
  create_table : AclTable → Status
  delete_table : Oid → Status

/-- The module with the keys of its table tree, the id generator (entry `i` is for the id `i + 1`),
and the creates that callers have validated and not finished. -/
structure AclTableDb where
  acl : AclDb
  table_keys : List Oid
  table_in_use : List Bool
  table_info : Oid → AclTableInfo
  pending : Nat → Option (List AclTableAttr × AclTableCounts)

/-! ## Validation -/

/-- `sai_acl_table_same_priority`: the walk over the table tree. -/
def aclTableSamePriority (table_priority : BitVec 32) (table_stage : AclStage) (db : AclTableDb) :
    Bool :=
  db.table_keys.any fun t =>
    match db.acl.table_tree t with
    | none => false
    | some table => table_priority = table.acl_table_priority ∧ table_stage = table.acl_stage

/-- `sai_acl_table_group_id_exist` -/
def aclTableGroupIdExist (table_group_id : Oid) (table_stage : AclStage) (db : AclTableDb) :
    Bool :=
  db.table_keys.any fun t =>
    match db.acl.table_tree t with
    | none => false
    | some table =>
      table_group_id = (db.table_info t).table_group_id ∧ table_stage = table.acl_stage

/-- `sai_acl_table_udf_field_validate` -/
def aclTableUdfFieldValidate (udf_group_id : Oid) : Status :=
  match env.udf_group udf_group_id with
  | none => .invalidAttrValue 0
  | some generic => if generic then .success else .attrNotSupported 0

/-- The first loop of `sai_acl_table_validate_attributes`: the stage. -/
def aclTableStage (index : Nat) (table_stage : AclStage) :
    List AclTableAttr → Except Status AclStage
  | [] => .ok table_stage
  | .stage none :: _ => .error (getIndexedRetVal (.invalidAttrValue 0) index)
  | .stage (some stage) :: attr_list => aclTableStage (index + 1) stage attr_list
  | _ :: attr_list => aclTableStage (index + 1) table_stage attr_list

/-- The `switch` of the second loop: the checks on the value of one attribute. -/
def aclTableCheckAttr (table_stage : AclStage) (db : AclTableDb) : AclTableAttr → Status
  | .stage _ | .size _ | .actionList _ | .field _ => .success
  | .priority u32 =>
    if aclTableSamePriority u32 table_stage db then .invalidAttrValue 0 else .success
  | .groupId oid =>
    if oid.type ≠ .aclTableGroup then .invalidAttrValue 0
    else if !aclTableGroupIdExist oid table_stage db then .invalidAttrValue 0
    else .success
  | .udfField _ oid =>
    if oid.type ≠ .udfGroup then .invalidAttrValue 0 else aclTableUdfFieldValidate env oid
  | .unknown _ => .unknownAttribute 0
  | .outOfRange _ => .invalidAttribute 0

/-- The second loop of `sai_acl_table_validate_attributes`, from attribute `index` on. -/
def aclTableCheckAttrs (env : AclTableEnv) (table_stage : AclStage) (db : AclTableDb) :
    Nat → List AclTableAttr → Status
  | _, [] => .success
  | index, attr :: attr_list =>
    let rc := aclTableCheckAttr env table_stage db attr
    if rc ≠ .success then getIndexedRetVal rc index
    else
      match attr_list.findIdx? fun dup => dup.id = attr.id with
      | some dup_index => .invalidAttribute (index + 1 + dup_index)
      | none => aclTableCheckAttrs env table_stage db (index + 1) attr_list

def aclTableFieldCount (attr_list : List AclTableAttr) : Nat :=
  attr_list.countP fun attr => match attr with
    | .field _ | .udfField _ _ => true
    | _ => false

def aclTableUdfFieldCount (attr_list : List AclTableAttr) : Nat :=
  attr_list.countP fun attr => match attr with
    | .udfField _ _ => true
    | _ => false

def aclTableActionCount : List AclTableAttr → Nat
  | [] => 0
  | .actionList s32list :: _ => s32list.length
  | _ :: attr_list => aclTableActionCount attr_list

/-- `sai_acl_table_validate_attributes` -/
def aclTableValidateAttributes (attr_list : List AclTableAttr)
    (db : AclTableDb) : Except Status AclTableCounts :=
  match aclTableStage 0 .ingress attr_list with
  | .error rc => .error rc
  | .ok table_stage =>
    let rc := aclTableCheckAttrs env table_stage db 0 attr_list
    if rc ≠ .success then .error rc
    else if !attr_list.any fun attr => attr.id = .stage then .error .mandatoryAttributeMissing
    else if !attr_list.any fun attr => attr.id = .priority then .error .mandatoryAttributeMissing
    else if aclTableFieldCount attr_list = 0 then .error .mandatoryAttributeMissing
    else .ok ⟨aclTableFieldCount attr_list, aclTableUdfFieldCount attr_list,
      aclTableActionCount attr_list⟩

/-! ## Create -/

/-- A table after `calloc` and `sai_acl_table_init`, with the members kept beside it and with
`virtual_group_create`. -/
structure AclTableNew where
  table : AclTable
  info : AclTableInfo
  virtual_group_create : Bool
deriving DecidableEq

def AclTableNew.zero : AclTableNew := ⟨⟨.ingress, 0, [], 0, false, []⟩, ⟨0, .null, 0⟩, false⟩

/-- One turn of the loop of `sai_acl_table_populate`. -/
def aclTablePopulateAttr (udf_field_count : Nat) (index : Nat)
    (attr : AclTableAttr) (new : AclTableNew) : Except Status AclTableNew :=
  match attr with
  | .stage s32 => .ok { new with table := { new.table with acl_stage := s32.getD .ingress } }
  | .priority u32 => .ok { new with table := { new.table with acl_table_priority := u32 } }
  | .size u32 => .ok { new with info := { new.info with table_size := u32 } }
  | .groupId oid =>
    .ok { new with info := { new.info with table_group_id := oid }, virtual_group_create := true }
  | .udfField n oid =>
    if udf_field_count ≤ new.table.udf_field_list.length then
      .error (getIndexedRetVal (.invalidAttribute 0) index)
    else
      let rc := env.udf_hw_id oid
      if rc ≠ .success then .error rc
      else .ok { new with
        table := { new.table with udf_field_list := new.table.udf_field_list ++ [(n, oid)] } }
  | .actionList _ | .field _ | .unknown _ | .outOfRange _ => .ok new

/-- The loop of `sai_acl_table_populate`. -/
def aclTablePopulateAttrs (env : AclTableEnv) (udf_field_count : Nat) :
    Nat → List AclTableAttr → AclTableNew → Except Status AclTableNew
  | _, [], new => .ok new
  | index, attr :: attr_list, new =>
    match aclTablePopulateAttr env udf_field_count index attr new with
    | .error rc => .error rc
    | .ok new => aclTablePopulateAttrs env udf_field_count (index + 1) attr_list new

/-- `sai_acl_table_populate` -/
def aclTablePopulate (attr_list : List AclTableAttr)
    (counts : AclTableCounts) : Except Status AclTableNew :=
  if !env.avail .fieldList ∨ !env.avail .actionList then .error .noMemory
  else if counts.num_udf_fields ≠ 0 ∧ !env.avail .udfFieldList then .error .noMemory
  else aclTablePopulateAttrs env counts.num_udf_fields 0 attr_list .zero

/-- `sai_acl_table_id_alloc`: the place of the first entry that is not in use. -/
def aclTableIdAlloc (db : AclTableDb) : Option Nat := db.table_in_use.findIdx? fun used => !used

/-- `sai_acl_table_id_dealloc` -/
def aclTableIdDealloc (table_id : Oid) (table_in_use : List Bool) : List Bool :=
  match table_id.id with
  | 0 => table_in_use
  | table_idx + 1 => table_in_use.set table_idx false

/-- `sai_create_acl_table_id` for the id at `table_idx`: a table of fixed size or in a virtual group
is brought into the NPU. -/
def aclTableIdCreate (table_idx : Nat) (new : AclTableNew) : Except Status AclTableNew :=
  let new := if !new.virtual_group_create then
    { new with info := { new.info with
        table_group_id := uoidCreate .aclTableGroup (table_idx + 1) } } else new
  if new.info.table_size ≠ 0 ∨ (new.info.table_group_id ≠ .null ∧ new.virtual_group_create) then
    let rc := env.create_table new.table
    if rc ≠ .success then .error rc
    else .ok { new with table := { new.table with in_npu := true } }
  else .ok new

/-- A table that is not in the tree yet: what the attributes make of it, and its id. -/
def aclTableMake (attr_list : List AclTableAttr) (counts : AclTableCounts)
    (db : AclTableDb) : Except Status (Nat × AclTableNew) :=
  match aclTablePopulate env attr_list counts with
  | .error rc => .error rc
  | .ok new =>
    let rc := env.validate_field new.table
    if rc ≠ .success then .error rc
    else
      match aclTableIdAlloc db with
      | none => .error .tableFull
      | some table_idx =>
        match aclTableIdCreate env table_idx new with
        | .error rc => .error rc
        | .ok new => .ok (table_idx, new)

/-- The rest of `sai_create_acl_table`, from the allocation on: the tables that there are by now are
not looked at. The id of a table that fails is free again. -/
def aclTableCreateLocked (attr_list : List AclTableAttr)
    (counts : AclTableCounts) (db : AclTableDb) : Status × AclTableDb :=
  if !env.avail .table then (.noMemory, db)
  else
    match aclTableMake env attr_list counts db with
    | .error rc => (rc, db)
    | .ok (table_idx, new) =>
      let table_id := uoidCreate .aclTable (table_idx + 1)
      -- a tree takes a key once
      if !env.avail .tableTree ∨ (db.acl.table_tree table_id).isSome then (.failure, db)
      else
        (.success, { db with
          acl := { db.acl with
            table_tree := fun t => if t = table_id then some new.table else db.acl.table_tree t }
          table_keys := db.table_keys ++ [table_id]
          table_in_use := db.table_in_use.set table_idx true
          table_info := fun t => if t = table_id then new.info else db.table_info t })

/-! ## Delete -/

/-- `sai_acl_table_remove` -/
def aclTableRemove (table_id : Oid) (db : AclTableDb) : AclTableDb :=
  { db with
    acl := { db.acl with
      table_tree := fun t => if t = table_id then none else db.acl.table_tree t }
    table_keys := db.table_keys.erase table_id }

/-- `sai_delete_acl_table`: a table that the NPU does not let go is inserted again. -/
def aclTableDelete (table_id : Oid) (db : AclTableDb) : Status × AclTableDb :=
  if table_id.type ≠ .aclTable then (.invalidObjectType, db)
  else
    match db.acl.table_tree table_id with
    | none => (.invalidObjectId, db)
    | some table =>
      if table.rule_count ≠ 0 then (.objectInUse, db)
      else if (db.table_info table_id).num_counters ≠ 0 then (.objectInUse, db)
      else
        let removed := aclTableRemove table_id db
        let rc := env.delete_table table_id
        if rc ≠ .success then (rc, if env.avail .tableTree then db else removed)
        else (.success, { removed with
          table_in_use := aclTableIdDealloc table_id removed.table_in_use })

/-! ## The system -/

/-- The steps. A create of a caller is its `validate`, and its `create` some steps of others later;
`group` is a whole call on groups and members, which is made under the lock. -/
inductive AclTableOp where
  | validate (caller : Nat) (env : AclTableEnv) (attr_list : List AclTableAttr)
  | create (caller : Nat) (env : AclTableEnv)
  | delete (env : AclTableEnv) (table_id : Oid)
  | group (c : AclGroupOpCall)

def AclTableDb.setPending (caller : Nat) (x : Option (List AclTableAttr × AclTableCounts))
    (db : AclTableDb) : AclTableDb :=
  { db with pending := fun c => if c = caller then x else db.pending c }

/-- The first step of a create; a caller without a create in hand starts one. -/
def aclTableValidate (caller : Nat) (env : AclTableEnv) (attr_list : List AclTableAttr)
    (db : AclTableDb) : AclTableDb :=
  if attr_list = [] then db
  else if (db.pending caller).isSome then db
  else
    match aclTableValidateAttributes env attr_list db with
    | .error _ => db
    | .ok counts => db.setPending caller (some (attr_list, counts))

def aclTableCreate (caller : Nat) (env : AclTableEnv) (db : AclTableDb) : AclTableDb :=
  match db.pending caller with
  | none => db
  | some (attr_list, counts) =>
    (aclTableCreateLocked env attr_list counts (db.setPending caller none)).2

def aclTableStep (op : AclTableOp) (db : AclTableDb) : AclTableDb :=
  match op with
  | .validate caller env attr_list => aclTableValidate caller env attr_list db
  | .create caller env => aclTableCreate caller env db
  | .delete env table_id => (aclTableDelete env table_id db).2
  | .group c => { db with acl := aclGroupStep c db.acl }

/-- The module after `sai_acl_init`: no table, and `table_id_max` ids for tables. -/
def AclTableDb.initial (table_id_max : Nat) : AclTableDb where
  acl := .initial (fun _ => none) (fun _ => none) (fun _ => false) .empty
  table_keys := []
  table_in_use := List.replicate table_id_max false
  table_info := fun _ => ⟨0, .null, 0⟩
  pending := fun _ => none

end OpxSai
