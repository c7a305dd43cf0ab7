import OpxSai.Acl.Types

/-!
# ACL table groups and their members

A member puts a table into a group. It is a node of its own, found in the member tree by its id
and linked into the table list of its group; the priority it is given is copied to the table.
-/

variable (env : AclEnv)

namespace OpxSai

open AclDb

/-! ## Groups -/

/-- A group after `calloc`. -/
def AclTableGroup.zero : AclTableGroup := ⟨0, 0, [], []⟩

/-- `sai_acl_table_group_attr_set`; the bind list is copied to memory of its own. -/
def aclTableGroupAttrSet (env : AclEnv) (group : AclTableGroup) (attr : AclGroupAttr) :
    Status × AclTableGroup :=
  match attr with
  | .stage s32 => (.success, { group with acl_stage := s32 })
  | .bindPointTypeList s32list =>
    if s32list ≠ [] ∧ !env.avail .bindList then (.noMemory, group)
    else (.success, { group with acl_bind_list := s32list })
  | .type s32 => (.success, { group with acl_group_type := s32 })
  | .other _ => (.unknownAttribute 0, group)

/-- The loop of `sai_acl_table_group_parse_update_attributes`. -/
def aclTableGroupAttrsSet (env : AclEnv) : Nat → List AclGroupAttr → AclTableGroup →
    Status × AclTableGroup
  | _, [], group => (.success, group)
  | list_idx, attr :: attr_list, group =>
    let x := aclTableGroupAttrSet env group attr
    if x.1 ≠ .success then (getIndexedRetVal x.1 list_idx, x.2)
    else aclTableGroupAttrsSet env (list_idx + 1) attr_list x.2

/-- `sai_acl_table_group_parse_update_attributes` -/
def aclTableGroupParseUpdateAttributes (group : AclTableGroup)
    (attr_list : List AclGroupAttr) (op_type : SaiOp) : Status × AclTableGroup :=
  let sai_rc := env.validate_group op_type attr_list
  if sai_rc ≠ .success then (sai_rc, group)
  else if op_type ≠ .get then aclTableGroupAttrsSet env 0 attr_list group
  else (.success, group)

/-- `sai_acl_table_group_id_create` -/
def aclTableGroupIdCreate (db : AclDb) : Option Oid :=
  (env.group_id_gen.next fun n => (db.group_tree (uoidCreate .aclTableGroup n)).isSome).map
    (uoidCreate .aclTableGroup)

/-- `sai_acl_table_group_create` -/
def aclTableGroupCreate (attr_list : List AclGroupAttr) (db : AclDb) : Status × AclDb :=
  if !env.avail .groupNode then (.noMemory, db)
  else
    let x := aclTableGroupParseUpdateAttributes env .zero attr_list .create
    if x.1 ≠ .success then (x.1, db)
    else
      match aclTableGroupIdCreate env db with
      | none => (.failure, db)
      | some acl_table_group_id =>
        if !env.avail .groupTree then (.failure, db)
        else
          (.success, { db with
            group_tree := fun g =>
              if g = acl_table_group_id then some { x.2 with table_list_head := [] }
              else db.group_tree g })

/-- `sai_acl_table_group_delete` -/
def aclTableGroupDelete (acl_table_group_id : Oid) (db : AclDb) : Status × AclDb :=
  match db.group_tree acl_table_group_id with
  | none => (.invalidObjectId, db)
  | some group =>
    if group.table_list_head ≠ [] then (.objectInUse, db)
    else
      (.success, { db with
        group_tree := fun g => if g = acl_table_group_id then none else db.group_tree g })

/-- `sai_acl_table_group_attribute_set`: the attribute is tried on a scratch group first. -/
def aclTableGroupAttributeSet (acl_table_group_id : Oid) (attr : AclGroupAttr)
    (db : AclDb) : Status × AclDb :=
  match db.group_tree acl_table_group_id with
  | none => (.invalidObjectId, db)
  | some group =>
    let x := aclTableGroupParseUpdateAttributes env .zero [attr] .set
    if x.1 ≠ .success then (x.1, db)
    else
      let y := aclTableGroupAttrSet env group attr
      (y.1, db.modGroup acl_table_group_id fun _ => y.2)

/-! ## Members -/

/-- A member after `calloc`. -/
def AclTableGroupMember.zero : AclTableGroupMember := ⟨.null, .null, .null, 0⟩

/-- `sai_acl_table_group_member_attr_set` -/
def aclTableGroupMemberAttrSet (member : AclTableGroupMember) (attr : AclMemberAttr) :
    Status × AclTableGroupMember :=
  match attr with
  | .tableGroupId oid => (.success, { member with acl_group_id := oid })
  | .tableId oid => (.success, { member with acl_table_id := oid })
  | .priority u32 => (.success, { member with priority := u32 })
  | .other _ => (.unknownAttribute 0, member)

/-- The loop of `sai_acl_table_group_member_parse_update_attributes`. -/
def aclTableGroupMemberAttrsSet : Nat → List AclMemberAttr → AclTableGroupMember →
    Status × AclTableGroupMember
  | _, [], member => (.success, member)
  | list_idx, attr :: attr_list, member =>
    let x := aclTableGroupMemberAttrSet member attr
    if x.1 ≠ .success then (getIndexedRetVal x.1 list_idx, x.2)
    else aclTableGroupMemberAttrsSet (list_idx + 1) attr_list x.2

/-- `sai_acl_table_group_member_parse_update_attributes` -/
def aclTableGroupMemberParseUpdateAttributes (member : AclTableGroupMember)
    (attr_list : List AclMemberAttr) (op_type : SaiOp) : Status × AclTableGroupMember :=
  let sai_rc := env.validate_member op_type attr_list
  if sai_rc ≠ .success then (sai_rc, member)
  else if op_type ≠ .get then aclTableGroupMemberAttrsSet 0 attr_list member
  else (.success, member)

/-- `sai_acl_table_group_member_find`: a member that was freed has no id to be found by. -/
def memberFind (member_id : Oid) (db : AclDb) : Option (Ptr × AclTableGroupMember) :=
  match db.member_tree member_id with
  | none => none
  | some p => (db.members.get p).map fun member => (p, member)

/-- `sai_acl_table_group_member_id_create` -/
def aclTableGroupMemberIdCreate (db : AclDb) : Option Oid :=
  (env.member_id_gen.next fun n => (memberFind (uoidCreate .aclTableGroupMember n) db).isSome).map
    (uoidCreate .aclTableGroupMember)

/-- `sai_acl_table_group_table_id_update` -/
def aclTableGroupTableIdUpdate (acl_group_id : Oid) (p : Ptr) (is_add : Bool)
    (db : AclDb) : Status × AclDb :=
  match db.group_tree acl_group_id with
  | none => (.invalidObjectId, db)
  | some _ =>
    (.success, db.modGroup acl_group_id fun group =>
      { group with table_list_head :=
          if is_add then group.table_list_head ++ [p]
          else aclDllRemove env p group.table_list_head })

/-- `sai_acl_table_group_member_free` -/
def memberFree (p : Ptr) (db : AclDb) : AclDb := { db with members := db.members.free p }

/-- `sai_acl_table_group_member_create`. The member is in the tree before its table and its group
are looked up, and a failure frees it without taking it out again. -/
def aclTableGroupMemberCreate (attr_list : List AclMemberAttr) (db : AclDb) : Status × AclDb :=
  if !env.avail .memberNode then (.noMemory, db)
  else
    let p := db.members.next
    let x := aclTableGroupMemberParseUpdateAttributes env .zero attr_list .create
    let db := { db with members := db.members.alloc x.2 }
    if x.1 ≠ .success then (x.1, memberFree p db)
    else
      match aclTableGroupMemberIdCreate env db with
      | none => (.failure, memberFree p db)
      | some member_id =>
        let member := { x.2 with acl_table_group_member_id := member_id }
        let db := db.modMember p fun _ => member
        if !env.avail .memberTree then (.failure, memberFree p db)
        else
          let db := { db with
            member_tree := fun m => if m = member_id then some p else db.member_tree m }
          match db.table_tree member.acl_table_id with
          | none => (.invalidObjectId, memberFree p db)
          | some _ =>
            -- the priority of the member is that of the table in the NPU
            let db := db.modTable member.acl_table_id fun table =>
              { table with acl_table_priority := member.priority }
            let y := aclTableGroupTableIdUpdate env member.acl_group_id p true db
            if y.1 ≠ .success then (y.1, memberFree p y.2) else y

/-- `sai_acl_table_group_member_delete`. The member has left the tree when its group is looked
up, and is not freed when there is no such group. -/
def aclTableGroupMemberDelete (member_id : Oid) (db : AclDb) : Status × AclDb :=
  match memberFind member_id db with
  | none => (.invalidObjectId, db)
  | some (p, member) =>
    let db := { db with member_tree := fun m => if m = member_id then none else db.member_tree m }
    let y := aclTableGroupTableIdUpdate env member.acl_group_id p false db
    if y.1 ≠ .success then y else (.success, memberFree p y.2)

/-- `sai_acl_table_group_member_attribute_set`: the attribute is tried on a scratch member, and
then it is written to the member and to nothing else. -/
def aclTableGroupMemberAttributeSet (member_id : Oid) (attr : AclMemberAttr)
    (db : AclDb) : Status × AclDb :=
  match memberFind member_id db with
  | none => (.invalidObjectId, db)
  | some (p, member) =>
    let x := aclTableGroupMemberParseUpdateAttributes env .zero [attr] .set
    if x.1 ≠ .success then (x.1, db)
    else
      let y := aclTableGroupMemberAttrSet member attr
      (y.1, db.modMember p fun _ => y.2)

/-! ## The system -/

inductive AclGroupOp where
  | groupCreate (attr_list : List AclGroupAttr)
  | groupDelete (acl_table_group_id : Oid)
  | groupSet (acl_table_group_id : Oid) (attr : AclGroupAttr)
  | memberCreate (attr_list : List AclMemberAttr)
  | memberDelete (member_id : Oid)
  | memberSet (member_id : Oid) (attr : AclMemberAttr)

structure AclGroupOpCall where
  env : AclEnv
  op : AclGroupOp

def aclGroupExec (c : AclGroupOpCall) (db : AclDb) : Status × AclDb :=
  match c.op with
  | .groupCreate attr_list => aclTableGroupCreate c.env attr_list db
  | .groupDelete gid => aclTableGroupDelete gid db
  | .groupSet gid attr => aclTableGroupAttributeSet c.env gid attr db
  | .memberCreate attr_list => aclTableGroupMemberCreate c.env attr_list db
  | .memberDelete mid => aclTableGroupMemberDelete c.env mid db
  | .memberSet mid attr => aclTableGroupMemberAttributeSet c.env mid attr db

def aclGroupStep (c : AclGroupOpCall) (db : AclDb) : AclDb := (aclGroupExec c db).2

end OpxSai
