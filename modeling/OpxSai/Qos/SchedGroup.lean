import OpxSai.Qos.Queue

/-!
# Scheduler groups

A scheduler group is on the list of its port for its level, under a parent, and on the list of its
scheduler. The first group that an application makes on a port takes the default hierarchy down.
-/

variable (env : SchedEnv)

namespace OpxSai

open SchedDb

/-! ## Nodes -/

/-- `sai_qos_sched_group_node_init`, of a node of zeros. -/
def schedGroupNodeInit : SchedGroup where
  port_id := .null
  hierarchy_level := 0
  scheduler_id := .null
  max_childs := env.max_hierarchy_node_childs
  parent_id := .null
  child_count := 0
  childs := []
  freed := false

/-- One attribute of `sai_qos_sched_group_attr_set`. -/
def schedGroupAttrStore (node : SchedGroup) : SchedGroupAttr → SchedGroup
  | .portId oid => { node with port_id := oid }
  | .level u32 => { node with hierarchy_level := u32 }
  | .schedulerProfileId oid => { node with scheduler_id := oid }
  | .maxChilds u32 => { node with max_childs := u32 }
  | .parentNode oid => { node with parent_id := oid }
  | .readOnly _ => node

/-- `sai_qos_sched_group_attr_set` -/
def schedGroupAttrSet (attr_list : List SchedGroupAttr) (node : SchedGroup) : SchedGroup :=
  attr_list.foldl schedGroupAttrStore node

/-- The object that an attribute names is there. A parent is a group or a port, on any port and of any
level. -/
def schedGroupAttrValid (db : SchedDb) : SchedGroupAttr → Bool
  | .portId oid => oid != .null && (db.qos_ports oid).isSome
  | .schedulerProfileId oid => oid == .null || (db.schedulers oid).isSome
  | .parentNode oid =>
    oid == .null || (oid.type == .schedulerGroup && (db.sched_groups oid).isSome) ||
      (oid.type == .port && (db.qos_ports oid).isSome)
  | _ => true

/-- The loop of `sai_qos_sched_group_attributes_validate`. -/
def schedGroupAttrsValidate (db : SchedDb) : Nat → List SchedGroupAttr → Status
  | _, [] => .success
  | list_index, attr :: attr_list =>
    if schedGroupAttrValid db attr = false then getIndexedRetVal (.invalidAttrValue 0) list_index
    else schedGroupAttrsValidate db (list_index + 1) attr_list

/-- `sai_qos_sched_group_attributes_validate` -/
def schedGroupAttributesValidate (attr_list : List SchedGroupAttr) (op_type : QosOp)
    (db : SchedDb) : Status :=
  if attr_list = [] then .invalidParameter
  else if env.sched_group_validate op_type attr_list ≠ .success then
    env.sched_group_validate op_type attr_list
  else if op_type = .get then .success
  else schedGroupAttrsValidate db 0 attr_list

/-- `sai_qos_port_sched_group_list_update` -/
def portSchedGroupListUpdate (sg_id port_id : Oid) (level : Nat) (is_add : Bool) (db : SchedDb) :
    Status × SchedDb :=
  match db.qos_ports port_id with
  | none => (.invalidObjectId, db)
  | some _ =>
    (.success, setQosPort port_id (fun port =>
      { port with sched_groups := fun l =>
          if l = level then
            (if is_add = true then port.sched_groups l ++ [sg_id] else (port.sched_groups l).erase sg_id)
          else port.sched_groups l }) db)

/-! ## Remove -/

/-- `sai_qos_sched_group_remove_configs` -/
def schedGroupRemoveConfigs (sg_id : Oid) (node : SchedGroup) (db : SchedDb) : Status × SchedDb :=
  if node.hierarchy_level = 0 ∨ keepsUsers db node.scheduler_id = false then (.success, db)
  else
    let set := schedGroupSchedulerSet env sg_id node.scheduler_id .null db
    if set.1 ≠ .success then
      let now := (set.2.sched_groups sg_id).elim .null SchedGroup.scheduler_id
      (set.1, (schedGroupSchedulerSet env sg_id now node.scheduler_id set.2).2)
    else (.success, set.2)

def schedGroupDetach (sg_id : Oid) (node : SchedGroup) (db : SchedDb) : Status × SchedDb :=
  if node.hierarchy_level = 0 then (.success, db)
  else
    let detached := db.call env (.schedGroupDetachFromParent sg_id)
    if detached.1 ≠ .success then detached
    else detached.2.call env (.childNodesUpdate node.parent_id sg_id false)

def schedGroupNodeRemove (sg_id : Oid) (node : SchedGroup) (db : SchedDb) : SchedDb :=
  let left := (portSchedGroupListUpdate sg_id node.port_id node.hierarchy_level false db).2
  { left with sched_groups := fun o => if o = sg_id then none else left.sched_groups o }

/-- `sai_qos_sched_group_remove_internal` -/
def schedGroupRemove (env : SchedEnv) (sg_id : Oid) (db : SchedDb) : Status × SchedDb :=
  if sg_id.type ≠ .schedulerGroup then (.invalidObjectType, db)
  else
    match db.sched_groups sg_id with
    | none => (.invalidObjectId, db)
    | some node =>
      if 0 < node.child_count then (.objectInUse, db)
      else
        let configs := schedGroupRemoveConfigs env sg_id node db
        if configs.1 ≠ .success then configs
        else
          let detached := schedGroupDetach env sg_id node configs.2
          if detached.1 ≠ .success then detached
          else
            let removed := detached.2.call env (.schedGroupRemove sg_id)
            if removed.1 ≠ .success then removed
            else (.success, schedGroupNodeRemove sg_id node removed.2)

/-! ## The hierarchy of a port -/

/-- A list is removed from its front, up to the first object that stays. -/
def removeEach (remove : Oid → SchedDb → Status × SchedDb) : List Oid → SchedDb → Status × SchedDb
  | [], db => (.success, db)
  | o :: os, db =>
    let removed := remove o db
    if removed.1 ≠ .success then removed else removeEach remove os removed.2

def queuesOf (db : SchedDb) (port_id : Oid) : List Oid :=
  (db.qos_ports port_id).elim [] SchedPort.queues

def schedGroupsOf (db : SchedDb) (port_id : Oid) (level : Nat) : List Oid :=
  (db.qos_ports port_id).elim [] fun port => port.sched_groups level

/-- `sai_qos_leaf_level_hierarchy_remove` and `sai_qos_port_queue_all_deinit` -/
def leafLevelHierarchyRemove (port_id : Oid) (db : SchedDb) : Status × SchedDb :=
  if (db.qos_ports port_id).isSome = false then (.invalidObjectId, db)
  else removeEach (queueRemove env) (queuesOf db port_id) db

/-- The levels of `sai_qos_non_leaf_level_hierarchy_remove`, downwards. -/
def schedGroupLevelsRemove (env : SchedEnv) (port_id : Oid) : Nat → SchedDb → Status × SchedDb
  | 0, db => (.success, db)
  | level + 1, db =>
    let removed := removeEach (schedGroupRemove env) (schedGroupsOf db port_id level) db
    if removed.1 ≠ .success then removed
    else schedGroupLevelsRemove env port_id level removed.2

/-- `sai_qos_non_leaf_level_hierarchy_remove` -/
def nonLeafLevelHierarchyRemove (port_id : Oid) (db : SchedDb) : Status × SchedDb :=
  if (db.qos_ports port_id).isSome = false then (.invalidObjectId, db)
  else schedGroupLevelsRemove env port_id (env.leaf_hierarchy_level + 1) db

/-- `sai_qos_hierarchy_remove`, which is `sai_qos_port_hierarchy_deinit` -/
def portHierarchyDeinit (port_id : Oid) (db : SchedDb) : Status × SchedDb :=
  let leaves := leafLevelHierarchyRemove env port_id db
  if leaves.1 ≠ .success then leaves else nonLeafLevelHierarchyRemove env port_id leaves.2

/-- `sai_qos_sched_group_port_attribute_get` -/
def schedGroupPortAttributeGet : List SchedGroupAttr → Option Oid
  | [] => none
  | .portId oid :: _ => some oid
  | _ :: attr_list => schedGroupPortAttributeGet attr_list

/-- `sai_qos_port_hierarchy_update_on_first_application_sched_group` -/
def portHierarchyUpdateOnFirst (port_id : Oid) (db : SchedDb) : Status × SchedDb :=
  if env.is_init_complete = false then (.success, db)
  else
    match db.qos_ports port_id with
    | none => (.invalidObjectId, db)
    | some port =>
      if port.is_app_hqos_init = true then (.success, db)
      else
        let deinit := portHierarchyDeinit env port_id db
        if deinit.1 ≠ .success then deinit
        else (.success, setQosPort port_id (fun p => { p with is_app_hqos_init := true }) deinit.2)

/-- `sai_qos_port_application_sched_group_handle` -/
def portApplicationSchedGroupHandle (attr_list : List SchedGroupAttr) (db : SchedDb) :
    Status × SchedDb :=
  match schedGroupPortAttributeGet attr_list with
  | none => (.failure, db)
  | some port_id =>
    let got := db.call env (.hqosInitStatusGet port_id)
    if got.1 ≠ .success then got
    else if env.hqos_init_started port_id = true then (.success, got.2)
    else portHierarchyUpdateOnFirst env port_id got.2

/-! ## Create -/

def putSchedGroup (sg_id : Oid) (node : SchedGroup) (db : SchedDb) : SchedDb :=
  { db with sched_groups := fun o => if o = sg_id then some node else db.sched_groups o }

/-- `sai_qos_sched_group_free_resources`: what the NPU answers is dropped. A node that is in the tree
stays there. -/
def schedGroupFreeResources (sg_id : Oid) (node : SchedGroup)
    (in_tree set_in_npu set_in_port_list add_to_parent : Bool) (db : SchedDb) : SchedDb :=
  let db :=
    if add_to_parent = true then
      let detached := db.call env (.schedGroupDetachFromParent sg_id)
      let parent_id := ((detached.2.sched_groups sg_id).getD node).parent_id
      (detached.2.call env (.childNodesUpdate parent_id sg_id false)).2
    else db
  let db := if set_in_npu = true then (db.call env (.schedGroupRemove sg_id)).2 else db
  let db := if set_in_port_list = true then
    (portSchedGroupListUpdate sg_id node.port_id node.hierarchy_level false db).2 else db
  if in_tree = true then setSchedGroup sg_id (fun n => { n with freed := true }) db else db

/-- What a create does once the node is in the tree: a group of the first level has no parent to go
under. -/
def schedGroupCreateInTree (sg_id : Oid) (node : SchedGroup) (db : SchedDb) : Status × SchedDb :=
  if node.hierarchy_level = 0 ∧ env.is_hierarchy_qos_supported = true then (.success, db)
  else
    let attached := db.call env (.schedGroupAttachToParent sg_id node.parent_id)
    if attached.1 ≠ .success then
      (attached.1, schedGroupFreeResources env sg_id node true true true false attached.2)
    else
      let linked := attached.2.call env (.childNodesUpdate node.parent_id sg_id true)
      if linked.1 ≠ .success then
        (linked.1, schedGroupFreeResources env sg_id node true true true true linked.2)
      else
        let scheduled := schedGroupSchedulerSet env sg_id .null node.scheduler_id
          (setSchedGroup sg_id (fun n => { n with scheduler_id := .null }) linked.2)
        if scheduled.1 ≠ .success then
          (scheduled.1, schedGroupFreeResources env sg_id node true true true true scheduled.2)
        else scheduled

/-- What a create does once the port is ready for it. -/
def schedGroupCreateNode (attr_list : List SchedGroupAttr) (db : SchedDb) : Status × Oid × SchedDb :=
  let alloc := db.call env .schedGroupAlloc
  if alloc.1 ≠ .success then (.noMemory, .null, alloc.2)
  else
    let bitmap := alloc.2.call env (.schedGroupBitmap env.max_hierarchy_node_childs)
    if bitmap.1 ≠ .success then (.noMemory, .null, bitmap.2)
    else
      let node := schedGroupAttrSet attr_list (schedGroupNodeInit env)
      let sg_id := bitmap.2.newId env .schedulerGroup
      let created := bitmap.2.call env (.schedGroupCreate node)
      if created.1 ≠ .success then (created.1, .null, created.2)
      else
        let listed := portSchedGroupListUpdate sg_id node.port_id node.hierarchy_level true created.2
        if listed.1 ≠ .success then
          (listed.1, .null, schedGroupFreeResources env sg_id node false true false false listed.2)
        else
          let inserted := listed.2.call env (.schedGroupInsert sg_id)
          if inserted.1 ≠ .success ∨ (inserted.2.sched_groups sg_id).isSome = true then
            (.failure, .null, schedGroupFreeResources env sg_id node false true true false inserted.2)
          else
            let made := schedGroupCreateInTree env sg_id node (putSchedGroup sg_id node inserted.2)
            (made.1, if made.1 = .success then sg_id else .null, made.2)

/-- `sai_qos_sched_group_create_internal`, and the id it hands out -/
def schedGroupCreate (attr_list : List SchedGroupAttr) (db : SchedDb) : Status × Oid × SchedDb :=
  let valid := schedGroupAttributesValidate env attr_list .create db
  if valid ≠ .success then (valid, .null, db)
  else
    let handled := portApplicationSchedGroupHandle env attr_list db
    if handled.1 ≠ .success then (handled.1, .null, handled.2)
    else schedGroupCreateNode env attr_list handled.2

/-- `sai_qos_sched_group_create_api` -/
def schedGroupCreateApi (attr_list : List SchedGroupAttr) (db : SchedDb) : Status × SchedDb :=
  if env.is_fixed_hierarchy_qos = true then (.notSupported, db)
  else
    let created := schedGroupCreate env attr_list db
    (created.1, created.2.2)

/-- `sai_qos_sched_group_remove_api` -/
def schedGroupRemoveApi (sg_id : Oid) (db : SchedDb) : Status × SchedDb :=
  if env.is_fixed_hierarchy_qos = true then (.notSupported, db) else schedGroupRemove env sg_id db

/-- `sai_qos_port_sched_group_create` -/
def portSchedGroupCreate (port_id parent_id : Oid) (level max_childs : Nat)
    (db : SchedDb) : Status × Oid × SchedDb :=
  schedGroupCreate env
    [.portId port_id, .level level, .maxChilds max_childs, .schedulerProfileId db.default_sched_id,
      .parentNode parent_id] db

/-! ## Set -/

/-- `sai_qos_sched_group_is_duplicate_set` -/
def schedGroupIsDuplicateSet (node : SchedGroup) : SchedGroupAttr → Bool
  | .parentNode oid => node.parent_id == oid
  | .schedulerProfileId oid => node.scheduler_id == oid
  | _ => false

/-- `sai_qos_sched_group_modify_parent` -/
def schedGroupModifyParent (env : SchedEnv) (sg_id : Oid) (node : SchedGroup) (new_parent_id : Oid)
    (db : SchedDb) : Status × SchedDb :=
  let moved := db.call env (.schedGroupModifyParent sg_id new_parent_id)
  if moved.1 ≠ .success then moved
  else
    let left := moved.2.call env (.childNodesUpdate node.parent_id sg_id false)
    if left.1 ≠ .success then left
    else left.2.call env (.childNodesUpdate new_parent_id sg_id true)

/-- The cases of `sai_qos_sched_group_attribute_set`. -/
def schedGroupAttributeApply (sg_id : Oid) (node : SchedGroup) (attr : SchedGroupAttr)
    (db : SchedDb) : Status × SchedDb :=
  match attr with
  | .parentNode oid => schedGroupModifyParent env sg_id node oid db
  | .schedulerProfileId oid => schedGroupSchedulerSet env sg_id node.scheduler_id oid db
  | _ => (.success, db)

/-- `sai_qos_sched_group_attribute_set`: the attribute is stored as it was given. -/
def schedGroupAttributeSet (sg_id : Oid) (attr : SchedGroupAttr) (db : SchedDb) : Status × SchedDb :=
  if sg_id.type ≠ .schedulerGroup then (.invalidObjectType, db)
  else
    match db.sched_groups sg_id with
    | none => (.invalidObjectId, db)
    | some node =>
      let valid := schedGroupAttributesValidate env [attr] .set db
      if valid ≠ .success then (valid, db)
      else if schedGroupIsDuplicateSet node attr = true then (.success, db)
      else
        let applied := schedGroupAttributeApply env sg_id node attr db
        if applied.1 ≠ .success then applied
        else (.success, setSchedGroup sg_id (fun n => schedGroupAttrStore n attr) applied.2)

end OpxSai
