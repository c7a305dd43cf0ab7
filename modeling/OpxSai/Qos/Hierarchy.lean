import OpxSai.Qos.SchedGroup

/-!
# The default hierarchy of a port

A configuration describes the groups of each level with their children: groups of a level further down,
and queues. It is read into tables, and each port gets a hierarchy after these.

The groups of a level are told apart by their indexes in the configuration, by their places in the
tables, and by their places on the list of the port: here one is taken for another.
-/

namespace OpxSai

open SchedDb

/-! ## The configuration -/

/-- A child of a group in the configuration: a group, a queue, or a node of another name. -/
inductive HqosChildNode where
  | schedGroup (level index : Nat)
  | queue (queue_number : Nat) (queue_type : QueueType)
  | other
deriving DecidableEq

structure HqosGroupNode where
  index : Nat
  num_child : Nat
  childs : List HqosChildNode
deriving DecidableEq

structure HqosLevelNode where
  level : Nat
  num_sched_grps : Nat
  groups : List HqosGroupNode
deriving DecidableEq

structure HqosConfig where
  num_levels : Nat
  levels : List HqosLevelNode
deriving DecidableEq

/-! ## The tables -/

/-- `CHILD_TYPE_SCHEDULER` and `CHILD_TYPE_QUEUE`; a child that was not written has none of them. -/
inductive HqosChildType where
  | scheduler | queue | unset
deriving DecidableEq

/-- `dn_sai_qos_child_info_t` -/
structure HqosChild where
  type : HqosChildType
  queue_type : QueueType
  level : Nat
  child_index : Nat
deriving DecidableEq

/-- `dn_sai_qos_sched_grp_info_t`; no table of children is `none`. -/
structure HqosGroup where
  node_id : Nat
  num_children : Nat
  child_info : Option (List HqosChild)
deriving DecidableEq

/-- `dn_sai_qos_level_info_t` -/
structure HqosLevel where
  level : Nat
  num_sg_groups : Nat
  sg_info : List HqosGroup
deriving DecidableEq

/-- `dn_sai_qos_hierarchy_t` -/
structure Hqos where
  level_info : List HqosLevel
deriving DecidableEq

/-- What `calloc` leaves. -/
def HqosChild.zero : HqosChild := ⟨.unset, .all, 0, 0⟩
def HqosGroup.zero : HqosGroup := ⟨0, 0, none⟩
def HqosLevel.zero : HqosLevel := ⟨0, 0, []⟩

/-- The entry of a group. A place that is in no table is `none`. -/
def Hqos.group? (hqos : Hqos) (level index : Nat) : Option HqosGroup :=
  (hqos.level_info[level]?).bind fun info => info.sg_info[index]?

/-! ## Reading -/

/-- How the allocator answers for the tables. -/
structure HqosAlloc where
  levels : Nat → Bool
  groups : Nat → Bool
  childs : Nat → Bool

def HqosAlloc.good : HqosAlloc := ⟨fun _ => true, fun _ => true, fun _ => true⟩

/-- What a child of the configuration writes to its entry. A queue leaves the level. -/
def HqosChildNode.write (child : HqosChild) : HqosChildNode → HqosChild
  | .schedGroup level index => { child with level := level, child_index := index, type := .scheduler }
  | .queue queue_number queue_type =>
    { child with queue_type := queue_type, child_index := queue_number, type := .queue }
  | .other => child

/-- `sai_qos_child_info_update`, from an entry on. A write outside of the table is `none`. -/
def childInfoUpdate (max_child_count : Nat) :
    Nat → List HqosChildNode → List HqosChild → Option (List HqosChild)
  | _, [], table => some table
  | num_child_count, child :: childs, table =>
    if max_child_count ≤ num_child_count then some table
    else if child = .other then childInfoUpdate max_child_count (num_child_count + 1) childs table
    else if table.length ≤ num_child_count then none
    else
      childInfoUpdate max_child_count (num_child_count + 1) childs
        (table.modify num_child_count fun entry => child.write entry)

/-- `sai_qos_sg_info_update`, from a group on: the place of the group has the table of the children, and
its index tells which table is checked and filled. -/
def sgInfoUpdate (alloc : HqosAlloc) (max_scheduler_groups : Nat) :
    Nat → List HqosGroupNode → List HqosGroup → Option (Status × List HqosGroup)
  | _, [], sg_info => some (.success, sg_info)
  | num_scheduler_groups, group :: groups, sg_info =>
    if max_scheduler_groups ≤ num_scheduler_groups then some (.success, sg_info)
    else
      let child_info :=
        if alloc.childs group.num_child = true then
          some (List.replicate group.num_child HqosChild.zero)
        else none
      let allocated := sg_info.modify num_scheduler_groups fun info =>
        { info with child_info := child_info }
      match allocated[group.index]? with
      | none => none
      | some checked =>
        if checked.child_info.isSome = false then some (.noMemory, allocated)
        else
          let named := allocated.modify num_scheduler_groups fun info =>
            { info with node_id := group.index, num_children := group.num_child }
          match childInfoUpdate group.num_child 0 group.childs (checked.child_info.getD []) with
          | none => none
          | some table =>
            sgInfoUpdate alloc max_scheduler_groups (num_scheduler_groups + 1) groups
              (named.modify group.index fun info => { info with child_info := some table })

/-- The loop of `sai_qos_hierarchy_handler` over the levels. -/
def levelInfoUpdate (alloc : HqosAlloc) :
    List HqosLevelNode → List HqosLevel → Option (Status × List HqosLevel)
  | [], level_info => some (.success, level_info)
  | node :: nodes, level_info =>
    if level_info.length ≤ node.level then none
    else if alloc.groups node.num_sched_grps = false then some (.noMemory, level_info)
    else
      match sgInfoUpdate alloc node.num_sched_grps 0 node.groups
          (List.replicate node.num_sched_grps HqosGroup.zero) with
      | none => none
      | some (rc, sg_info) =>
        let updated := level_info.set node.level ⟨node.level, node.num_sched_grps, sg_info⟩
        if rc ≠ .success then some (rc, updated) else levelInfoUpdate alloc nodes updated

/-- `sai_qos_hierarchy_handler`: what was read before a failure is given back. An access outside of a
table is `none`. -/
def hierarchyHandler (alloc : HqosAlloc) (config : HqosConfig) : Option (Status × Hqos) :=
  if config.num_levels = 0 then some (.success, ⟨[]⟩)
  else if alloc.levels config.num_levels = false then some (.noMemory, ⟨[]⟩)
  else
    (levelInfoUpdate alloc config.levels (List.replicate config.num_levels HqosLevel.zero)).map
      fun read => if read.1 ≠ .success then (read.1, ⟨[]⟩) else (.success, ⟨read.2⟩)

/-! ## The hierarchy of a port -/

/-- The two counters of queues, each a `uint8_t`, and the state. -/
structure HqosBuild where
  uc_queue_id : Nat
  mc_queue_id : Nat
  db : SchedDb

def HqosBuild.queueIndex (build : HqosBuild) (queue_type : QueueType) : Nat :=
  if queue_type = .unicast then build.uc_queue_id else build.mc_queue_id

/-- The counters after a queue of a type. -/
def HqosBuild.counted (build : HqosBuild) (queue_type : QueueType) (db : SchedDb) : HqosBuild where
  uc_queue_id :=
    if queue_type = .unicast then (build.uc_queue_id + 1) % 2 ^ 8 else build.uc_queue_id
  mc_queue_id :=
    if queue_type = .multicast then (build.mc_queue_id + 1) % 2 ^ 8 else build.mc_queue_id
  db := db

section Create

variable (env : SchedEnv) (port_id : Oid) (hqos : Hqos)

/-- One child of `sai_qos_port_hierarchy_create`. -/
def hierarchyChildCreate (parent_sg_id : Oid) (child : HqosChild) (build : HqosBuild) :
    Option (Status × HqosBuild) :=
  match child.type with
  | .scheduler =>
    (hqos.group? child.level child.child_index).map fun info =>
      let created :=
        portSchedGroupCreate env port_id parent_sg_id child.level info.num_children build.db
      (created.1, { build with db := created.2.2 })
  | .queue =>
    let created := portQueueCreate env port_id child.queue_type (build.queueIndex child.queue_type)
      parent_sg_id build.db
    some (created.1, if created.1 ≠ .success then { build with db := created.2.2 }
      else build.counted child.queue_type created.2.2)
  | .unset => some (.success, build)

def hierarchyChildsCreate (parent_sg_id : Oid) : List HqosChild → HqosBuild → Option (Status × HqosBuild)
  | [], build => some (.success, build)
  | child :: childs, build =>
    match hierarchyChildCreate env port_id hqos parent_sg_id child build with
    | none => none
    | some (rc, build) =>
      if rc ≠ .success then some (rc, build) else hierarchyChildsCreate parent_sg_id childs build

/-- `sai_qos_indexed_sched_group_id_get` -/
def indexedSchedGroupIdGet (db : SchedDb) (level child_idx : Nat) : Status × Oid :=
  if (db.qos_ports port_id).isSome = false then (.invalidObjectId, .null)
  else
    match (schedGroupsOf db port_id level)[child_idx]? with
    | none => (.failure, .null)
    | some sg_id => (.success, sg_id)

/-- The group of an entry: it is created at the first level, and is found on the list of the port below
it. -/
def hierarchyGroupGet (level : Nat) (info : HqosGroup) (db : SchedDb) : Status × Oid × SchedDb :=
  if level = 0 then portSchedGroupCreate env port_id port_id level info.num_children db
  else
    let got := indexedSchedGroupIdGet port_id db level info.node_id
    (got.1, got.2, db)

def hierarchyGroupCreate (level : Nat) (info : HqosGroup) (build : HqosBuild) :
    Option (Status × HqosBuild) :=
  let got := hierarchyGroupGet env port_id level info build.db
  if got.1 ≠ .success then some (got.1, { build with db := got.2.2 })
  else
    let childs := (info.child_info.getD []).take info.num_children
    if childs.length < info.num_children then none
    else hierarchyChildsCreate env port_id hqos got.2.1 childs { build with db := got.2.2 }

def hierarchyGroupsCreate (level : Nat) : List HqosGroup → HqosBuild → Option (Status × HqosBuild)
  | [], build => some (.success, build)
  | info :: infos, build =>
    match hierarchyGroupCreate env port_id hqos level info build with
    | none => none
    | some (rc, build) =>
      if rc ≠ .success then some (rc, build) else hierarchyGroupsCreate level infos build

def hierarchyLevelsCreate : Nat → Nat → HqosBuild → Option (Status × HqosBuild)
  | _, 0, build => some (.success, build)
  | level, levels + 1, build =>
    match hqos.level_info[level]? with
    | none => none
    | some info =>
      match hierarchyGroupsCreate env port_id hqos level (info.sg_info.take info.num_sg_groups) build with
      | none => none
      | some (rc, build) =>
        if rc ≠ .success then some (rc, build) else hierarchyLevelsCreate (level + 1) levels build

/-- `sai_qos_port_hierarchy_create`. An access outside of a table is `none`. -/
def portHierarchyCreate (db : SchedDb) : Option (Status × SchedDb) :=
  if (db.qos_ports port_id).isSome = false then some (.invalidObjectId, db)
  else
    (hierarchyLevelsCreate env port_id hqos 0 env.max_hierarchy_levels ⟨0, 0, db⟩).map
      fun created => (created.1, created.2.db)

end Create

end OpxSai
