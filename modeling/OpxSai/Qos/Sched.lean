import OpxSai.Qos.Wred

/-!
# Schedulers

The nodes of the scheduler hierarchy, what leaves the module for them, and schedulers themselves. A
scheduler has a list for each kind of object that uses it. Queues stay in the state of the buffers and
WREDs; what the hierarchy knows of a port or of a priority group is here.

What the NPU holds is in the state too: the parameters of the scheduler on each object, and the groups,
queues and priority groups that are there.
-/

variable (env : SchedEnv)

namespace OpxSai

/-! ## Nodes -/

inductive SchedUser where
  | queue | schedGroup | port
deriving DecidableEq

structure SchedParams where
  scheduler_id : Oid
  sched_algo : Int
  weight : Nat
  shape_type : Int
  min_bandwidth_rate : Nat
  min_bandwidth_burst : Nat
  max_bandwidth_rate : Nat
  max_bandwidth_burst : Nat
deriving DecidableEq

/-- `dn_sai_qos_scheduler_t`: `users` is its three lists. -/
structure Scheduler extends SchedParams where
  users : SchedUser → List Oid

/-- `sai_attribute_t` of a scheduler. -/
inductive SchedulerAttr where
  | schedulingType (s32 : Int)
  | schedulingWeight (u8 : Nat)
  | meterType (s32 : Int)
  | minBandwidthRate (u64 : Nat)
  | minBandwidthBurstRate (u64 : Nat)
  | maxBandwidthRate (u64 : Nat)
  | maxBandwidthBurstRate (u64 : Nat)
  | readOnly (id : Nat)
deriving DecidableEq

/-- `dn_sai_qos_sched_group_t` with its `hqos_info`: the children are in one list, by id. A node that was
given back and is in the tree all the same is `freed`. -/
structure SchedGroup where
  port_id : Oid
  hierarchy_level : Nat
  scheduler_id : Oid
  max_childs : Nat
  parent_id : Oid
  child_count : Nat
  childs : List Oid
  freed : Bool
deriving DecidableEq

/-- `sai_attribute_t` of a scheduler group. -/
inductive SchedGroupAttr where
  | portId (oid : Oid)
  | level (u32 : Nat)
  | schedulerProfileId (oid : Oid)
  | maxChilds (u32 : Nat)
  | parentNode (oid : Oid)
  | readOnly (id : Nat)
deriving DecidableEq

/-- `dn_sai_qos_port_t`, of which the hierarchy is used here. -/
structure SchedPort where
  scheduler_id : Oid
  is_app_hqos_init : Bool
  queues : List Oid
  sched_groups : Nat → List Oid
  pgs : List Oid

/-! ## What leaves the module -/

/-- The NPU library, the allocator, the trees, and the update of the children of a node. A
`scheduler_set` is marked when the roll-back of a scheduler asks for it. -/
inductive SchedCall where
  | schedulerAlloc | schedulerCreate (params : SchedParams) | schedulerRemove (sched_id : Oid)
  | schedulerInsert (sched_id : Oid)
  | schedulerAttributeSet (params : SchedParams) (attr : SchedulerAttr)
  | schedulerSet (object_id : Oid) (old : Option SchedParams) (new : SchedParams) (back : Bool)
  | schedGroupAlloc | schedGroupBitmap (max_childs : Nat)
  | schedGroupCreate (node : SchedGroup) | schedGroupRemove (sg_id : Oid)
  | schedGroupInsert (sg_id : Oid)
  | schedGroupAttachToParent (sg_id parent_id : Oid) | schedGroupDetachFromParent (sg_id : Oid)
  | schedGroupModifyParent (sg_id parent_id : Oid)
  | queueCreate (node : QosQueue) | queueRemove (queue_id : Oid) | queueInsert (queue_id : Oid)
  | queueAttachToParent (queue_id parent_id : Oid) | queueDetachFromParent (queue_id : Oid)
  | queueModifyParent (queue_id parent_id : Oid)
  | queueAttributeSet (queue_id : Oid) (attr : QueueAttr)
  | childNodesUpdate (parent_id child_id : Oid) (is_add : Bool)
  | hqosInitStatusGet (port_id : Oid)
  | portAlloc | portInit (port_id : Oid) | portGroupLists (port_id : Oid) | portDbInsert (port_id : Oid)
  | pgAlloc | pgCreate (port_id : Oid) (pg_idx : Nat) | pgDestroy (pg_id : Oid) | pgInsert (pg_id : Oid)

/-! ## The state -/

/-- The trees of the module with what the NPU holds, and the calls that left the module. -/
structure SchedDb where
  qos : QosDb
  schedulers : Oid → Option Scheduler
  sched_groups : Oid → Option SchedGroup
  qos_ports : Oid → Option SchedPort
  /-- The port of a priority group. -/
  pg_ports : Oid → Option Oid
  /-- `sai_qos_default_sched_id_get` -/
  default_sched_id : Oid
  hw_scheduler : Oid → Option SchedParams
  hw_sched_groups : Oid → Bool
  hw_queues : Oid → Bool
  hw_pgs : Oid → Bool
  sched_log : CallLog SchedCall

structure HqosTree where
  sched_groups : Oid → Option SchedGroup
  queues : Oid → Option QosQueue

namespace HqosTree

def setGroup (sg_id : Oid) (f : SchedGroup → SchedGroup) (tree : HqosTree) : HqosTree :=
  { tree with
    sched_groups := fun o =>
      if o = sg_id then (tree.sched_groups o).map f else tree.sched_groups o }

def setParent (child_id parent_id : Oid) (tree : HqosTree) : HqosTree where
  sched_groups := fun o =>
    if o = child_id then (tree.sched_groups o).map fun node => { node with parent_id := parent_id }
    else tree.sched_groups o
  queues := fun o =>
    if o = child_id then
      (tree.queues o).map fun node => { node with parent_sched_group_id := parent_id }
    else tree.queues o

def linkChild (parent_id child_id : Oid) (is_add : Bool) (tree : HqosTree) : HqosTree :=
  if is_add = true then
    setParent child_id parent_id <| setGroup parent_id (fun node =>
      { node with child_count := node.child_count + 1, childs := node.childs ++ [child_id] }) tree
  else
    setParent child_id .null <| setGroup parent_id (fun node =>
      { node with child_count := node.child_count - 1, childs := node.childs.erase child_id }) tree

end HqosTree

/-- How the outside answers during one call of the module. The ids that the NPU hands out depend on the
calls before. -/
structure SchedEnv where
  qos : QosEnv
  outside : Outside SchedCall
  hw_id : CallLog SchedCall → Nat
  /-- What `sai_qos_sched_group_and_child_nodes_update` does when it succeeds. -/
  child_nodes_update : Oid → Oid → Bool → HqosTree → HqosTree
  scheduler_is_hw_object : Bool
  /-- `sai_attribute_validate` against the tables of the NPU -/
  scheduler_validate : QosOp → List SchedulerAttr → Status
  sched_group_validate : QosOp → List SchedGroupAttr → Status
  /-- `SAI_QOS_SCHEDULER_DEFAULT_WEIGHT`, `SAI_QOS_SCHEDULER_DEFAULT_SHAPE_TYPE` and
  `SAI_SCHEDULING_TYPE_WRR` -/
  default_weight : Nat
  default_shape_type : Int
  scheduling_type_wrr : Int
  max_hierarchy_node_childs : Nat
  max_hierarchy_levels : Nat
  leaf_hierarchy_level : Nat
  is_init_complete : Bool
  /-- `sai_qos_port_hierarchy_init_from_application_status_get` -/
  hqos_init_started : Oid → Bool
  is_hierarchy_qos_supported : Bool
  is_fixed_hierarchy_qos : Bool
  num_pg : Nat

/-- An outside on which every call succeeds, and the tables of which take every attribute. -/
def SchedEnv.good : SchedEnv where
  qos := .good 0
  outside := fun _ _ => .success
  hw_id := fun log => log.length
  child_nodes_update := HqosTree.linkChild
  scheduler_is_hw_object := false
  scheduler_validate := fun _ _ => .success
  sched_group_validate := fun _ _ => .success
  default_weight := 1
  default_shape_type := 0
  scheduling_type_wrr := 1
  max_hierarchy_node_childs := 64
  max_hierarchy_levels := 3
  leaf_hierarchy_level := 2
  is_init_complete := false
  hqos_init_started := fun _ => false
  is_hierarchy_qos_supported := true
  is_fixed_hierarchy_qos := false
  num_pg := 2

def SchedEnv.answers (outside : Outside SchedCall) : SchedEnv :=
  { SchedEnv.good with outside := outside }

namespace SchedDb

def initial (default_sched_id : Oid) : SchedDb where
  qos := .initial
  schedulers := fun _ => none
  sched_groups := fun _ => none
  qos_ports := fun _ => none
  pg_ports := fun _ => none
  default_sched_id := default_sched_id
  hw_scheduler := fun _ => none
  hw_sched_groups := fun _ => false
  hw_queues := fun _ => false
  hw_pgs := fun _ => false
  sched_log := []

def tree (db : SchedDb) : HqosTree := ⟨db.sched_groups, db.qos.queues⟩

def setTree (tree : HqosTree) (db : SchedDb) : SchedDb :=
  { db with sched_groups := tree.sched_groups, qos := { db.qos with queues := tree.queues } }

def newId (db : SchedDb) (env : SchedEnv) (type : ObjType) : Oid :=
  uoidCreate type (env.hw_id db.sched_log)

def logged (db : SchedDb) (env : SchedEnv) (c : SchedCall) : SchedDb :=
  { db with sched_log := env.outside.log c db.sched_log }

def done (db : SchedDb) (env : SchedEnv) : SchedCall → SchedDb
  | .schedulerSet o _ new _ =>
    { db with hw_scheduler := fun o' => if o' = o then some new else db.hw_scheduler o' }
  | .schedGroupCreate _ =>
    let sg_id := db.newId env .schedulerGroup
    { db with hw_sched_groups := fun o => if o = sg_id then true else db.hw_sched_groups o }
  | .schedGroupRemove sg_id =>
    { db with hw_sched_groups := fun o => if o = sg_id then false else db.hw_sched_groups o }
  | .queueCreate _ =>
    let queue_id := db.newId env .queue
    { db with hw_queues := fun o => if o = queue_id then true else db.hw_queues o }
  | .queueRemove queue_id =>
    { db with hw_queues := fun o => if o = queue_id then false else db.hw_queues o }
  | .pgCreate _ _ =>
    let pg_id := db.newId env .ingressPriorityGroup
    { db with hw_pgs := fun o => if o = pg_id then true else db.hw_pgs o }
  | .pgDestroy pg_id => { db with hw_pgs := fun o => if o = pg_id then false else db.hw_pgs o }
  | .childNodesUpdate parent_id child_id is_add =>
    db.setTree (env.child_nodes_update parent_id child_id is_add db.tree)
  | _ => db

def call (db : SchedDb) (env : SchedEnv) (c : SchedCall) : Status × SchedDb :=
  let answer := env.outside db.sched_log c
  (answer, (if answer = .success then db.done env c else db).logged env c)

/-! ## What a call leaves -/

section Call

variable (db : SchedDb) (env : SchedEnv) (c : SchedCall)

theorem done_schedulers : (db.done env c).schedulers = db.schedulers := by
  cases c <;> rfl

@[simp] theorem call_schedulers : (db.call env c).2.schedulers = db.schedulers := by
  simp only [call]
  split
  · exact done_schedulers db env c
  · rfl

theorem done_sched_log : (db.done env c).sched_log = db.sched_log := by
  cases c <;> rfl

@[simp] theorem call_sched_log :
    (db.call env c).2.sched_log = db.sched_log ++ [(c, (db.call env c).1)] := by
  simp only [call, logged, Outside.log]
  split
  · rw [done_sched_log]
  · rfl

theorem call_ok (h : (db.call env c).1 = .success) :
    (db.call env c).2 = (db.done env c).logged env c := by
  simp only [call] at h ⊢
  rw [if_pos h]

theorem call_failed (h : (db.call env c).1 ≠ .success) : (db.call env c).2 = db.logged env c := by
  simp only [call] at h ⊢
  rw [if_neg h]

theorem call_ok_schedulerSet {o} {old} {new} {back : Bool}
    (h : (db.call env (.schedulerSet o old new back)).1 = .success) (o') :
    (db.call env (.schedulerSet o old new back)).2.hw_scheduler o' =
      if o' = o then some new else db.hw_scheduler o' := by
  rw [call_ok db env _ h]
  rfl

theorem call_failed_hw_scheduler (h : (db.call env c).1 ≠ .success) :
    (db.call env c).2.hw_scheduler = db.hw_scheduler := by
  rw [call_failed db env c h]
  rfl

end Call

end SchedDb

open SchedDb

/-! ## Schedulers -/

/-- `sai_qos_scheduler_node_init`, of a node of zeros. -/
def schedulerNodeInit : Scheduler where
  scheduler_id := .null
  sched_algo := env.scheduling_type_wrr
  weight := env.default_weight
  shape_type := env.default_shape_type
  min_bandwidth_rate := 0
  min_bandwidth_burst := 0
  max_bandwidth_rate := 0
  max_bandwidth_burst := 0
  users := fun _ => []

/-- `sai_qos_scheduler_is_in_use` -/
def schedulerIsInUse (node : Scheduler) : Bool :=
  !(node.users .queue).isEmpty || !(node.users .schedGroup).isEmpty || !(node.users .port).isEmpty

/-- One attribute of `sai_qos_scheduler_attr_set`. -/
def schedulerAttrStore (node : Scheduler) : SchedulerAttr → Scheduler
  | .schedulingType s32 => { node with sched_algo := s32 }
  | .schedulingWeight u8 => { node with weight := u8 }
  | .meterType s32 => { node with shape_type := s32 }
  | .minBandwidthRate u64 => { node with min_bandwidth_rate := u64 }
  | .minBandwidthBurstRate u64 => { node with min_bandwidth_burst := u64 }
  | .maxBandwidthRate u64 => { node with max_bandwidth_rate := u64 }
  | .maxBandwidthBurstRate u64 => { node with max_bandwidth_burst := u64 }
  | .readOnly _ => node

/-- `sai_qos_scheduler_attr_set` -/
def schedulerAttrSet (attr_list : List SchedulerAttr) (node : Scheduler) : Scheduler :=
  attr_list.foldl schedulerAttrStore node

/-- `sai_qos_scheduler_attributes_validate` -/
def schedulerAttributesValidate (attr_list : List SchedulerAttr) (op_type : QosOp) : Status :=
  if op_type ≠ .create ∧ attr_list = [] then .invalidParameter
  else env.scheduler_validate op_type attr_list

/-- `sai_qos_scheduler_is_duplicate_set` -/
def schedulerIsDuplicateSet (node : Scheduler) : SchedulerAttr → Bool
  | .schedulingType s32 => node.sched_algo == s32
  | .schedulingWeight u8 => node.weight == u8
  | .meterType s32 => node.shape_type == s32
  | .minBandwidthRate u64 => node.min_bandwidth_rate == u64
  | .minBandwidthBurstRate u64 => node.min_bandwidth_burst == u64
  | .maxBandwidthRate u64 => node.max_bandwidth_rate == u64
  | .maxBandwidthBurstRate u64 => node.max_bandwidth_burst == u64
  | .readOnly _ => false

def setScheduler (sched_id : Oid) (f : Scheduler → Scheduler) (db : SchedDb) : SchedDb :=
  { db with schedulers := fun o =>
      if o = sched_id then (db.schedulers o).map f else db.schedulers o }

def putScheduler (node : Scheduler) (db : SchedDb) : SchedDb :=
  { db with schedulers := fun o => if o = node.scheduler_id then some node else db.schedulers o }

/-- `sai_qos_scheduler_create_internal`: an id that is in the tree is not inserted again. -/
def schedulerCreate (env : SchedEnv) (attr_list : List SchedulerAttr) (db : SchedDb) :
    Status × SchedDb :=
  let valid := schedulerAttributesValidate env attr_list .create
  if valid ≠ .success then (valid, db)
  else
    let alloc := db.call env .schedulerAlloc
    if alloc.1 ≠ .success then (.noMemory, alloc.2)
    else
      let node := schedulerAttrSet attr_list (schedulerNodeInit env)
      let sched_id := alloc.2.newId env .scheduler
      let created := alloc.2.call env (.schedulerCreate node.toSchedParams)
      if created.1 ≠ .success then created
      else
        let inserted := created.2.call env (.schedulerInsert sched_id)
        if inserted.1 ≠ .success ∨ (inserted.2.schedulers sched_id).isSome = true then
          (.failure, (inserted.2.call env (.schedulerRemove sched_id)).2)
        else
          (.success, putScheduler { node with scheduler_id := sched_id } inserted.2)

/-- `sai_qos_scheduler_remove_internal` -/
def schedulerRemove (env : SchedEnv) (sched_id : Oid) (db : SchedDb) : Status × SchedDb :=
  if sched_id.type ≠ .scheduler then (.invalidObjectType, db)
  else
    match db.schedulers sched_id with
    | none => (.invalidObjectId, db)
    | some node =>
      if schedulerIsInUse node = true then (.objectInUse, db)
      else
        let removed := db.call env (.schedulerRemove sched_id)
        if removed.1 ≠ .success then removed
        else
          (.success, { removed.2 with schedulers := fun o =>
            if o = sched_id then none else removed.2.schedulers o })

/-! ## The objects of a scheduler -/

/-- The loop over one list: the status, how many objects took the parameters, and the state. -/
def schedulerUsersReapply (env : SchedEnv) (old new : SchedParams) (p_count : Nat) (revert : Bool) :
    List Oid → Nat → SchedDb → Status × Nat × SchedDb
  | [], count, db => (.success, count, db)
  | user :: users, count, db =>
    if revert = true ∧ p_count ≤ count then (.success, count, db)
    else
      let set := db.call env (.schedulerSet user (some old) new revert)
      if set.1 ≠ .success then (set.1, count, set.2)
      else schedulerUsersReapply env old new p_count revert users (count + 1) set.2

/-- Only the original node has users: the old one when the parameters are applied, the new one when they
are taken back. -/
def reapplyUsers (old new : Scheduler) (revert : Bool) : SchedUser → List Oid :=
  if revert = true then new.users else old.users

/-- `sai_qos_scheduler_queue_reapply` -/
def schedulerQueueReapply (old new : Scheduler) (p_count : Nat) (revert : Bool)
    (db : SchedDb) : Status × Nat × SchedDb :=
  schedulerUsersReapply env old.toSchedParams new.toSchedParams p_count revert
    (reapplyUsers old new revert .queue) 0 db

/-- `sai_qos_scheduler_sched_group_reapply` -/
def schedulerSchedGroupReapply (old new : Scheduler) (p_count : Nat) (revert : Bool)
    (db : SchedDb) : Status × Nat × SchedDb :=
  schedulerUsersReapply env old.toSchedParams new.toSchedParams p_count revert
    (reapplyUsers old new revert .schedGroup) 0 db

/-- `sai_qos_scheduler_port_reapply` -/
def schedulerPortReapply (old new : Scheduler) (p_count : Nat) (revert : Bool)
    (db : SchedDb) : Status × Nat × SchedDb :=
  schedulerUsersReapply env old.toSchedParams new.toSchedParams p_count revert
    (reapplyUsers old new revert .port) 0 db

/-- The end of `sai_qos_scheduler_reapply`: as many objects of each kind as took the new parameters get
the old ones back. -/
def schedulerReapplyBack (old new : Scheduler)
    (update_queue_cnt update_sg_cnt update_port_cnt : Nat) (db : SchedDb) : SchedDb :=
  let db := if update_queue_cnt ≠ 0 then
    (schedulerQueueReapply env new old update_queue_cnt true db).2.2 else db
  let db := if update_sg_cnt ≠ 0 then
    (schedulerSchedGroupReapply env new old update_sg_cnt true db).2.2 else db
  if update_port_cnt ≠ 0 then
    (schedulerPortReapply env new old update_port_cnt true db).2.2 else db

/-- `sai_qos_scheduler_reapply` -/
def schedulerReapply (old new : Scheduler) (db : SchedDb) : Status × SchedDb :=
  let queues := schedulerQueueReapply env old new 0 false db
  if queues.1 ≠ .success then
    (queues.1, schedulerReapplyBack env old new queues.2.1 0 0 queues.2.2)
  else
    let groups := schedulerSchedGroupReapply env old new 0 false queues.2.2
    if groups.1 ≠ .success then
      (groups.1, schedulerReapplyBack env old new queues.2.1 groups.2.1 0 groups.2.2)
    else
      let ports := schedulerPortReapply env old new 0 false groups.2.2
      if ports.1 ≠ .success then
        (ports.1, schedulerReapplyBack env old new queues.2.1 groups.2.1 ports.2.1 ports.2.2)
      else (.success, ports.2.2)

/-- `sai_qos_scheduler_attribute_set`: the value is stored whatever the objects answer. -/
def schedulerAttributeSet (env : SchedEnv) (sched_id : Oid) (attr : SchedulerAttr) (db : SchedDb) :
    Status × SchedDb :=
  if sched_id.type ≠ .scheduler then (.invalidObjectType, db)
  else
    match db.schedulers sched_id with
    | none => (.invalidObjectId, db)
    | some node =>
      let valid := schedulerAttributesValidate env [attr] .set
      if valid ≠ .success then (valid, db)
      else if schedulerIsDuplicateSet node attr = true then (.success, db)
      else
        let set := db.call env (.schedulerAttributeSet node.toSchedParams attr)
        if set.1 ≠ .success then set
        else
          let applied := if env.scheduler_is_hw_object = false then
            schedulerReapply env node (schedulerAttrSet [attr] node) set.2 else set
          (applied.1, setScheduler sched_id (schedulerAttrSet [attr]) applied.2)

/-! ## What the objects leave -/

theorem schedulerUsersReapply_schedulers (old new) (p_count : Nat)
    (revert : Bool) (users) : ∀ count db,
      (schedulerUsersReapply env old new p_count revert users count db).2.2.schedulers =
        db.schedulers := by
  induction users with
  | nil => exact fun _ _ => rfl
  | cons user users ih =>
    intro count db
    simp only [schedulerUsersReapply]
    split
    · rfl
    split
    · exact call_schedulers db env _
    · rw [ih]
      exact call_schedulers db env _

theorem schedulerReapplyBack_schedulers (old new)
    (queues groups ports : Nat) (db) :
    (schedulerReapplyBack env old new queues groups ports db).schedulers = db.schedulers := by
  have hback : ∀ (cnt : Nat) (users : List Oid) (db : SchedDb),
      (if cnt ≠ 0 then (schedulerUsersReapply env new.toSchedParams old.toSchedParams cnt true
        users 0 db).2.2 else db).schedulers = db.schedulers := by
    intro cnt users db
    split
    · exact schedulerUsersReapply_schedulers env _ _ cnt _ _ 0 db
    · rfl
  simp only [schedulerReapplyBack, schedulerQueueReapply, schedulerSchedGroupReapply,
    schedulerPortReapply]
  rw [hback, hback, hback]

theorem schedulerReapply_schedulers (old new) (db) :
    (schedulerReapply env old new db).2.schedulers = db.schedulers := by
  have hqueues := schedulerUsersReapply_schedulers env old.toSchedParams new.toSchedParams 0 false
    (reapplyUsers old new false .queue) 0 db
  simp only [schedulerReapply]
  split
  · rw [schedulerReapplyBack_schedulers]
    exact hqueues
  generalize hat : (schedulerQueueReapply _ _ _ 0 _ _).2.2 = at_
  have hat' : at_.schedulers = db.schedulers := by
    rw [← hat]
    exact hqueues
  have hgroups := schedulerUsersReapply_schedulers env old.toSchedParams new.toSchedParams 0 false
    (reapplyUsers old new false .schedGroup) 0 at_
  split
  · rw [schedulerReapplyBack_schedulers]
    exact hgroups.trans hat'
  generalize hat2 : (schedulerSchedGroupReapply _ _ _ 0 _ _).2.2 = at2
  have hat2' : at2.schedulers = db.schedulers := by
    rw [← hat2]
    exact hgroups.trans hat'
  have hports := schedulerUsersReapply_schedulers env old.toSchedParams new.toSchedParams 0 false
    (reapplyUsers old new false .port) 0 at2
  split
  · rw [schedulerReapplyBack_schedulers]
    exact hports.trans hat2'
  · exact hports.trans hat2'

end OpxSai
