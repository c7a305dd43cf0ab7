import OpxSai.Qos.Buffer
import OpxSai.Qos.Sched

/-!
# Queues

A queue is on the list of its port, under a parent, and on the lists of its scheduler, its WRED and its
buffer profile. A create brings it there one after the other, and a remove takes it off.

The node that a create or a remove works on is in the tree or not yet: what is stored in a node that is
not in the tree is seen by nobody.
-/

variable (env : SchedEnv)

namespace OpxSai

open SchedDb

/-! ## Nodes -/

def withQueues (queues : Oid → Option QosQueue) (db : SchedDb) : SchedDb :=
  { db with qos := { db.qos with queues := queues } }

def setQueue (queue_id : Oid) (f : QosQueue → QosQueue) (db : SchedDb) : SchedDb :=
  withQueues (fun o => if o = queue_id then (db.qos.queues o).map f else db.qos.queues o) db

def setSchedGroup (sg_id : Oid) (f : SchedGroup → SchedGroup) (db : SchedDb) : SchedDb :=
  { db with sched_groups := fun o =>
      if o = sg_id then (db.sched_groups o).map f else db.sched_groups o }

def setQosPort (port_id : Oid) (f : SchedPort → SchedPort) (db : SchedDb) : SchedDb :=
  { db with qos_ports := fun o =>
      if o = port_id then (db.qos_ports o).map f else db.qos_ports o }

/-! ## The scheduler of an object -/

def setSchedUsers (sched_id : Oid) (user : SchedUser) (f : List Oid → List Oid) (db : SchedDb) :
    SchedDb :=
  setScheduler sched_id (fun node =>
    { node with users := fun u => if u = user then f (node.users u) else node.users u }) db

/-- The `scheduler_id` of an object that is in its tree. -/
def setSchedulerId (user : SchedUser) (object_id sched_id : Oid) (db : SchedDb) : SchedDb :=
  match user with
  | .queue => setQueue object_id (fun node => { node with scheduler_id := sched_id }) db
  | .schedGroup => setSchedGroup object_id (fun node => { node with scheduler_id := sched_id }) db
  | .port => setQosPort object_id (fun node => { node with scheduler_id := sched_id }) db

/-- No scheduler and the default scheduler keep no list of the object. -/
def keepsUsers (db : SchedDb) (sched_id : Oid) : Bool :=
  sched_id != .null && sched_id != db.default_sched_id

/-- `sai_qos_scheduler_queue_list_update`, `sai_qos_scheduler_sched_group_list_update` and
`sai_qos_scheduler_port_list_update`: an object leaves the list of one scheduler for that of another. -/
def schedulerListUpdate (user : SchedUser) (in_tree : Bool) (object_id prev_sched_id new_sched_id : Oid)
    (db : SchedDb) : Status × SchedDb :=
  if keepsUsers db prev_sched_id = true ∧ (db.schedulers prev_sched_id).isSome = false then
    (.invalidObjectId, db)
  else
    let left := if keepsUsers db prev_sched_id = true then
      setSchedUsers prev_sched_id user (fun users => users.erase object_id) db else db
    if keepsUsers db new_sched_id = true ∧ (left.schedulers new_sched_id).isSome = false then
      (.invalidObjectId, left)
    else
      let joined := if keepsUsers db new_sched_id = true then
        setSchedUsers new_sched_id user (fun users => users ++ [object_id]) left else left
      (.success, if in_tree = true then setSchedulerId user object_id new_sched_id joined else joined)

/-- `sai_qos_queue_scheduler_set` and `sai_qos_sched_group_scheduler_set`: the null object stands for the
default scheduler. -/
def objSchedulerSet (user : SchedUser) (in_tree : Bool)
    (object_id old_sched_id oid : Oid) (db : SchedDb) : Status × SchedDb :=
  let sched_id := if oid = .null then db.default_sched_id else oid
  if old_sched_id = sched_id then (.success, db)
  else
    match db.schedulers sched_id with
    | none => (.invalidObjectId, db)
    | some node =>
      if old_sched_id ≠ .null ∧ (db.schedulers old_sched_id).isSome = false then
        (.invalidObjectId, db)
      else
        let old := if old_sched_id ≠ .null then
          (db.schedulers old_sched_id).map Scheduler.toSchedParams else none
        let set := db.call env (.schedulerSet object_id old node.toSchedParams false)
        if set.1 ≠ .success then set
        else schedulerListUpdate user in_tree object_id old_sched_id sched_id set.2

/-- `sai_qos_queue_scheduler_set` -/
def queueSchedulerSet (in_tree : Bool) (queue_id old_sched_id oid : Oid)
    (db : SchedDb) : Status × SchedDb :=
  objSchedulerSet env .queue in_tree queue_id old_sched_id oid db

/-- `sai_qos_sched_group_scheduler_set` -/
def schedGroupSchedulerSet (sg_id old_sched_id oid : Oid) (db : SchedDb) : Status × SchedDb :=
  objSchedulerSet env .schedGroup true sg_id old_sched_id oid db

/-- `sai_qos_port_scheduler_set`: the NPU is not told of the old scheduler. -/
def portSchedulerSet (port_id oid : Oid) (db : SchedDb) : Status × SchedDb :=
  let sched_id := if oid = .null then db.default_sched_id else oid
  match db.qos_ports port_id with
  | none => (.invalidObjectId, db)
  | some port =>
    if port.scheduler_id = sched_id then (.success, db)
    else
      match db.schedulers sched_id with
      | none => (.invalidObjectId, db)
      | some node =>
        let set := db.call env (.schedulerSet port_id none node.toSchedParams false)
        if set.1 ≠ .success then set
        else schedulerListUpdate .port true port_id port.scheduler_id sched_id set.2

/-! ## The configuration of a queue -/

def onQos (f : QosDb → Status × QosDb) (db : SchedDb) : Status × SchedDb :=
  ((f db.qos).1, { db with qos := (f db.qos).2 })

def storeQueue (in_tree : Bool) (queue_id : Oid) (f : QosQueue → QosQueue) (db : SchedDb) : SchedDb :=
  if in_tree = true then setQueue queue_id f db else db

/-- The variables of `sai_qos_queue_remove_configs`. -/
structure QueueRemoval where
  rc : Status
  buffer_profile_removed : Bool
  wred_removed : Bool
  db : SchedDb

def queueRemoveBuffer (queue_id : Oid) (node : QosQueue) (in_tree : Bool)
    (db : SchedDb) : QueueRemoval :=
  if node.buffer_profile_id = .null then ⟨.success, false, false, db⟩
  else
    let cached := onQos (wredLinkUpdateCache env.qos queue_id) db
    let updated := onQos (objUpdateBufferProfile env.qos queue_id .null) cached.2
    if updated.1 ≠ .success then ⟨updated.1, false, false, updated.2⟩
    else
      ⟨.success, true, false,
        storeQueue in_tree queue_id (fun q => { q with buffer_profile_id := .null }) updated.2⟩

def queueRemoveWred (queue_id : Oid) (node : QosQueue) (in_tree : Bool)
    (at_ : QueueRemoval) : QueueRemoval :=
  if at_.rc ≠ .success ∨ node.wred_id = .null then at_
  else
    let set := onQos (wredLinkSet env.qos queue_id .null .queue) at_.db
    if set.1 ≠ .success then { at_ with rc := set.1, db := set.2 }
    else
      { at_ with
        wred_removed := true
        db := storeQueue in_tree queue_id (fun q => { q with wred_id := .null }) set.2 }

/-- Its scheduler gives way to the default one. -/
def queueRemoveScheduler (queue_id : Oid) (node : QosQueue) (in_tree : Bool)
    (at_ : QueueRemoval) : QueueRemoval :=
  if at_.rc ≠ .success ∨ keepsUsers at_.db node.scheduler_id = false then at_
  else
    let set := queueSchedulerSet env in_tree queue_id node.scheduler_id .null at_.db
    { at_ with rc := set.1, db := set.2 }

/-- The end of `sai_qos_queue_remove_configs`: what was taken off before a failure is put back. -/
def queueRemoveRevert (queue_id : Oid) (node : QosQueue) (in_tree : Bool)
    (at_ : QueueRemoval) : SchedDb :=
  let db :=
    if at_.buffer_profile_removed = true then
      let updated := onQos (objUpdateBufferProfile env.qos queue_id node.buffer_profile_id) at_.db
      if updated.1 ≠ .success then updated.2
      else
        (onQos (wredLinkApplyCache env.qos queue_id)
          (storeQueue in_tree queue_id
            (fun q => { q with buffer_profile_id := node.buffer_profile_id }) updated.2)).2
    else at_.db
  if at_.wred_removed = true then
    let set := onQos (wredLinkSet env.qos queue_id node.wred_id .queue) db
    if set.1 ≠ .success then set.2
    else storeQueue in_tree queue_id (fun q => { q with wred_id := node.wred_id }) set.2
  else db

/-- `sai_qos_queue_remove_configs` -/
def queueRemoveConfigs (queue_id : Oid) (node : QosQueue) (in_tree : Bool)
    (db : SchedDb) : Status × SchedDb :=
  let at_ := queueRemoveScheduler env queue_id node in_tree
    (queueRemoveWred env queue_id node in_tree (queueRemoveBuffer env queue_id node in_tree db))
  if at_.rc ≠ .success then (at_.rc, queueRemoveRevert env queue_id node in_tree at_)
  else (.success, at_.db)

/-! ## Create -/

/-- `sai_qos_queue_node_init` -/
def queueNodeInit : QosQueue where
  port_id := .null
  queue_type := .all
  queue_index := 0xFF
  parent_sched_group_id := .null
  wred_id := .null
  scheduler_id := .null
  buffer_profile_id := .null
  freed := false

/-- One attribute of `sai_qos_queue_attr_set`. -/
def queueAttrStore (node : QosQueue) : QueueAttr → QosQueue
  | .type s32 => { node with queue_type := s32 }
  | .port oid => { node with port_id := oid }
  | .index u8 => { node with queue_index := u8 }
  | .parentSchedulerNode oid => { node with parent_sched_group_id := oid }
  | .schedulerProfileId oid => { node with scheduler_id := oid }
  | .wredProfileId oid => { node with wred_id := oid }
  | .bufferProfileId oid => { node with buffer_profile_id := oid }
  | .readOnly _ => node

/-- `sai_qos_queue_attr_set` -/
def queueAttrSet (attr_list : List QueueAttr) (node : QosQueue) : QosQueue :=
  attr_list.foldl queueAttrStore node

def queueAttrValid (db : SchedDb) : QueueAttr → Bool
  | .port oid => oid != .null && (db.qos_ports oid).isSome
  | .parentSchedulerNode oid => oid == .null || (db.sched_groups oid).isSome
  | .schedulerProfileId oid => oid == .null || (db.schedulers oid).isSome
  | .wredProfileId oid => oid == .null || (db.qos.wreds oid).isSome
  | .bufferProfileId oid => oid == .null || (db.qos.profileNodeGet oid).isSome
  | _ => true

/-- `sai_qos_queue_attributes_validate` -/
def queueAttributesValidate (attr_list : List QueueAttr) (op_type : QosOp) (db : SchedDb) : Status :=
  if attr_list = [] then .invalidParameter
  else if env.qos.queue_validate op_type attr_list ≠ .success then
    env.qos.queue_validate op_type attr_list
  else if op_type = .get then .success
  else if attr_list.all (queueAttrValid db) = true then .success
  else .invalidObjectId

/-- `sai_qos_port_queue_list_update` -/
def portQueueListUpdate (queue_id port_id : Oid) (is_add : Bool) (db : SchedDb) : Status × SchedDb :=
  match db.qos_ports port_id with
  | none => (.invalidObjectId, db)
  | some _ =>
    (.success, setQosPort port_id (fun port =>
      { port with queues :=
          if is_add = true then port.queues ++ [queue_id] else port.queues.erase queue_id }) db)

def putQueue (queue_id : Oid) (node : QosQueue) (db : SchedDb) : SchedDb :=
  withQueues (fun o => if o = queue_id then some node else db.qos.queues o) db

/-- `sai_qos_queue_free_resources`: what the NPU answers is dropped. A node that is in the tree stays
there. -/
def queueFreeResources (queue_id : Oid) (node : QosQueue)
    (in_tree set_in_npu set_in_port_list attach_to_parent : Bool) (db : SchedDb) : SchedDb :=
  let db :=
    if attach_to_parent = true then
      let detached := db.call env (.queueDetachFromParent queue_id)
      let parent_id := ((detached.2.qos.queues queue_id).getD node).parent_sched_group_id
      (detached.2.call env (.childNodesUpdate parent_id queue_id false)).2
    else db
  let db := if set_in_npu = true then (db.call env (.queueRemove queue_id)).2 else db
  let db := if set_in_port_list = true then
    (portQueueListUpdate queue_id node.port_id false db).2 else db
  storeQueue in_tree queue_id (fun q => { q with freed := true }) db

/-- The end of a create that failed. -/
def queueCreateFailed (queue_id : Oid) (node : QosQueue)
    (in_tree set_in_npu set_in_port_list attach : Bool) (rc : Status) (db : SchedDb) :
    Status × SchedDb :=
  let node := if in_tree = true then (db.qos.queues queue_id).getD node else node
  let configs := queueRemoveConfigs env queue_id node in_tree db
  (rc, queueFreeResources env queue_id node in_tree set_in_npu set_in_port_list attach configs.2)

def queueCreateAttach (queue_id : Oid) (node : QosQueue) (db : SchedDb) : Status × SchedDb :=
  if node.parent_sched_group_id = .null then (.success, db)
  else
    let attached := db.call env (.queueAttachToParent queue_id node.parent_sched_group_id)
    if attached.1 ≠ .success then attached
    else
      let linked := attached.2.call env
        (.childNodesUpdate node.parent_sched_group_id queue_id true)
      if linked.1 ≠ .success then
        (linked.1, (linked.2.call env (.queueDetachFromParent queue_id)).2)
      else linked

def queueCreateScheduler (queue_id : Oid) (node : QosQueue) (db : SchedDb) : Status × SchedDb :=
  queueSchedulerSet env true queue_id .null node.scheduler_id
    (setQueue queue_id (fun q => { q with scheduler_id := .null }) db)

def queueCreateWred (queue_id : Oid) (node : QosQueue) (db : SchedDb) : Status × SchedDb :=
  if node.wred_id = .null then (.success, db)
  else if node.queue_type ≠ .unicast then (.invalidAttrValue 0, db)
  else onQos (wredLinkSet env.qos queue_id node.wred_id .queue) db

def queueCreateBuffer (queue_id : Oid) (node : QosQueue) (db : SchedDb) : Status × SchedDb :=
  if node.buffer_profile_id = .null then (.success, db)
  else
    let updated := onQos (objUpdateBufferProfile env.qos queue_id node.buffer_profile_id)
      (setQueue queue_id (fun q => { q with buffer_profile_id := .null }) db)
    if updated.1 ≠ .success then updated
    else
      (.success, (onQos (wredLinkApplyCache env.qos queue_id)
        (setQueue queue_id (fun q => { q with buffer_profile_id := node.buffer_profile_id })
          updated.2)).2)

def queueCreateInTree (queue_id : Oid) (node : QosQueue) (db : SchedDb) : Status × SchedDb :=
  let attached := queueCreateAttach env queue_id node db
  if attached.1 ≠ .success then
    queueCreateFailed env queue_id node true true true false attached.1 attached.2
  else
    let scheduled := queueCreateScheduler env queue_id node attached.2
    if scheduled.1 ≠ .success then
      queueCreateFailed env queue_id node true true true true scheduled.1 scheduled.2
    else
      let linked := queueCreateWred env queue_id node scheduled.2
      if linked.1 ≠ .success then
        queueCreateFailed env queue_id node true true true true linked.1 linked.2
      else
        let profiled := queueCreateBuffer env queue_id node linked.2
        if profiled.1 ≠ .success then
          queueCreateFailed env queue_id node true true true true profiled.1 profiled.2
        else profiled

/-- `sai_qos_queue_create_internal`, and the id it hands out. The node of a failed NPU create has no id
yet. An allocation that fails stops at an assertion and is left out. -/
def queueCreate (env : SchedEnv) (attr_list : List QueueAttr) (db : SchedDb) :
    Status × Oid × SchedDb :=
  let valid := queueAttributesValidate env attr_list .create db
  if valid ≠ .success then (valid, .null, db)
  else
    let node := queueAttrSet attr_list queueNodeInit
    let queue_id := db.newId env .queue
    let created := db.call env (.queueCreate node)
    if created.1 ≠ .success then
      let failed := queueCreateFailed env .null node false false false false created.1 created.2
      (failed.1, .null, failed.2)
    else
      let listed := portQueueListUpdate queue_id node.port_id true created.2
      if listed.1 ≠ .success then
        let failed := queueCreateFailed env queue_id node false true false false listed.1 listed.2
        (failed.1, queue_id, failed.2)
      else
        let inserted := listed.2.call env (.queueInsert queue_id)
        if inserted.1 ≠ .success ∨ (inserted.2.qos.queues queue_id).isSome = true then
          let failed := queueCreateFailed env queue_id node false true true false .failure inserted.2
          (failed.1, queue_id, failed.2)
        else
          let made := queueCreateInTree env queue_id node (putQueue queue_id node inserted.2)
          (made.1, queue_id, made.2)

/-! ## Remove -/

def queueNodeRemove (queue_id : Oid) (node : QosQueue) (db : SchedDb) : SchedDb :=
  let left := (portQueueListUpdate queue_id node.port_id false db).2
  withQueues (fun o => if o = queue_id then none else left.qos.queues o) left

/-- `sai_qos_queue_remove_internal` -/
def queueRemove (env : SchedEnv) (queue_id : Oid) (db : SchedDb) : Status × SchedDb :=
  if queue_id.type ≠ .queue then (.invalidObjectType, db)
  else
    match db.qos.queues queue_id with
    | none => (.invalidObjectId, db)
    | some node =>
      let configs := queueRemoveConfigs env queue_id node true db
      if configs.1 ≠ .success then configs
      else
        let detached := configs.2.call env (.queueDetachFromParent queue_id)
        if detached.1 ≠ .success then detached
        else
          let unlinked := detached.2.call env
            (.childNodesUpdate node.parent_sched_group_id queue_id false)
          if unlinked.1 ≠ .success then unlinked
          else
            let removed := unlinked.2.call env (.queueRemove queue_id)
            if removed.1 ≠ .success then removed
            else (.success, queueNodeRemove queue_id node removed.2)

/-! ## Set -/

/-- `sai_qos_queue_is_duplicate_set` -/
def queueIsDuplicateSet (node : QosQueue) : QueueAttr → Bool
  | .parentSchedulerNode oid => node.parent_sched_group_id == oid
  | .schedulerProfileId oid => node.scheduler_id == oid
  | .wredProfileId oid => node.wred_id == oid
  | .bufferProfileId oid => node.buffer_profile_id == oid
  | _ => false

/-- `sai_qos_queue_modify_parent`: a queue without a parent is removed from the NPU. -/
def queueModifyParent (env : SchedEnv) (queue_id : Oid) (node : QosQueue) (new_parent_id : Oid)
    (db : SchedDb) : Status × SchedDb :=
  let moved :=
    if new_parent_id ≠ .null then db.call env (.queueModifyParent queue_id new_parent_id)
    else db.call env (.queueRemove queue_id)
  if moved.1 ≠ .success then moved
  else
    let left := moved.2.call env (.childNodesUpdate node.parent_sched_group_id queue_id false)
    if left.1 ≠ .success then left
    else if new_parent_id ≠ .null then left.2.call env (.childNodesUpdate new_parent_id queue_id true)
    else left

/-- The cases of `sai_qos_queue_attribute_set`. -/
def queueAttributeApply (queue_id : Oid) (node : QosQueue) (attr : QueueAttr)
    (db : SchedDb) : Status × SchedDb :=
  match attr with
  | .parentSchedulerNode oid => queueModifyParent env queue_id node oid db
  | .schedulerProfileId oid => queueSchedulerSet env true queue_id node.scheduler_id oid db
  | .wredProfileId oid =>
    if node.queue_type ≠ .unicast then (.invalidAttrValue 0, db)
    else onQos (wredLinkSet env.qos queue_id oid .queue) db
  | .bufferProfileId oid =>
    let cached := (onQos (wredLinkUpdateCache env.qos queue_id) db).2
    let updated := onQos (objUpdateBufferProfile env.qos queue_id oid) cached
    let stored := if updated.1 = .success then
      setQueue queue_id (fun q => { q with buffer_profile_id := oid }) updated.2 else updated.2
    (updated.1, (onQos (wredLinkApplyCache env.qos queue_id) stored).2)
  | attr => db.call env (.queueAttributeSet queue_id attr)

/-- `sai_qos_queue_attribute_set`: the attribute is stored as it was given. -/
def queueAttributeSet (queue_id : Oid) (attr : QueueAttr) (db : SchedDb) : Status × SchedDb :=
  if queue_id.type ≠ .queue then (.invalidObjectType, db)
  else
    match db.qos.queues queue_id with
    | none => (.invalidObjectId, db)
    | some node =>
      let valid := queueAttributesValidate env [attr] .set db
      if valid ≠ .success then (valid, db)
      else if queueIsDuplicateSet node attr = true then (.success, db)
      else
        let applied := queueAttributeApply env queue_id node attr db
        if applied.1 ≠ .success then applied
        else (.success, setQueue queue_id (fun q => queueAttrStore q attr) applied.2)

/-- `sai_qos_port_queue_create` -/
def portQueueCreate (port_id : Oid) (queue_type : QueueType) (queue_index : Nat)
    (parent_sg_id : Oid) (db : SchedDb) : Status × Oid × SchedDb :=
  queueCreate env
    [.port port_id, .type queue_type, .index queue_index, .parentSchedulerNode parent_sg_id,
      .schedulerProfileId db.default_sched_id] db

end OpxSai
