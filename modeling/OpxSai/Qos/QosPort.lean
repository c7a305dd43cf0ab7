import OpxSai.Qos.Hierarchy
import OpxSai.Qos.PortConfigs

/-!
# Ports

The node of a port is made first, and then its hierarchy with the queues and its priority groups. The
other way round, its port pools and its configuration go, and then the priority groups, the hierarchy and
the node.
-/

namespace OpxSai

open SchedDb MapDb PolicerDb PortDb

/-- `sai_qos_port_node_get`: the parts of a node are put into the tree and taken out of it together, and
its maps are one of them. -/
def PortDb.hasNode (db : PortDb) (port_id : Oid) : Bool := (db.maps.ports port_id).isSome

structure PortInitEnv where
  sched : SchedEnv
  /-- `sai_qos_default_hqos_get` and `sai_qos_default_cpu_hqos_get` -/
  default_hqos : Hqos
  default_cpu_hqos : Hqos
  is_cpu_port : Oid → Bool
  /-- `sai_qos_queue_is_seperate_ucast_or_mcast_supported` -/
  separate_queues : Oid → Bool
  max_uc_queues : Oid → Nat
  max_mc_queues : Oid → Nat
  max_queues : Oid → Nat

/-! ## Priority groups -/

section PriorityGroups

variable (env : SchedEnv)

def pgsOf (db : SchedDb) (port_id : Oid) : List Oid :=
  (db.qos_ports port_id).elim [] SchedPort.pgs

def setPgs (port_id : Oid) (f : List Oid → List Oid) (db : SchedDb) : SchedDb :=
  setQosPort port_id (fun port => { port with pgs := f port.pgs }) db

def setPg (pg_id : Oid) (node : Option (Oid × BufferUser)) (db : SchedDb) : SchedDb :=
  { db with
    pg_ports := fun o => if o = pg_id then node.map Prod.fst else db.pg_ports o
    qos := { db.qos with pgs := fun o => if o = pg_id then node.map Prod.snd else db.qos.pgs o } }

/-- `sai_qos_pg_create_internal`: what is in the NPU stays there when the node can not be inserted. -/
def pgCreate (port_id : Oid) (pg_idx : Nat) (db : SchedDb) : Status × SchedDb :=
  let alloc := db.call env .pgAlloc
  if alloc.1 ≠ .success then (.noMemory, alloc.2)
  else if (alloc.2.qos_ports port_id).isSome = false then (.invalidParameter, alloc.2)
  else
    let pg_id := alloc.2.newId env .ingressPriorityGroup
    let created := alloc.2.call env (.pgCreate port_id pg_idx)
    if created.1 ≠ .success then created
    else
      let inserted := created.2.call env (.pgInsert pg_id)
      if inserted.1 ≠ .success then inserted
      else if (inserted.2.qos.pgs pg_id).isSome = true then (.failure, inserted.2)
      else
        (.success, setPgs port_id (fun pgs => pgs ++ [pg_id])
          (setPg pg_id (some (port_id, ⟨.null⟩)) inserted.2))

/-- So many priority groups, from one on. -/
def createAllPgFrom (port_id : Oid) : Nat → Nat → SchedDb → Status × SchedDb
  | _, 0, db => (.success, db)
  | pg_idx, pgs + 1, db =>
    let created := pgCreate env port_id pg_idx db
    if created.1 ≠ .success then created else createAllPgFrom port_id (pg_idx + 1) pgs created.2

/-- `sai_qos_port_create_all_pg` -/
def portCreateAllPg (port_id : Oid) (db : SchedDb) : Status × SchedDb :=
  createAllPgFrom env port_id 0 env.num_pg db

/-- `sai_qos_pg_remove_configs`: a profile that stays is put on again. -/
def pgRemoveConfigs (pg_id : Oid) (node : BufferUser) (db : SchedDb) : Status × SchedDb :=
  if node.buffer_profile_id = .null then (.success, db)
  else
    let updated := onQos (objUpdateBufferProfile env.qos pg_id .null) db
    if updated.1 ≠ .success then
      (updated.1, (onQos (objUpdateBufferProfile env.qos pg_id node.buffer_profile_id) updated.2).2)
    else updated

/-- `sai_qos_pg_destroy_internal` -/
def pgDestroy (pg_id : Oid) (db : SchedDb) : Status × SchedDb :=
  match db.qos.pgs pg_id, db.pg_ports pg_id with
  | some node, some port_id =>
    let configs := pgRemoveConfigs env pg_id node db
    if configs.1 ≠ .success then configs
    else
      let destroyed := configs.2.call env (.pgDestroy pg_id)
      if destroyed.1 ≠ .success then destroyed
      else if (destroyed.2.qos_ports port_id).isSome = false then (.invalidParameter, destroyed.2)
      else
        (.success, setPg pg_id none (setPgs port_id (fun pgs => pgs.erase pg_id) destroyed.2))
  | _, _ => (.itemNotFound, db)

/-- `sai_qos_port_destroy_all_pg` -/
def portDestroyAllPg (port_id : Oid) (db : SchedDb) : Status × SchedDb :=
  removeEach (pgDestroy env) (pgsOf db port_id) db

end PriorityGroups

/-! ## Port pools -/

section PortPools

variable (env : PortEnv) (port_id : Oid)

/-- `sai_qos_remove_port_pool_node` takes the node from its tree and from the list of its port. -/
def portPoolNodeRemove (port_pool_id : Oid) (db : PortDb) : Status × PortDb :=
  let removed := db.sched.qos.call env.sched.qos (.portPoolNodeRemove port_pool_id)
  let qos :=
    if removed.1 = .success then
      { removed.2 with
        port_pools := fun o => if o = port_pool_id then none else removed.2.port_pools o
        port_pool_of := fun p pool =>
          if removed.2.port_pool_of p pool = some port_pool_id then none
          else removed.2.port_pool_of p pool }
    else removed.2
  (removed.1,
    { db with
      sched := { db.sched with qos := qos }
      port_pools := fun p =>
        if p = port_id ∧ removed.1 = .success then (db.port_pools p).erase port_pool_id
        else db.port_pools p })

/-- `sai_qos_port_remove_port_pool`, for a port pool on the list of a port -/
def portRemovePortPool (port_pool_id : Oid) (db : PortDb) : Status × PortDb :=
  match db.sched.qos.port_pools port_pool_id with
  | none => (.invalidObjectId, db)
  | some node =>
    let reset :=
      if node.wred_id ≠ .null then
        onSched (onQos (wredLinkSet env.sched.qos port_pool_id .null .port)) db
      else (.success, db)
    if reset.1 ≠ .success then reset else portPoolNodeRemove env port_id port_pool_id reset.2

/-- The loop of `sai_qos_port_deinit_wred`: each round takes the first one of the list. -/
def portPoolsRemove : List Oid → PortDb → Status × PortDb
  | [], db => (.success, db)
  | port_pool_id :: port_pools, db =>
    let removed := portRemovePortPool env port_id port_pool_id db
    if removed.1 ≠ .success then removed else portPoolsRemove port_pools removed.2

/-- `sai_qos_port_deinit_wred` -/
def portDeinitWred (db : PortDb) : Status × PortDb :=
  if db.hasNode port_id = false then (.failure, db)
  else portPoolsRemove env port_id (db.port_pools port_id) db

end PortPools

/-! ## The node of a port -/

/-- A node as `sai_qos_port_node_alloc` gives it, with its lists. -/
def SchedPort.zero : SchedPort where
  scheduler_id := .null
  is_app_hqos_init := false
  queues := []
  sched_groups := fun _ => []
  pgs := []

/-- The node of a port, in each of the states that it is in. -/
def putPort (port_id : Oid) (db : PortDb) : PortDb where
  sched :=
    { db.sched with
      qos_ports := fun o => if o = port_id then some .zero else db.sched.qos_ports o
      qos := { db.sched.qos with
        ports := fun o => if o = port_id then some ⟨.null⟩ else db.sched.qos.ports o } }
  maps := db.maps.setMapsId port_id fun _ => .null
  policers := { db.policers with
    ports := fun o => if o = port_id then some fun _ => .null else db.policers.ports o }
  port_pools := fun o => if o = port_id then [] else db.port_pools o

def dropPort (port_id : Oid) (db : PortDb) : PortDb where
  sched :=
    { db.sched with
      qos_ports := fun o => if o = port_id then none else db.sched.qos_ports o
      qos := { db.sched.qos with
        ports := fun o => if o = port_id then none else db.sched.qos.ports o } }
  maps := { db.maps with ports := fun o => if o = port_id then none else db.maps.ports o }
  policers := { db.policers with
    ports := fun o => if o = port_id then none else db.policers.ports o }
  port_pools := fun o => if o = port_id then [] else db.port_pools o

/-- `sai_qos_port_global_init`. A node that is not in the tree yet is seen by nobody. -/
def portGlobalInit (env : SchedEnv) (port_id : Oid) (db : PortDb) : Status × PortDb :=
  let alloc := onSched (fun sched => sched.call env .portAlloc) db
  if alloc.1 ≠ .success then (.noMemory, alloc.2)
  else
    let init := onSched (fun sched => sched.call env (.portInit port_id)) alloc.2
    if init.1 ≠ .success then init
    else
      let lists :=
        if env.is_hierarchy_qos_supported = true then
          onSched (fun sched => sched.call env (.portGroupLists port_id)) init.2
        else (.success, init.2)
      if lists.1 ≠ .success then (.noMemory, lists.2)
      else
        let inserted := onSched (fun sched => sched.call env (.portDbInsert port_id)) lists.2
        if inserted.1 ≠ .success then (.failure, inserted.2)
        else (.success, putPort port_id inserted.2)

/-- `sai_qos_port_is_in_use`, of so many levels -/
def portIsInUse (levels : Nat) (port : SchedPort) : Bool :=
  (List.range levels).any (fun level => !(port.sched_groups level).isEmpty) ||
    !port.queues.isEmpty || !port.pgs.isEmpty

/-- `sai_qos_port_global_deinit`. A port that is not there stops at an assertion. -/
def portGlobalDeinit (env : SchedEnv) (port_id : Oid) (db : PortDb) : Status × PortDb :=
  if port_id.type ≠ .port then (.invalidObjectType, db)
  else
    match db.sched.qos_ports port_id with
    | none => (.invalidObjectId, db)
    | some port =>
      if portIsInUse env.max_hierarchy_levels port = true then (.objectInUse, db)
      else (.success, dropPort port_id db)

/-! ## Init -/

section Init

variable (env : PortInitEnv) (port_id : Oid)

/-- So many queues of a type, from an index on. -/
def queuesInitFrom (queue_type : QueueType) : Nat → Nat → SchedDb → Status × SchedDb
  | _, 0, db => (.success, db)
  | queue, queues + 1, db =>
    let created := portQueueCreate env.sched port_id queue_type (queue % 2 ^ 8) .null db
    if created.1 ≠ .success then (created.1, created.2.2)
    else queuesInitFrom queue_type (queue + 1) queues created.2.2

/-- `sai_qos_port_queue_all_init` -/
def portQueueAllInit (db : SchedDb) : Status × SchedDb :=
  if env.separate_queues port_id = true then
    let unicast := queuesInitFrom env port_id .unicast 0 (env.max_uc_queues port_id) db
    if unicast.1 ≠ .success then unicast
    else queuesInitFrom env port_id .multicast 0 (env.max_mc_queues port_id) unicast.2
  else queuesInitFrom env port_id .all 0 (env.max_queues port_id) db

/-- `sai_qos_port_default_hierarchy_init` -/
def portDefaultHierarchyInit (db : SchedDb) : Option (Status × SchedDb) :=
  portHierarchyCreate env.sched port_id
    (if env.is_cpu_port port_id = true then env.default_cpu_hqos else env.default_hqos) db

def portQueuesInit (db : SchedDb) : Option (Status × SchedDb) :=
  if env.sched.is_hierarchy_qos_supported = true then portDefaultHierarchyInit env port_id db
  else some (portQueueAllInit env port_id db)

/-- `sai_qos_port_handle_init_failure`: what the deinits answer is dropped. -/
def portHandleInitFailure (is_global_port_init is_port_queue_init is_port_hierarchy_init : Bool)
    (db : PortDb) : PortDb :=
  let db := if is_port_hierarchy_init = true then
    (onSched (portHierarchyDeinit env.sched port_id) db).2 else db
  let db := if is_port_queue_init = true then
    (onSched (leafLevelHierarchyRemove env.sched port_id) db).2 else db
  if is_global_port_init = true then (portGlobalDeinit env.sched port_id db).2 else db

/-- `sai_qos_port_init_internal`. An access outside of a table of the default hierarchy is `none`. -/
def portInit (db : PortDb) : Option (Status × PortDb) :=
  if db.hasNode port_id = true then some (.success, db)
  else
    let node := portGlobalInit env.sched port_id db
    if node.1 ≠ .success then some (node.1, portHandleInitFailure env port_id false false false node.2)
    else
      match portQueuesInit env port_id node.2.sched with
      | none => none
      | some (rc, sched) =>
        let queues := { node.2 with sched := sched }
        if rc ≠ .success then some (rc, portHandleInitFailure env port_id true false false queues)
        else
          let pgs := onSched (portCreateAllPg env.sched port_id) queues
          if pgs.1 ≠ .success then
            some (pgs.1, portHandleInitFailure env port_id true true
              env.sched.is_hierarchy_qos_supported pgs.2)
          else some pgs

end Init

/-! ## Deinit -/

def portQueuesDeinit (env : SchedEnv) (port_id : Oid) (db : SchedDb) : Status × SchedDb :=
  if env.is_hierarchy_qos_supported = true then portHierarchyDeinit env port_id db
  else leafLevelHierarchyRemove env port_id db

/-- `sai_qos_port_deinit_internal` -/
def portDeinit (env : PortEnv) (port_id : Oid) (db : PortDb) : Status × PortDb :=
  if port_id.type ≠ .port then (.invalidObjectType, db)
  else if db.hasNode port_id = false then (.invalidObjectId, db)
  else
    let wred := portDeinitWred env port_id db
    if wred.1 ≠ .success then wred
    else
      let configs := nonDefaultConfigsRemove env port_id wred.2
      if configs.1 ≠ .success then configs
      else
        let pgs := onSched (portDestroyAllPg env.sched port_id) configs.2
        if pgs.1 ≠ .success then pgs
        else
          let queues := onSched (portQueuesDeinit env.sched port_id) pgs.2
          if queues.1 ≠ .success then queues
          else portGlobalDeinit env.sched port_id queues.2

end OpxSai
