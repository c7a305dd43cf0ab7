import OpxSai.Common.Lock
import OpxSai.Common.Outside
import OpxSai.Lib.Heap

/-!
# QoS: WREDs, buffers and queues

The nodes of the QoS module and its state. A buffer profile is known by its address: a pool lists
addresses of profiles, and a profile can be on that list before it has an id, or after it is gone. The
other nodes are known by their ids. A queue that is given back and still in its tree is marked.

What the NPU holds is in the state too: the WRED on each object, and the last value it took of each
buffer profile attribute for each object.

* `QosDb.access` — nodes of pools and profiles are read or written here.
-/

variable (db : QosDb)

namespace OpxSai

/-! ## WRED -/

/-- `sai_packet_color_t` -/
inductive PacketColor where
  | green | yellow | red
deriving DecidableEq

/-- `sai_ecn_mark_mode_t`; an attribute can carry any other number. -/
inductive EcnMarkMode where
  | none | green | yellow | red | greenYellow | greenRed | yellowRed | all
  | other (s32 : Int)
deriving DecidableEq

/-- An element of `threshold` in `dn_sai_qos_wred_t`. -/
structure WredThreshold where
  enable : Bool
  min_limit : Nat
  max_limit : Nat
  drop_probability : Nat
  ecn_enable : Bool
deriving DecidableEq

/-- `dn_sai_qos_wred_link_t`, in the order in which they are walked. -/
inductive WredLink where
  | queue | port | bufferPool
deriving DecidableEq

structure WredParams where
  wred_id : Oid
  threshold : PacketColor → WredThreshold
  weight : Nat
  ecn_mark_mode : EcnMarkMode

/-- `dn_sai_qos_wred_t`: `links` is its three lists. -/
structure WredNode extends WredParams where
  links : WredLink → List Oid

/-- `sai_attribute_t` of a WRED. -/
inductive WredAttr where
  | enable (color : PacketColor) (booldata : Bool)
  | minThreshold (color : PacketColor) (u32 : Nat)
  | maxThreshold (color : PacketColor) (u32 : Nat)
  | dropProbability (color : PacketColor) (u32 : Nat)
  | weight (u8 : Nat)
  | ecnMarkMode (s32 : EcnMarkMode)
  | unknown (id : Nat)
deriving DecidableEq

/-! ## Buffers -/

/-- `sai_buffer_pool_type_t` -/
inductive PoolType where
  | ingress | egress
  | other (s32 : Int)
deriving DecidableEq

/-- `sai_buffer_pool_threshold_mode_t` -/
inductive PoolThresholdMode where
  | static | dynamic
  | other (s32 : Int)
deriving DecidableEq

/-- `sai_buffer_profile_threshold_mode_t` -/
inductive ProfileThresholdMode where
  | static | dynamic | inheritBufferPoolMode
  | other (s32 : Int)
deriving DecidableEq

/-- `dn_sai_qos_buffer_pool_t`: `buffer_profiles` is its list of profiles, by address. -/
structure BufferPool where
  pool_type : PoolType
  size : BitVec 32
  shared_size : BitVec 32
  xoff_size : BitVec 32
  threshold_mode : PoolThresholdMode
  wred_id : Oid
  is_sw_cached : Bool
  num_ref : Nat
  buffer_profiles : List Nat
deriving DecidableEq

/-- `dn_sai_qos_buffer_profile_t` with its three lists of users. -/
structure BufferProfile where
  profile_id : Oid
  buffer_pool_id : Oid
  size : BitVec 32
  profile_th_enable : Bool
  threshold_mode : ProfileThresholdMode
  dynamic_th : Int
  static_th : BitVec 32
  xoff_th : BitVec 32
  xon_th : BitVec 32
  num_ref : Nat
  ports : List Oid
  queues : List Oid
  pgs : List Oid
deriving DecidableEq

/-- `sai_attribute_t` of a pool. -/
inductive PoolAttr where
  | type (s32 : PoolType)
  | size (u32 : BitVec 32)
  | xoffSize (u32 : BitVec 32)
  | thresholdMode (s32 : PoolThresholdMode)
  | sharedSize (u32 : BitVec 32)
  | wredProfileId (oid : Oid)
  | unknown (id : Nat)
deriving DecidableEq

/-- The `id` of an attribute of a profile. -/
inductive ProfileAttrId where
  | poolId | bufferSize | thresholdMode | sharedDynamicTh | sharedStaticTh | xoffTh | xonTh
  | unknown (id : Nat)
deriving DecidableEq

/-- `sai_attribute_t` of a profile. -/
inductive ProfileAttr where
  | poolId (oid : Oid)
  | bufferSize (u32 : BitVec 32)
  | thresholdMode (s32 : ProfileThresholdMode)
  | sharedDynamicTh (s8 : Int)
  | sharedStaticTh (u32 : BitVec 32)
  | xoffTh (u32 : BitVec 32)
  | xonTh (u32 : BitVec 32)
  | unknown (id : Nat)
deriving DecidableEq

def ProfileAttr.id : ProfileAttr → ProfileAttrId
  | .poolId _ => .poolId
  | .bufferSize _ => .bufferSize
  | .thresholdMode _ => .thresholdMode
  | .sharedDynamicTh _ => .sharedDynamicTh
  | .sharedStaticTh _ => .sharedStaticTh
  | .xoffTh _ => .xoffTh
  | .xonTh _ => .xonTh
  | .unknown id => .unknown id

/-! ## Queues, ports, priority groups and port pools -/

/-- `sai_queue_type_t` -/
inductive QueueType where
  | all | unicast | multicast
  | other (s32 : Int)
deriving DecidableEq

/-- `dn_sai_qos_queue_t`. A node that was given back and is in the tree all the same is `freed`. -/
structure QosQueue where
  port_id : Oid
  queue_type : QueueType
  queue_index : Nat
  parent_sched_group_id : Oid
  wred_id : Oid
  scheduler_id : Oid
  buffer_profile_id : Oid
  freed : Bool
deriving DecidableEq

/-- `dn_sai_qos_port_t` and `dn_sai_qos_pg_t`, of which the buffer profile is used here. -/
structure BufferUser where
  buffer_profile_id : Oid
deriving DecidableEq

/-- `dn_sai_qos_port_pool_t` -/
structure PortPool where
  port_id : Oid
  pool_id : Oid
  wred_id : Oid
  is_sw_cached : Bool
deriving DecidableEq

/-- `sai_attribute_t` of a queue. -/
inductive QueueAttr where
  | type (s32 : QueueType)
  | port (oid : Oid)
  | index (u8 : Nat)
  | parentSchedulerNode (oid : Oid)
  | schedulerProfileId (oid : Oid)
  | wredProfileId (oid : Oid)
  | bufferProfileId (oid : Oid)
  | readOnly (id : Nat)
deriving DecidableEq

/-- `sai_attribute_t` of a port pool. -/
inductive PortPoolAttr where
  | portId (oid : Oid)
  | bufferPoolId (oid : Oid)
  | qosWredProfileId (oid : Oid)
  | unknown (id : Nat)
deriving DecidableEq

/-! ## What leaves the module -/

/-- `dn_sai_operations_t` -/
inductive QosOp where
  | create | set | get
deriving DecidableEq

/-- The NPU library and the trees. A WRED that is put on a pool comes with what the NPU sees there: is
a unicast queue attached. `wredLinkRestore` is `wred_link_set` too, as the recovery asks for it, and a
`profileAttrSet` is marked when the roll-back asks for it. -/
inductive QosCall where
  | wredCreate (params : WredParams) | wredRemove (wred_id : Oid)
  | wredInsert (wred_id : Oid)
  | wredAttrSet (params : WredParams) (attr : WredAttr)
  | wredLinkSet (wred_link_id : Oid) (params : WredParams) (type : WredLink) (attached : Bool)
  | wredLinkRestore (wred_link_id : Oid) (params : WredParams) (type : WredLink)
  | wredLinkReset (wred_link_id : Oid) (type : WredLink)
  | poolCreate (pool : BufferPool) | poolRemove (pool_id : Oid) | poolInsert (pool_id : Oid)
  | poolAttrSet (pool_id : Oid) (attr : PoolAttr)
  | poolAttrGet (pool_id : Oid)
  | profileCreate (profile : BufferProfile) | profileRemove (profile_id : Oid)
  | profileInsert (profile_id : Oid)
  | profileAttrSet (object_id profile_id : Oid) (old_attr attr : ProfileAttr) (back : Bool)
  | profileApply (object_id : Oid) (old_profile new_profile : BufferProfile)
  | checkBufferSize (pool_id profile_id : Oid) (u32 : BitVec 32)
  | queueCreate (queue : QosQueue) | queueRemove (queue_id : Oid) | queueInsert (queue_id : Oid)
  | portQueueListAdd (queue_id : Oid)
  | queueAttachToParent (queue_id parent_id : Oid) | queueDetachFromParent (queue_id : Oid)
  | childNodesUpdate (parent_id queue_id : Oid) (is_add : Bool)
  | queueModifyParent (queue_id parent_id : Oid)
  | queueScheduler (queue_id old_id new_id : Oid)
  | queueAttributeSet (queue_id : Oid) (attr : QueueAttr)
  | portPoolAdd (port_pool_id : Oid) | portPoolNodeRemove (port_pool_id : Oid)
  | wredQueueIds (object_id : Oid)

/-- How the outside answers during one call of the module. -/
structure QosEnv where
  outside : Outside QosCall
  /-- The ids that the NPU and `sai_port_pool_id_create` hand out. -/
  hw_wred_id : Nat
  hw_pool_id : Nat
  hw_profile_id : Nat
  hw_queue_id : Nat
  port_pool_id : Nat
  wred_is_hw_object : Bool
  /-- `SAI_WRED_MAX_BUFFER_LIMIT`, `SAI_WRED_MAX_DROP_PROBABILITY` and `SAI_WRED_MAX_WEIGHT` -/
  max_buffer_limit : Nat
  max_drop_prob : Nat
  max_weight : Nat
  /-- `sai_attribute_validate` against the tables of the NPU -/
  wred_validate : QosOp → List WredAttr → Status
  pool_validate : QosOp → List PoolAttr → Status
  profile_validate : QosOp → List ProfileAttr → Status
  profile_get_validate : List ProfileAttrId → Status
  queue_validate : QosOp → List QueueAttr → Status
  port_pool_validate : QosOp → List PortPoolAttr → Status
  pool_attr_get : Bool
  /-- `sai_qos_default_sched_id_get` -/
  default_sched_id : Oid

/-- An outside on which every call succeeds, and the tables of which take every attribute. -/
def QosEnv.good (hw_id : Nat) : QosEnv where
  outside := fun _ _ => .success
  hw_wred_id := hw_id
  hw_pool_id := hw_id
  hw_profile_id := hw_id
  hw_queue_id := hw_id
  port_pool_id := hw_id
  wred_is_hw_object := false
  max_buffer_limit := 1000
  max_drop_prob := 100
  max_weight := 15
  wred_validate := fun _ _ => .success
  pool_validate := fun _ _ => .success
  profile_validate := fun _ _ => .success
  profile_get_validate := fun _ => .success
  queue_validate := fun _ _ => .success
  port_pool_validate := fun _ _ => .success
  pool_attr_get := true
  default_sched_id := .null

def QosEnv.answers (outside : Outside QosCall) (hw_id : Nat) : QosEnv :=
  { QosEnv.good hw_id with outside := outside }

/-! ## The state -/

/-- The trees of the module, its lock, what the NPU holds, and the calls that left the module. -/
structure QosDb where
  qos_lock : LockDepth
  /-- The depths of the lock at which nodes of pools and profiles were used. -/
  accesses : List Int
  wreds : Oid → Option WredNode
  pools : Oid → Option BufferPool
  profiles : Heap BufferProfile
  profile_tree : Oid → Option Nat
  ports : Oid → Option BufferUser
  queues : Oid → Option QosQueue
  pgs : Oid → Option BufferUser
  port_pools : Oid → Option PortPool
  /-- The port pool of a port and a pool. -/
  port_pool_of : Oid → Oid → Option Oid
  hw_wred : WredLink → Oid → Option WredParams
  hw_profile : Oid → ProfileAttrId → Option ProfileAttr
  outside_log : CallLog QosCall

namespace QosDb

def initial : QosDb where
  qos_lock := ⟨0, false⟩
  accesses := []
  wreds := fun _ => none
  pools := fun _ => none
  profiles := .empty
  profile_tree := fun _ => none
  ports := fun _ => none
  queues := fun _ => none
  pgs := fun _ => none
  port_pools := fun _ => none
  port_pool_of := fun _ _ => none
  hw_wred := fun _ _ => none
  hw_profile := fun _ _ => none
  outside_log := []

def lock (db : QosDb) : QosDb := { db with qos_lock := db.qos_lock.lock }

def unlock (db : QosDb) : QosDb := { db with qos_lock := db.qos_lock.unlock }

/-- Nodes are read or written from here to the next call of the lock. -/
def access (db : QosDb) : QosDb := { db with accesses := db.accesses ++ [db.qos_lock.depth] }

def logged (db : QosDb) (env : QosEnv) (c : QosCall) : QosDb :=
  { db with outside_log := env.outside.log c db.outside_log }

def profileValue (profile : BufferProfile) : ProfileAttrId → ProfileAttr
  | .poolId => .poolId profile.buffer_pool_id
  | .bufferSize => .bufferSize profile.size
  | .thresholdMode => .thresholdMode profile.threshold_mode
  | .sharedDynamicTh => .sharedDynamicTh profile.dynamic_th
  | .sharedStaticTh => .sharedStaticTh profile.static_th
  | .xoffTh => .xoffTh profile.xoff_th
  | .xonTh => .xonTh profile.xon_th
  | .unknown id => .unknown id

def done (db : QosDb) : QosCall → QosDb
  | .wredLinkSet o params type _ =>
    { db with hw_wred := fun t o' => if t = type ∧ o' = o then some params else db.hw_wred t o' }
  | .wredLinkRestore o params type =>
    { db with hw_wred := fun t o' => if t = type ∧ o' = o then some params else db.hw_wred t o' }
  | .wredLinkReset o type =>
    { db with hw_wred := fun t o' => if t = type ∧ o' = o then none else db.hw_wred t o' }
  | .profileAttrSet o _ _ attr _ =>
    { db with hw_profile := fun o' id =>
        if o' = o ∧ id = attr.id then some attr else db.hw_profile o' id }
  | .profileApply o _ profile =>
    { db with hw_profile := fun o' id =>
        if o' = o then some (profileValue profile id) else db.hw_profile o' id }
  | _ => db

def call (db : QosDb) (env : QosEnv) (c : QosCall) : Status × QosDb :=
  let answer := env.outside db.outside_log c
  (answer, if answer = .success then (db.logged env c).done c else db.logged env c)

/-- `sai_qos_buffer_profile_node_get` -/
def profileNodeGet (db : QosDb) (profile_id : Oid) : Option BufferProfile :=
  (db.profile_tree profile_id).bind db.profiles.get

/-! ## What a call leaves -/

section Call

variable (db : QosDb) (env : QosEnv) (c : QosCall)

theorem done_qos_lock : (db.done c).qos_lock = db.qos_lock := by
  cases c <;> rfl

@[simp] theorem call_qos_lock : (db.call env c).2.qos_lock = db.qos_lock := by
  simp only [call]
  split
  · exact done_qos_lock _ c
  · rfl

theorem done_accesses : (db.done c).accesses = db.accesses := by
  cases c <;> rfl

@[simp] theorem call_accesses : (db.call env c).2.accesses = db.accesses := by
  simp only [call]
  split
  · exact done_accesses _ c
  · rfl

theorem done_wreds : (db.done c).wreds = db.wreds := by
  cases c <;> rfl

@[simp] theorem call_wreds : (db.call env c).2.wreds = db.wreds := by
  simp only [call]
  split
  · exact done_wreds _ c
  · rfl

theorem done_pools : (db.done c).pools = db.pools := by
  cases c <;> rfl

@[simp] theorem call_pools : (db.call env c).2.pools = db.pools := by
  simp only [call]
  split
  · exact done_pools _ c
  · rfl

theorem done_profiles : (db.done c).profiles = db.profiles := by
  cases c <;> rfl

@[simp] theorem call_profiles : (db.call env c).2.profiles = db.profiles := by
  simp only [call]
  split
  · exact done_profiles _ c
  · rfl

theorem done_profile_tree : (db.done c).profile_tree = db.profile_tree := by
  cases c <;> rfl

@[simp] theorem call_profile_tree : (db.call env c).2.profile_tree = db.profile_tree := by
  simp only [call]
  split
  · exact done_profile_tree _ c
  · rfl

theorem done_ports : (db.done c).ports = db.ports := by
  cases c <;> rfl

@[simp] theorem call_ports : (db.call env c).2.ports = db.ports := by
  simp only [call]
  split
  · exact done_ports _ c
  · rfl

theorem done_queues : (db.done c).queues = db.queues := by
  cases c <;> rfl

@[simp] theorem call_queues : (db.call env c).2.queues = db.queues := by
  simp only [call]
  split
  · exact done_queues _ c
  · rfl

theorem done_pgs : (db.done c).pgs = db.pgs := by
  cases c <;> rfl

@[simp] theorem call_pgs : (db.call env c).2.pgs = db.pgs := by
  simp only [call]
  split
  · exact done_pgs _ c
  · rfl

theorem done_port_pools : (db.done c).port_pools = db.port_pools := by
  cases c <;> rfl

@[simp] theorem call_port_pools : (db.call env c).2.port_pools = db.port_pools := by
  simp only [call]
  split
  · exact done_port_pools _ c
  · rfl

theorem done_port_pool_of : (db.done c).port_pool_of = db.port_pool_of := by
  cases c <;> rfl

@[simp] theorem call_port_pool_of : (db.call env c).2.port_pool_of = db.port_pool_of := by
  simp only [call]
  split
  · exact done_port_pool_of _ c
  · rfl

theorem done_outside_log : (db.done c).outside_log = db.outside_log := by
  cases c <;> rfl

@[simp] theorem call_outside_log :
    (db.call env c).2.outside_log = db.outside_log ++ [(c, (db.call env c).1)] := by
  simp only [call]
  split
  · exact done_outside_log _ c
  · rfl

theorem call_ok (h : (db.call env c).1 = .success) :
    (db.call env c).2 = (db.logged env c).done c := by
  simp only [call] at h ⊢
  rw [if_pos h]

theorem call_failed (h : (db.call env c).1 ≠ .success) : (db.call env c).2 = db.logged env c := by
  simp only [call] at h ⊢
  rw [if_neg h]

theorem call_ok_wredLinkSet (o) (params) (type) (attached : Bool)
    (h : (db.call env (.wredLinkSet o params type attached)).1 = .success) {t} {o'} :
    (db.call env (.wredLinkSet o params type attached)).2.hw_wred t o' =
      if t = type ∧ o' = o then some params else db.hw_wred t o' := by
  rw [call_ok db env _ h]
  rfl

theorem call_ok_wredLinkRestore (o) (params) (type)
    (h : (db.call env (.wredLinkRestore o params type)).1 = .success) (t) (o') :
    (db.call env (.wredLinkRestore o params type)).2.hw_wred t o' =
      if t = type ∧ o' = o then some params else db.hw_wred t o' := by
  rw [call_ok db env _ h]
  rfl

theorem call_failed_hw (h : (db.call env c).1 ≠ .success) :
    (db.call env c).2.hw_wred = db.hw_wred ∧ (db.call env c).2.hw_profile = db.hw_profile := by
  rw [call_failed db env c h]
  exact ⟨rfl, rfl⟩

/-- A call that is not about a profile of an object leaves these in the NPU as they are. -/
theorem call_hw_profile {c} (hc : ∀ db : QosDb, (db.done c).hw_profile = db.hw_profile) :
    (db.call env c).2.hw_profile = db.hw_profile := by
  by_cases hok : (db.call env c).1 = .success
  · rw [call_ok db env c hok]
    exact hc _
  · exact (call_failed_hw db env c hok).2

end Call

/-- Nothing but what the NPU holds and the log differs. -/
structure NodesSame (db db' : QosDb) : Prop where
  qos_lock : db'.qos_lock = db.qos_lock
  accesses : db'.accesses = db.accesses
  wreds : db'.wreds = db.wreds
  pools : db'.pools = db.pools
  profiles : db'.profiles = db.profiles
  profile_tree : db'.profile_tree = db.profile_tree
  ports : db'.ports = db.ports
  queues : db'.queues = db.queues
  pgs : db'.pgs = db.pgs
  port_pools : db'.port_pools = db.port_pools
  port_pool_of : db'.port_pool_of = db.port_pool_of

namespace NodesSame

theorem refl : NodesSame db db :=
  ⟨rfl, rfl, rfl, rfl, rfl, rfl, rfl, rfl, rfl, rfl, rfl⟩

theorem trans {db₁ db₂ db₃} (h : NodesSame db₁ db₂) (h' : NodesSame db₂ db₃) :
    NodesSame db₁ db₃ :=
  ⟨h'.qos_lock.trans h.qos_lock,
   h'.accesses.trans h.accesses,
   h'.wreds.trans h.wreds,
   h'.pools.trans h.pools,
   h'.profiles.trans h.profiles,
   h'.profile_tree.trans h.profile_tree,
   h'.ports.trans h.ports,
   h'.queues.trans h.queues,
   h'.pgs.trans h.pgs,
   h'.port_pools.trans h.port_pools,
   h'.port_pool_of.trans h.port_pool_of⟩

theorem call (env) (c) : NodesSame db (db.call env c).2 :=
  ⟨call_qos_lock db env c, call_accesses db env c, call_wreds db env c,
   call_pools db env c, call_profiles db env c,
   call_profile_tree db env c, call_ports db env c,
   call_queues db env c, call_pgs db env c, call_port_pools db env c,
   call_port_pool_of db env c⟩

end NodesSame

structure TreesSame (db db' : QosDb) : Prop where
  wreds : db'.wreds = db.wreds
  pools : db'.pools = db.pools
  profiles : db'.profiles = db.profiles
  profile_tree : db'.profile_tree = db.profile_tree
  ports : db'.ports = db.ports
  queues : db'.queues = db.queues
  pgs : db'.pgs = db.pgs
  port_pools : db'.port_pools = db.port_pools
  port_pool_of : db'.port_pool_of = db.port_pool_of

namespace TreesSame

theorem refl : TreesSame db db :=
  ⟨rfl, rfl, rfl, rfl, rfl, rfl, rfl, rfl, rfl⟩

theorem trans {db₁ db₂ db₃} (h : TreesSame db₁ db₂) (h' : TreesSame db₂ db₃) :
    TreesSame db₁ db₃ :=
  ⟨h'.wreds.trans h.wreds,
   h'.pools.trans h.pools,
   h'.profiles.trans h.profiles,
   h'.profile_tree.trans h.profile_tree,
   h'.ports.trans h.ports,
   h'.queues.trans h.queues,
   h'.pgs.trans h.pgs,
   h'.port_pools.trans h.port_pools,
   h'.port_pool_of.trans h.port_pool_of⟩

theorem symm {db db'} (h : TreesSame db db') : TreesSame db' db :=
  ⟨h.wreds.symm, h.pools.symm, h.profiles.symm, h.profile_tree.symm, h.ports.symm,
   h.queues.symm, h.pgs.symm, h.port_pools.symm, h.port_pool_of.symm⟩

theorem of_nodes {db db'} (h : NodesSame db db') : TreesSame db db' :=
  ⟨h.wreds, h.pools, h.profiles, h.profile_tree, h.ports, h.queues, h.pgs,
   h.port_pools, h.port_pool_of⟩

theorem call (db) (env) (c) : TreesSame db (db.call env c).2 :=
  of_nodes (.call db env c)

theorem lock : TreesSame db db.lock.access :=
  ⟨rfl, rfl, rfl, rfl, rfl, rfl, rfl, rfl, rfl⟩

theorem access : TreesSame db db.access :=
  ⟨rfl, rfl, rfl, rfl, rfl, rfl, rfl, rfl, rfl⟩

theorem unlock : TreesSame db db.unlock :=
  ⟨rfl, rfl, rfl, rfl, rfl, rfl, rfl, rfl, rfl⟩

theorem profileNodeGet {db db'} (h : TreesSame db db') (profile_id) :
    db'.profileNodeGet profile_id = db.profileNodeGet profile_id := by
  unfold QosDb.profileNodeGet
  rw [h.profile_tree, h.profiles]

end TreesSame

end QosDb

end OpxSai
