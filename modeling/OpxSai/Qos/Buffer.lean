import OpxSai.Qos.Wred

/-!
# Buffer pools and buffer profiles

A profile belongs to a pool, and ports, queues and priority groups use it. A pool keeps what is left
of its size when the profiles in it have been given to their users: `shared_size`. A profile is put on
the list of its pool while its attributes are parsed.
-/

variable (env : QosEnv)

namespace OpxSai

open QosDb

/-! ## Pools -/

/-- A pool as `sai_qos_buffer_pool_node_alloc` gives it, after `sai_qos_init_buffer_pool_node`. -/
def bufferPoolInit : BufferPool where
  pool_type := .ingress
  size := 0
  shared_size := 0
  xoff_size := 0
  threshold_mode := .dynamic
  wred_id := .null
  is_sw_cached := false
  num_ref := 0
  buffer_profiles := []

/-- `sai_qos_buffer_pool_attributes_validate` -/
def bufferPoolAttributesValidate (attr_list : List PoolAttr) (op_type : QosOp) : Status :=
  if attr_list.length = 0 then .invalidParameter else env.pool_validate op_type attr_list

/-- `sai_qos_update_buffer_pool_node`, with the index of the last XOFF size. -/
def updateBufferPoolNode : Nat → Option Nat → List PoolAttr → BufferPool → Status × BufferPool
  | _, none, [], pool => (.success, pool)
  | _, some xoff_size_attr_idx, [], pool =>
    (if pool.pool_type = .egress then .invalidAttribute xoff_size_attr_idx else .success, pool)
  | attr_idx, xoff_idx, attr :: attr_list, pool =>
    match attr with
    | .type s32 => updateBufferPoolNode (attr_idx + 1) xoff_idx attr_list { pool with pool_type := s32 }
    | .size u32 => updateBufferPoolNode (attr_idx + 1) xoff_idx attr_list { pool with size := u32 }
    | .xoffSize u32 =>
      updateBufferPoolNode (attr_idx + 1) (some attr_idx) attr_list { pool with xoff_size := u32 }
    | .thresholdMode s32 =>
      updateBufferPoolNode (attr_idx + 1) xoff_idx attr_list { pool with threshold_mode := s32 }
    | .sharedSize _ => (.invalidAttribute attr_idx, pool)
    | .wredProfileId oid =>
      updateBufferPoolNode (attr_idx + 1) xoff_idx attr_list { pool with wred_id := oid }
    | .unknown _ => (.unknownAttribute attr_idx, pool)

/-- `sai_qos_validate_shared_buffer_pool_size`: the sizes wrap around, and the sum is read as an
`int`. -/
def validateSharedBufferPoolSize (old_pool : Option BufferPool) (pool : BufferPool) :
    Status × BufferPool :=
  if 0 < pool.xoff_size ∧ pool.pool_type ≠ .ingress then (.invalidParameter, pool)
  else if pool.size < pool.xoff_size then (.invalidParameter, pool)
  else
    let cur_size := old_pool.elim 0 BufferPool.size
    let cur_xoff_size := old_pool.elim 0 BufferPool.xoff_size
    let shared_size := pool.shared_size + pool.size - cur_size - pool.xoff_size + cur_xoff_size
    if shared_size.toInt < 0 then (.insufficientResources, pool)
    else (.success, { pool with shared_size := shared_size })

def setBufferPool (pool_id : Oid) (f : BufferPool → BufferPool) (db : QosDb) : QosDb :=
  { db with pools := fun o => if o = pool_id then (db.pools o).map f else db.pools o }

def removePoolNode (pool_id : Oid) (db : QosDb) : QosDb :=
  { db with pools := fun o => if o = pool_id then none else db.pools o }

def insertPoolNode (pool_id : Oid) (pool : BufferPool) (db : QosDb) : QosDb :=
  { db with pools := fun o => if o = pool_id then some pool else db.pools o }

/-- The WRED of a new pool; a pool that does not get it leaves the tree, and the NPU. -/
def createBufferPoolWred (pool_id wred_id : Oid) (db : QosDb) : Status × QosDb :=
  if wred_id = .null then (.success, db)
  else
    let linked := wredLinkSet env pool_id wred_id .bufferPool db
    if linked.1 ≠ .success then
      (linked.1, ((removePoolNode pool_id linked.2).call env (.poolRemove pool_id)).2)
    else (.success, setBufferPool pool_id (fun pool => { pool with wred_id := wred_id }) linked.2)

/-- What `sai_qos_create_buffer_pool` does under the lock. -/
def createBufferPoolLocked (attr_list : List PoolAttr) (db : QosDb) : Status × QosDb :=
  let updated := updateBufferPoolNode 0 none attr_list bufferPoolInit
  if updated.1 ≠ .success then (updated.1, db)
  else if updated.2.wred_id ≠ .null ∧ updated.2.pool_type = .ingress then (.invalidAttrValue 0, db)
  else
    let valid := validateSharedBufferPoolSize none updated.2
    if valid.1 ≠ .success then (valid.1, db)
    else
      let created := db.call env (.poolCreate valid.2)
      if created.1 ≠ .success then created
      else
        let pool_id := uoidCreate .bufferPool env.hw_pool_id
        let inserted := created.2.call env (.poolInsert pool_id)
        if inserted.1 ≠ .success ∨ (created.2.pools pool_id).isSome = true then
          (.failure, (inserted.2.call env (.poolRemove pool_id)).2)
        else
          createBufferPoolWred env pool_id valid.2.wred_id
            (insertPoolNode pool_id { valid.2 with wred_id := .null } inserted.2)

/-- `sai_qos_create_buffer_pool` -/
def createBufferPool (attr_list : List PoolAttr) (db : QosDb) : Status × QosDb :=
  let rc := bufferPoolAttributesValidate env attr_list .create
  if rc ≠ .success then (rc, db)
  else
    let created := createBufferPoolLocked env attr_list db.lock.access
    (created.1, created.2.unlock)

/-- What `sai_qos_remove_buffer_pool` does under the lock. -/
def removeBufferPoolLocked (pool_id : Oid) (db : QosDb) : Status × QosDb :=
  match db.pools pool_id with
  | none => (.itemNotFound, db)
  | some pool =>
    if pool.num_ref ≠ 0 then (.objectInUse, db)
    else
      let removed := db.call env (.poolRemove pool_id)
      if removed.1 ≠ .success then removed
      else (.success, removePoolNode pool_id removed.2)

/-- `sai_qos_remove_buffer_pool` -/
def removeBufferPool (pool_id : Oid) (db : QosDb) : Status × QosDb :=
  let removed := removeBufferPoolLocked env pool_id db.lock.access
  (removed.1, removed.2.unlock)

/-- What `sai_qos_buffer_pool_attr_set` does under the lock. A new XOFF size is told to the NPU, and
not stored; a new WRED is stored by the link. -/
def bufferPoolAttrSetLocked (pool_id : Oid) (attr : PoolAttr) (db : QosDb) : Status × QosDb :=
  match db.pools pool_id with
  | none => (.itemNotFound, db)
  | some pool =>
    let updated := updateBufferPoolNode 0 none [attr] pool
    if updated.1 ≠ .success then (updated.1, db)
    else
      match attr with
      | .xoffSize _ =>
        if updated.2.pool_type ≠ .ingress then (.attrNotSupported 0, db)
        else db.call env (.poolAttrSet pool_id attr)
      | .size _ =>
        let valid := validateSharedBufferPoolSize (some pool) updated.2
        if valid.1 ≠ .success then (valid.1, db)
        else
          let set := db.call env (.poolAttrSet pool_id attr)
          if set.1 ≠ .success then set
          else (.success, setBufferPool pool_id (fun _ => valid.2) set.2)
      | .wredProfileId _ =>
        if updated.2.wred_id = pool.wred_id then (.success, db)
        else if pool.pool_type = .ingress then (.invalidAttrValue 0, db)
        else wredLinkSet env pool_id updated.2.wred_id .bufferPool db
      | .thresholdMode _ => (.invalidAttribute 0, db)
      | .sharedSize _ => (.invalidAttribute 0, db)
      | .type _ => (.invalidAttribute 0, db)
      | .unknown _ => (.unknownAttribute 0, db)

/-- `sai_qos_buffer_pool_attr_set` -/
def bufferPoolAttrSet (pool_id : Oid) (attr : PoolAttr) (db : QosDb) : Status × QosDb :=
  let rc := bufferPoolAttributesValidate env [attr] .set
  if rc ≠ .success then (rc, db)
  else
    let set := bufferPoolAttrSetLocked env pool_id attr db.lock.access
    (set.1, set.2.unlock)

/-- `sai_qos_buffer_pool_attr_get`; the values are those of the NPU. -/
def bufferPoolAttrGet (pool_id : Oid) (attr_list : List PoolAttr) (db : QosDb) : Status × QosDb :=
  let rc := bufferPoolAttributesValidate env attr_list .get
  if rc ≠ .success then (rc, db)
  else
    let locked := db.lock.access
    if (locked.pools pool_id).isSome = false then (.itemNotFound, locked.unlock)
    else if env.pool_attr_get = true then
      let got := locked.call env (.poolAttrGet pool_id)
      (got.1, got.2.unlock)
    else (.notSupported, locked.unlock)

/-! ## Pools, as profiles see them -/

/-- `sai_qos_is_buffer_pool_available` -/
def isBufferPoolAvailable (db : QosDb) (pool_id : Oid) (size : BitVec 32) : Bool :=
  (db.pools pool_id).any fun pool => size ≤ pool.shared_size

/-- `sai_qos_is_buffer_pool_compatible` -/
def isBufferPoolCompatible (db : QosDb) (pool_id_1 pool_id_2 : Oid) (check_th : Bool) : Bool :=
  match db.pools pool_id_1, db.pools pool_id_2 with
  | some pool_1, some pool_2 =>
    pool_1.pool_type = pool_2.pool_type ∧
      (check_th = true → pool_1.threshold_mode = pool_2.threshold_mode)
  | _, _ => false

/-- `sai_qos_is_object_buffer_profile_compatible` -/
def isObjectBufferProfileCompatible (db : QosDb) (object_id : Oid) (profile : BufferProfile) : Bool :=
  match db.pools profile.buffer_pool_id with
  | none => false
  | some pool =>
    (pool.pool_type = .ingress ∧ (object_id.type = .port ∨ object_id.type = .ingressPriorityGroup)) ∨
      (pool.pool_type = .egress ∧ object_id.type = .queue)

/-- `sai_qos_is_buffer_pool_xoff_size_configured` -/
def isBufferPoolXoffSizeConfigured (db : QosDb) (pool_id : Oid) : Bool :=
  (db.pools pool_id).any fun pool => 0 < pool.xoff_size

/-- `sai_qos_buffer_profile_get_reserved_xoff_th_get` -/
def bufferProfileReservedXoffTh (db : QosDb) (profile : BufferProfile) : BitVec 32 :=
  if isBufferPoolXoffSizeConfigured db profile.buffer_pool_id = true then 0 else profile.xoff_th

/-- The threshold mode of a pool has the numbers of that of a profile. -/
def PoolThresholdMode.toProfile : PoolThresholdMode → ProfileThresholdMode
  | .static => .static
  | .dynamic => .dynamic
  | .other s32 => .other s32

/-- `sai_qos_buffer_profile_is_valid_threshold_applied` -/
def bufferProfileIsValidThresholdApplied (db : QosDb) (profile : BufferProfile) (attr : ProfileAttr) :
    Bool :=
  match db.pools profile.buffer_pool_id with
  | none => false
  | some pool =>
    let mode : ProfileThresholdMode :=
      if profile.profile_th_enable = true ∧ profile.threshold_mode ≠ .inheritBufferPoolMode then
        profile.threshold_mode
      else pool.threshold_mode.toProfile
    (mode = .static ∧ attr.id = .sharedStaticTh) ∨ (mode = .dynamic ∧ attr.id = .sharedDynamicTh) ∨
      (pool.pool_type = .ingress ∧ (attr.id = .xoffTh ∨ attr.id = .xonTh))

/-! ## The attributes of a profile -/

structure ProfileScan where
  pool : Option BufferPool
  pool_idx : Nat
  is_static : Bool
  is_dynamic : Bool
  th_mode : Option ProfileThresholdMode
  pfc_attr_idx : Option Nat

/-- The loops of the two checks. The last pool counts, also when there is none with its id. -/
def profileScan (db : QosDb) : Nat → List ProfileAttr → ProfileScan → ProfileScan
  | _, [], scan => scan
  | attr_idx, attr :: attr_list, scan =>
    profileScan db (attr_idx + 1) attr_list
      (match attr with
      | .poolId oid => { scan with pool := db.pools oid, pool_idx := attr_idx }
      | .sharedStaticTh _ => { scan with is_static := true }
      | .sharedDynamicTh _ => { scan with is_dynamic := true }
      | .thresholdMode s32 => { scan with th_mode := some s32 }
      | .xoffTh _ => { scan with pfc_attr_idx := some attr_idx }
      | .xonTh _ => { scan with pfc_attr_idx := some attr_idx }
      | _ => scan)

/-- `sai_qos_buffer_profile_is_mandatory_th_attr_present` -/
def bufferProfileIsMandatoryThAttrPresent (scan : ProfileScan) : Status :=
  match scan.pool with
  | none => .invalidAttrValue scan.pool_idx
  | some pool =>
    if scan.is_dynamic = true ∧ scan.is_static = true then .invalidParameter
    else
      let mode : ProfileThresholdMode :=
        match scan.th_mode with
        | none => pool.threshold_mode.toProfile
        | some .inheritBufferPoolMode =>
          if pool.threshold_mode = .static ∨ pool.threshold_mode = .dynamic then
            pool.threshold_mode.toProfile
          else .inheritBufferPoolMode
        | some mode => mode
      if mode = .static ∧ scan.is_static = false then .mandatoryAttributeMissing
      else if mode = .dynamic ∧ scan.is_dynamic = false then .mandatoryAttributeMissing
      else .success

/-- `sai_qos_buffer_profile_is_pfc_threshold_valid` -/
def bufferProfileIsPfcThresholdValid (scan : ProfileScan) : Status :=
  match scan.pool, scan.pfc_attr_idx with
  | none, _ => .invalidParameter
  | some _, none => .success
  | some pool, some pfc_attr_idx =>
    if pool.pool_type = .egress then .invalidAttribute pfc_attr_idx else .success

/-- A pool is looked up for the attributes. -/
def namesPool (attr_list : List ProfileAttr) : Bool :=
  attr_list.any fun attr => attr.id = .poolId

/-- `sai_qos_buffer_profile_attributes_validate`. The pools of a create are read here, with or without
the lock. -/
def bufferProfileAttributesValidate (attr_list : List ProfileAttr) (op_type : QosOp)
    (db : QosDb) : Status × QosDb :=
  if attr_list.length = 0 then (.invalidParameter, db)
  else
    let rc := env.profile_validate op_type attr_list
    if rc ≠ .success then (rc, db)
    else if op_type = .create then
      let db := if namesPool attr_list = true then db.access else db
      let scan := profileScan db 0 attr_list ⟨none, 0, false, false, none, none⟩
      let th := bufferProfileIsMandatoryThAttrPresent scan
      if th ≠ .success then (th, db) else (bufferProfileIsPfcThresholdValid scan, db)
    else (.success, db)

def setBufferProfile (ptr : Nat) (f : BufferProfile → BufferProfile) (db : QosDb) : QosDb :=
  { db with profiles := db.profiles.modify ptr f }

def leaveBufferPool (ptr : Nat) (pool_id : Oid) (db : QosDb) : QosDb :=
  setBufferPool pool_id (fun pool =>
    { pool with buffer_profiles := pool.buffer_profiles.erase ptr, num_ref := pool.num_ref - 1 }) db

def joinBufferPool (ptr : Nat) (pool_id : Oid) (db : QosDb) : QosDb :=
  setBufferPool pool_id (fun pool =>
    { pool with buffer_profiles := pool.buffer_profiles ++ [ptr], num_ref := pool.num_ref + 1 })
    (setBufferProfile ptr (fun profile => { profile with buffer_pool_id := pool_id }) db)

def moveBufferPool (ptr : Nat) (pool_id : Oid) (db : QosDb) : QosDb :=
  let old_pool_id := (db.profiles.get ptr).elim .null BufferProfile.buffer_pool_id
  joinBufferPool ptr pool_id
    (if old_pool_id ≠ .null then leaveBufferPool ptr old_pool_id db else db)

/-- `sai_qos_update_buffer_profile_node` -/
def updateBufferProfileNode (ptr : Nat) : Nat → List ProfileAttr → QosDb → Status × QosDb
  | _, [], db => (.success, db)
  | attr_idx, attr :: attr_list, db =>
    match attr with
    | .poolId oid =>
      if (db.pools oid).isSome = false then (.itemNotFound, db)
      else updateBufferProfileNode ptr (attr_idx + 1) attr_list (moveBufferPool ptr oid db)
    | .bufferSize u32 =>
      updateBufferProfileNode ptr (attr_idx + 1) attr_list
        (setBufferProfile ptr (fun profile => { profile with size := u32 }) db)
    | .thresholdMode s32 =>
      updateBufferProfileNode ptr (attr_idx + 1) attr_list
        (setBufferProfile ptr (fun profile =>
          { profile with profile_th_enable := true, threshold_mode := s32 }) db)
    | .sharedDynamicTh s8 =>
      updateBufferProfileNode ptr (attr_idx + 1) attr_list
        (setBufferProfile ptr (fun profile => { profile with dynamic_th := s8 }) db)
    | .sharedStaticTh u32 =>
      updateBufferProfileNode ptr (attr_idx + 1) attr_list
        (setBufferProfile ptr (fun profile => { profile with static_th := u32 }) db)
    | .xoffTh u32 =>
      updateBufferProfileNode ptr (attr_idx + 1) attr_list
        (setBufferProfile ptr (fun profile => { profile with xoff_th := u32 }) db)
    | .xonTh u32 =>
      updateBufferProfileNode ptr (attr_idx + 1) attr_list
        (setBufferProfile ptr (fun profile => { profile with xon_th := u32 }) db)
    | .unknown _ => (.unknownAttribute attr_idx, db)

/-- `sai_qos_read_buffer_profile_node` -/
def readBufferProfileNode (db : QosDb) (profile : BufferProfile) :
    Nat → List ProfileAttrId → Except Status (List ProfileAttr)
  | _, [] => .ok []
  | attr_idx, id :: ids =>
    match id with
    | .thresholdMode =>
      if profile.profile_th_enable = true then
        (readBufferProfileNode db profile (attr_idx + 1) ids).map
          (.thresholdMode profile.threshold_mode :: ·)
      else
        match db.pools profile.buffer_pool_id with
        | none => .error .failure
        | some pool =>
          (readBufferProfileNode db profile (attr_idx + 1) ids).map
            (.thresholdMode pool.threshold_mode.toProfile :: ·)
    | .unknown _ => .error (.unknownAttribute attr_idx)
    | id => (readBufferProfileNode db profile (attr_idx + 1) ids).map (profileValue profile id :: ·)

/-! ## Profiles -/

/-- A profile of zeros, as it is allocated, or as `sai_qos_get_default_buffer_profile` leaves it. -/
def bufferProfileInit : BufferProfile where
  profile_id := .null
  buffer_pool_id := .null
  size := 0
  profile_th_enable := false
  threshold_mode := .static
  dynamic_th := 0
  static_th := 0
  xoff_th := 0
  xon_th := 0
  num_ref := 0
  ports := []
  queues := []
  pgs := []

/-- `sai_qos_buffer_profile_node_free`: the lists that hold the node keep its address. -/
def freeBufferProfile (ptr : Nat) (db : QosDb) : QosDb :=
  { db with profiles := db.profiles.free ptr }

/-- What `sai_qos_create_buffer_profile` does under the lock, with the node that it allocated. -/
def createBufferProfileLocked (ptr : Nat) (attr_list : List ProfileAttr) (db : QosDb) :
    Status × QosDb :=
  let updated := updateBufferProfileNode ptr 0 attr_list db
  if updated.1 ≠ .success then (updated.1, freeBufferProfile ptr updated.2)
  else
    let created := updated.2.call env
      (.profileCreate ((updated.2.profiles.get ptr).getD bufferProfileInit))
    if created.1 ≠ .success then (created.1, freeBufferProfile ptr created.2)
    else
      let profile_id := uoidCreate .bufferProfile env.hw_profile_id
      let inserted := (setBufferProfile ptr (fun profile => { profile with profile_id := profile_id })
        created.2).call env (.profileInsert profile_id)
      if inserted.1 ≠ .success ∨ (created.2.profile_tree profile_id).isSome = true then
        (.failure, freeBufferProfile ptr (inserted.2.call env (.profileRemove profile_id)).2)
      else
        (.success, { inserted.2 with
          profile_tree := fun o => if o = profile_id then some ptr else inserted.2.profile_tree o })

/-- `sai_qos_create_buffer_profile` -/
def createBufferProfile (attr_list : List ProfileAttr) (db : QosDb) : Status × QosDb :=
  let valid := bufferProfileAttributesValidate env attr_list .create db
  if valid.1 ≠ .success then valid
  else
    let created := createBufferProfileLocked env valid.2.profiles.next attr_list
      { valid.2 with profiles := valid.2.profiles.alloc bufferProfileInit }.lock.access
    (created.1, created.2.unlock)

/-- `sai_qos_buffer_profile_node_remove_from_tree` -/
def bufferProfileNodeRemoveFromTree (ptr : Nat) (profile : BufferProfile) (db : QosDb) : QosDb :=
  if profile.num_ref ≠ 0 then db
  else
    let db := leaveBufferPool ptr profile.buffer_pool_id db
    { db with
      profile_tree := fun o => if o = profile.profile_id then none else db.profile_tree o }

/-- What `sai_qos_remove_buffer_profile` does under the lock. -/
def removeBufferProfileLocked (profile_id : Oid) (db : QosDb) : Status × QosDb :=
  match db.profile_tree profile_id, db.profileNodeGet profile_id with
  | some ptr, some profile =>
    if profile.num_ref ≠ 0 then (.objectInUse, db)
    else
      let removed := db.call env (.profileRemove profile_id)
      if removed.1 ≠ .success then removed
      else (.success, freeBufferProfile ptr (bufferProfileNodeRemoveFromTree ptr profile removed.2))
  | _, _ => (.itemNotFound, db)

/-- `sai_qos_remove_buffer_profile` -/
def removeBufferProfile (profile_id : Oid) (db : QosDb) : Status × QosDb :=
  let removed := removeBufferProfileLocked env profile_id db.lock.access
  (removed.1, removed.2.unlock)

/-- `sai_qos_buffer_profile_attr_get_internal`: an unknown profile gives the lock back, that the callers
hold. -/
def bufferProfileAttrGetInternal (profile_id : Oid) (ids : List ProfileAttrId)
    (db : QosDb) : Except Status (List ProfileAttr) × QosDb :=
  if ids.length = 0 then (.error .invalidParameter, db)
  else if env.profile_get_validate ids ≠ .success then (.error (env.profile_get_validate ids), db)
  else
    match db.access.profileNodeGet profile_id with
    | none => (.error .itemNotFound, db.access.unlock)
    | some profile => (readBufferProfileNode db.access profile 0 ids, db.access)

/-- `sai_qos_buffer_profile_attr_get` -/
def bufferProfileAttrGet (profile_id : Oid) (ids : List ProfileAttrId) (db : QosDb) :
    Except Status (List ProfileAttr) × QosDb :=
  let got := bufferProfileAttrGetInternal env profile_id ids db.lock
  (got.1, got.2.unlock)

/-! ## The shared size -/

/-- `sai_qos_buffer_pool_size_recalc` -/
def bufferPoolSizeRecalc (pool_id : Oid) (size : BitVec 32) (is_add : Bool)
    (db : QosDb) : Status × QosDb :=
  match db.pools pool_id with
  | none => (.itemNotFound, db)
  | some pool =>
    if is_add = true ∧ pool.shared_size < size then (.insufficientResources, db)
    else
      let taken := fun pool : BufferPool =>
        { pool with shared_size := if is_add = true then pool.shared_size - size
            else pool.shared_size + size }
      let back := fun pool : BufferPool =>
        { pool with shared_size := if is_add = true then pool.shared_size + size
            else pool.shared_size - size }
      let set := (setBufferPool pool_id taken db).call env (.poolAttrSet pool_id (.size pool.size))
      if set.1 ≠ .success then (set.1, setBufferPool pool_id back set.2) else set

/-! ## The users of a profile take a new value -/

/-- The loop over one list of users, up to the user `stop`; and the user that failed. -/
def updateBufferProfileUsers (env : QosEnv) (profile_id : Oid) (old_attr attr : ProfileAttr)
    (back : Bool) : List Oid → Oid → QosDb → Status × Oid × QosDb
  | [], stop, db => (.success, stop, db)
  | user :: users, stop, db =>
    if user = stop then (.success, stop, db)
    else
      let set := db.call env (.profileAttrSet user profile_id old_attr attr back)
      if set.1 ≠ .success then (set.1, user, set.2)
      else updateBufferProfileUsers env profile_id old_attr attr back users stop set.2

/-- `sai_qos_update_buffer_profile_ports` -/
def updateBufferProfilePorts (profile : BufferProfile) (old_attr attr : ProfileAttr)
    (back : Bool) (port_id : Oid) (db : QosDb) : Status × Oid × QosDb :=
  updateBufferProfileUsers env profile.profile_id old_attr attr back profile.ports port_id db

/-- `sai_qos_update_buffer_profile_queues` -/
def updateBufferProfileQueues (profile : BufferProfile) (old_attr attr : ProfileAttr)
    (back : Bool) (queue_id : Oid) (db : QosDb) : Status × Oid × QosDb :=
  updateBufferProfileUsers env profile.profile_id old_attr attr back profile.queues queue_id db

/-- `sai_qos_update_buffer_profile_pgs` -/
def updateBufferProfilePgs (profile : BufferProfile) (old_attr attr : ProfileAttr)
    (back : Bool) (pg_id : Oid) (db : QosDb) : Status × Oid × QosDb :=
  updateBufferProfileUsers env profile.profile_id old_attr attr back profile.pgs pg_id db

/-- The variables of `sai_qos_update_buffer_profile_objects`. -/
structure ProfileUpdate where
  rc : Status
  port_id : Oid
  queue_id : Oid
  pg_id : Oid
  port_update : Bool
  queue_update : Bool
  pg_update : Bool
  db : QosDb

/-- The thresholds of PFC are for priority groups only. -/
def ProfileAttrId.isPfc : ProfileAttrId → Bool
  | .xoffTh => true
  | .xonTh => true
  | _ => false

/-- Ports and queues, where the attribute is for them. -/
def updateBufferProfilePortsQueues (profile : BufferProfile)
    (old_attr attr : ProfileAttr) (at_ : ProfileUpdate) : ProfileUpdate :=
  if attr.id.isPfc = true then at_
  else
    let ports := updateBufferProfilePorts env profile old_attr attr false at_.port_id at_.db
    let at_ := { at_ with rc := ports.1, port_id := ports.2.1, port_update := true, db := ports.2.2 }
    if at_.rc ≠ .success then at_
    else
      let queues := updateBufferProfileQueues env profile old_attr attr false at_.queue_id at_.db
      { at_ with rc := queues.1, queue_id := queues.2.1, queue_update := true, db := queues.2.2 }

/-- The loop body of `sai_qos_update_buffer_profile_objects`. -/
def updateBufferProfileForward (ptr : Nat) (profile : BufferProfile)
    (old_attr attr : ProfileAttr) (db : QosDb) : ProfileUpdate :=
  let at_ : ProfileUpdate := ⟨.success, .null, .null, .null, false, false, false, db⟩
  if attr.id = .thresholdMode then
    let stored := updateBufferProfileNode ptr 0 [attr] db
    { at_ with rc := stored.1, db := stored.2 }
  else
    let at_ := updateBufferProfilePortsQueues env profile old_attr attr at_
    if at_.rc ≠ .success then at_
    else
      let pgs := updateBufferProfilePgs env profile old_attr attr false at_.pg_id at_.db
      let at_ := { at_ with rc := pgs.1, pg_id := pgs.2.1, pg_update := true, db := pgs.2.2 }
      if at_.rc ≠ .success then at_
      else
        let stored := updateBufferProfileNode ptr 0 [attr] at_.db
        { at_ with rc := stored.1, db := stored.2 }

/-- The end of `sai_qos_update_buffer_profile_objects`: every list that was begun gets the old value
back, up to the user that failed. -/
def updateBufferProfileBack (profile : BufferProfile) (old_attr attr : ProfileAttr)
    (at_ : ProfileUpdate) : QosDb :=
  let db := if at_.port_update = true then
    (updateBufferProfilePorts env profile attr old_attr true at_.port_id at_.db).2.2 else at_.db
  let db := if at_.queue_update = true then
    (updateBufferProfileQueues env profile attr old_attr true at_.queue_id db).2.2 else db
  if at_.pg_update = true then
    (updateBufferProfilePgs env profile attr old_attr true at_.pg_id db).2.2 else db

/-- `sai_qos_update_buffer_profile_objects` -/
def updateBufferProfileObjects (ptr : Nat) (profile : BufferProfile)
    (old_attr attr : ProfileAttr) (db : QosDb) : Status × QosDb :=
  let at_ := updateBufferProfileForward env ptr profile old_attr attr db
  if at_.rc ≠ .success then (at_.rc, updateBufferProfileBack env profile old_attr attr at_)
  else (at_.rc, at_.db)

/-! ## Set -/

/-- A size that is to grow, for each reference: the pool has the room, and the NPU agrees. -/
def checkBufferGrowth (profile : BufferProfile) (u32 : BitVec 32) (db : QosDb) :
    Except Status (BitVec 32 × Bool) × QosDb :=
  let buf_size := BitVec.ofNat 32 profile.num_ref * u32
  if isBufferPoolAvailable db profile.buffer_pool_id buf_size = false then
    (.error .insufficientResources, db)
  else
    let checked := db.call env (.checkBufferSize profile.buffer_pool_id profile.profile_id u32)
    if checked.1 ≠ .success then (.error .insufficientResources, checked.2)
    else (.ok (buf_size, true), checked.2)

/-- `sai_qos_check_buffer_size`: the size that the set moves, and whether the pool loses it. -/
def checkBufferSize (attr : ProfileAttr) (profile : BufferProfile) (db : QosDb) :
    Except Status (BitVec 32 × Bool) × QosDb :=
  match attr with
  | .poolId oid =>
    let buf_size := BitVec.ofNat 32 profile.num_ref *
      (profile.size + bufferProfileReservedXoffTh db profile)
    if isBufferPoolAvailable db oid buf_size = false then (.error .insufficientResources, db)
    else (.ok (buf_size, false), db)
  | .bufferSize u32 =>
    if profile.size < u32 then checkBufferGrowth env profile (u32 - profile.size) db
    else (.ok (BitVec.ofNat 32 profile.num_ref * (profile.size - u32), false), db)
  | .xoffTh u32 =>
    if isBufferPoolXoffSizeConfigured db profile.buffer_pool_id = true then (.ok (0, true), db)
    else if profile.xoff_th < u32 then checkBufferGrowth env profile (u32 - profile.xoff_th) db
    else (.ok (BitVec.ofNat 32 profile.num_ref * (profile.xoff_th - u32), false), db)
  | _ => (.ok (0, false), db)

/-- `sai_qos_check_buffer_profile_attr_value` -/
def checkBufferProfileAttrValue (db : QosDb) (attr : ProfileAttr) (profile : BufferProfile) : Status :=
  match attr with
  | .poolId oid =>
    if isBufferPoolCompatible db oid profile.buffer_pool_id (!profile.profile_th_enable) = true then
      .success
    else .invalidAttrValue 0
  | .bufferSize _ => .success
  | .thresholdMode _ => .success
  | .unknown _ => .success
  | attr =>
    if bufferProfileIsValidThresholdApplied db profile attr = true then .success
    else .invalidAttribute 0

/-- The end of `sai_qos_buffer_profile_attr_set`; what the recalculations answer is dropped. -/
def bufferProfileRecalc (attr : ProfileAttr) (old_pool_id pool_id : Oid)
    (buf_size : BitVec 32) (is_add : Bool) (db : QosDb) : QosDb :=
  match attr with
  | .poolId oid =>
    (bufferPoolSizeRecalc env oid buf_size true
      (bufferPoolSizeRecalc env old_pool_id buf_size false db).2).2
  | .bufferSize _ => (bufferPoolSizeRecalc env pool_id buf_size is_add db).2
  | .xoffTh _ => (bufferPoolSizeRecalc env pool_id buf_size is_add db).2
  | _ => db

/-- What `sai_qos_buffer_profile_attr_set` does once the old value is read. -/
def bufferProfileAttrSetLocked (profile_id : Oid) (old_attr attr : ProfileAttr)
    (db : QosDb) : Status × QosDb :=
  match db.profile_tree profile_id, db.profileNodeGet profile_id with
  | some ptr, some profile =>
    let value := checkBufferProfileAttrValue db attr profile
    if value ≠ .success then (value, db)
    else
      let checked := checkBufferSize env attr profile db
      match checked.1 with
      | .error rc => (rc, checked.2)
      | .ok (buf_size, is_add) =>
        let updated := updateBufferProfileObjects env ptr profile old_attr attr checked.2
        if updated.1 ≠ .success then updated
        else
          (.success, bufferProfileRecalc env attr profile.buffer_pool_id
            ((updated.2.profiles.get ptr).elim .null BufferProfile.buffer_pool_id) buf_size is_add
            updated.2)
  | _, _ => (.itemNotFound, db)

/-- `sai_qos_buffer_profile_attr_set` -/
def bufferProfileAttrSet (profile_id : Oid) (attr : ProfileAttr) (db : QosDb) : Status × QosDb :=
  let valid := bufferProfileAttributesValidate env [attr] .set db
  if valid.1 ≠ .success then valid
  else
    let got := bufferProfileAttrGetInternal env profile_id [attr.id] valid.2.lock
    match got.1 with
    | .error rc => (rc, got.2.unlock)
    -- one attribute has one value
    | .ok [] => (.failure, got.2.unlock)
    | .ok (old_attr :: _) =>
      let set := bufferProfileAttrSetLocked env profile_id old_attr attr got.2.access
      (set.1, set.2.unlock)

/-! ## Users -/

/-- `sai_qos_get_buffer_profile_id` -/
def getBufferProfileId (db : QosDb) (object_id : Oid) : Option Oid :=
  match object_id.type with
  | .port => (db.ports object_id).map BufferUser.buffer_profile_id
  | .queue => (db.queues object_id).map QosQueue.buffer_profile_id
  | .ingressPriorityGroup => (db.pgs object_id).map BufferUser.buffer_profile_id
  | _ => none

/-- The `buffer_profile_id` of an object. -/
def setBufferProfileId (object_id profile_id : Oid) (db : QosDb) : QosDb :=
  match object_id.type with
  | .port =>
    { db with
      ports := fun o => if o = object_id then (db.ports o).map fun _ => ⟨profile_id⟩ else db.ports o }
  | .queue =>
    { db with
      queues := fun o =>
        if o = object_id then (db.queues o).map fun q => { q with buffer_profile_id := profile_id }
        else db.queues o }
  | .ingressPriorityGroup =>
    { db with
      pgs := fun o => if o = object_id then (db.pgs o).map fun _ => ⟨profile_id⟩ else db.pgs o }
  | _ => db

def BufferProfile.addUser (profile : BufferProfile) (object_id : Oid) : BufferProfile :=
  match object_id.type with
  | .port => { profile with ports := profile.ports ++ [object_id], num_ref := profile.num_ref + 1 }
  | .queue => { profile with queues := profile.queues ++ [object_id], num_ref := profile.num_ref + 1 }
  | .ingressPriorityGroup =>
    { profile with pgs := profile.pgs ++ [object_id], num_ref := profile.num_ref + 1 }
  | _ => profile

def BufferProfile.removeUser (profile : BufferProfile) (object_id : Oid) : BufferProfile :=
  match object_id.type with
  | .port => { profile with ports := profile.ports.erase object_id, num_ref := profile.num_ref - 1 }
  | .queue =>
    { profile with queues := profile.queues.erase object_id, num_ref := profile.num_ref - 1 }
  | .ingressPriorityGroup =>
    { profile with pgs := profile.pgs.erase object_id, num_ref := profile.num_ref - 1 }
  | _ => profile

def setProfileOf (profile_id : Oid) (f : BufferProfile → BufferProfile) (db : QosDb) : QosDb :=
  (db.profile_tree profile_id).elim db fun ptr => setBufferProfile ptr f db

/-- `sai_qos_obj_update_buffer_profile_node` -/
def objUpdateBufferProfileNode (object_id profile_id : Oid) (db : QosDb) : Status × QosDb :=
  if profile_id ≠ .null ∧ (db.profileNodeGet profile_id).isSome = false then (.itemNotFound, db)
  else
    match object_id.type with
    | .port | .queue | .ingressPriorityGroup =>
      match getBufferProfileId db object_id with
      | none => (.itemNotFound, db)
      | some old_profile_id =>
        let set := setBufferProfileId object_id profile_id db
        let left := if old_profile_id ≠ .null then
          setProfileOf old_profile_id (fun profile => profile.removeUser object_id) set else set
        (.success, if profile_id ≠ .null then
          setProfileOf profile_id (fun profile => profile.addUser object_id) left else left)
    | _ => (.invalidObjectType, db)

/-- `sai_qos_calc_pool_size`: the size to recalculate with, and whether the pool loses it. -/
def calcPoolSize (db : QosDb) (old_pool_id new_pool_id : Oid) (check_th : Bool)
    (old_size new_size : BitVec 32) : Except Status (BitVec 32 × Bool) :=
  let sized : Except Status (BitVec 32 × Bool) :=
    if old_pool_id = new_pool_id then
      if old_size < new_size then .ok (new_size - old_size, true) else .ok (old_size - new_size, false)
    else if new_pool_id ≠ .null then
      if old_pool_id ≠ .null ∧
          isBufferPoolCompatible db old_pool_id new_pool_id check_th = false then
        .error .invalidParameter
      else .ok (new_size, false)
    else .ok (0, false)
  match sized with
  | .error rc => .error rc
  | .ok (tmp_size, is_add) =>
    if new_pool_id ≠ .null ∧ isBufferPoolAvailable db new_pool_id tmp_size = false then
      .error .insufficientResources
    else .ok (tmp_size, is_add)

def bufferProfileCharge (db : QosDb) (profile : BufferProfile) : BitVec 32 :=
  profile.size + bufferProfileReservedXoffTh db profile

/-- The profile of an id, or the profile of zeros for none. -/
def profileOrDefault (db : QosDb) (profile_id : Oid) : Option BufferProfile :=
  if profile_id = .null then some bufferProfileInit else db.profileNodeGet profile_id

/-- The end of `sai_qos_obj_update_buffer_profile`; what the recalculations answer is dropped. -/
def objBufferProfileRecalc (old_pool_id new_pool_id : Oid)
    (old_size new_size tmp_size : BitVec 32) (is_add : Bool) (db : QosDb) : QosDb :=
  if old_pool_id = new_pool_id then (bufferPoolSizeRecalc env old_pool_id tmp_size is_add db).2
  else
    let left := if old_pool_id ≠ .null then
      (bufferPoolSizeRecalc env old_pool_id old_size false db).2 else db
    if new_pool_id ≠ .null then (bufferPoolSizeRecalc env new_pool_id new_size true left).2 else left

/-- `sai_qos_obj_update_buffer_profile` -/
def objUpdateBufferProfile (object_id profile_id : Oid) (db : QosDb) : Status × QosDb :=
  match getBufferProfileId db object_id with
  | none => (.itemNotFound, db)
  | some old_profile_id =>
    if old_profile_id = profile_id then (.success, db)
    else
      match profileOrDefault db profile_id with
      | none => (.itemNotFound, db)
      | some profile =>
        if profile_id ≠ .null ∧ isObjectBufferProfileCompatible db object_id profile = false then
          (.invalidParameter, db)
        else
          match profileOrDefault db old_profile_id with
          | none => (.itemNotFound, db)
          | some old_profile =>
            let new_size := if profile_id ≠ .null then bufferProfileCharge db profile else 0
            let old_size := if old_profile_id ≠ .null then bufferProfileCharge db old_profile else 0
            let new_pool_id := profile.buffer_pool_id
            let old_pool_id := old_profile.buffer_pool_id
            match calcPoolSize db old_pool_id new_pool_id (!old_profile.profile_th_enable)
                old_size new_size with
            | .error rc => (rc, db)
            | .ok (tmp_size, is_add) =>
              let applied := db.call env (.profileApply object_id old_profile profile)
              if applied.1 ≠ .success then applied
              else
                let updated := objUpdateBufferProfileNode object_id profile_id applied.2
                if updated.1 ≠ .success then
                  (updated.1, if old_profile_id ≠ .null then
                    (updated.2.call env (.profileApply object_id profile old_profile)).2 else updated.2)
                else
                  (.success, objBufferProfileRecalc env old_pool_id new_pool_id old_size new_size
                    tmp_size is_add updated.2)

/-! ## One call -/

inductive BufferOp where
  | createPool (attr_list : List PoolAttr)
  | removePool (pool_id : Oid)
  | setPool (pool_id : Oid) (attr : PoolAttr)
  | getPool (pool_id : Oid) (attr_list : List PoolAttr)
  | createProfile (attr_list : List ProfileAttr)
  | removeProfile (profile_id : Oid)
  | setProfile (profile_id : Oid) (attr : ProfileAttr)
  | getProfile (profile_id : Oid) (ids : List ProfileAttrId)
  | updateUser (object_id profile_id : Oid)

structure BufferCall where
  env : QosEnv
  op : BufferOp

def bufferStep (c : BufferCall) (db : QosDb) : QosDb :=
  match c.op with
  | .createPool attr_list => (createBufferPool c.env attr_list db).2
  | .removePool pool_id => (removeBufferPool c.env pool_id db).2
  | .setPool pool_id attr => (bufferPoolAttrSet c.env pool_id attr db).2
  | .getPool pool_id attr_list => (bufferPoolAttrGet c.env pool_id attr_list db).2
  | .createProfile attr_list => (createBufferProfile c.env attr_list db).2
  | .removeProfile profile_id => (removeBufferProfile c.env profile_id db).2
  | .setProfile profile_id attr => (bufferProfileAttrSet c.env profile_id attr db).2
  | .getProfile profile_id ids => (bufferProfileAttrGet c.env profile_id ids db).2
  | .updateUser object_id profile_id => (objUpdateBufferProfile c.env object_id profile_id db).2

def bufferStatus (c : BufferCall) (db : QosDb) : Status :=
  match c.op with
  | .createPool attr_list => (createBufferPool c.env attr_list db).1
  | .removePool pool_id => (removeBufferPool c.env pool_id db).1
  | .setPool pool_id attr => (bufferPoolAttrSet c.env pool_id attr db).1
  | .getPool pool_id attr_list => (bufferPoolAttrGet c.env pool_id attr_list db).1
  | .createProfile attr_list => (createBufferProfile c.env attr_list db).1
  | .removeProfile profile_id => (removeBufferProfile c.env profile_id db).1
  | .setProfile profile_id attr => (bufferProfileAttrSet c.env profile_id attr db).1
  | .getProfile profile_id ids =>
    match (bufferProfileAttrGet c.env profile_id ids db).1 with
    | .error rc => rc
    | .ok _ => .success
  | .updateUser object_id profile_id => (objUpdateBufferProfile c.env object_id profile_id db).1

end OpxSai
