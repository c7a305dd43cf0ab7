import OpxSai.Qos.Types

/-!
# WREDs

A WRED is parsed from its attributes, and set on a copy that takes the place of the node only at the
end. It is linked to queues, port pools and buffer pools. Where the NPU does not execute a link
because no unicast queue uses the pool, the link is made all the same and the pool is marked; the
marks are brought up to date around every change of the buffer profile of a queue.
-/

variable (wred_id wred_link_id : Oid) (type : WredLink) (env : QosEnv)

namespace OpxSai

open QosDb

/-! ## Attributes -/

/-- The `ecn_enable` of the three colours. -/
def WredNode.ecnEnable (node : WredNode) (green yellow red : Bool) : WredNode :=
  { node with threshold := fun color =>
      { node.threshold color with
        ecn_enable := match color with
          | .green => green
          | .yellow => yellow
          | .red => red } }

/-- `sai_qos_ecn_mode_set`: the flags are set for the mode that the node has. -/
def qosEcnModeSet (node : WredNode) : Status × WredNode :=
  match node.ecn_mark_mode with
  | .none => (.success, node.ecnEnable false false false)
  | .green => (.success, node.ecnEnable true false false)
  | .yellow => (.success, node.ecnEnable false true false)
  | .red => (.success, node.ecnEnable false false true)
  | .greenYellow => (.success, node.ecnEnable true true false)
  | .greenRed => (.success, node.ecnEnable true false true)
  | .yellowRed => (.success, node.ecnEnable false true true)
  | .all => (.success, node.ecnEnable true true true)
  | .other _ => (.invalidAttrValue 0, node)

def WredNode.setThreshold (node : WredNode) (color : PacketColor)
    (f : WredThreshold → WredThreshold) : WredNode :=
  { node with threshold := fun c => if c = color then f (node.threshold c) else node.threshold c }

/-- `sai_qos_wred_attr_set` -/
def qosWredAttrSet (node : WredNode) (attr : WredAttr) : Status × WredNode :=
  match attr with
  | .enable color booldata =>
    (.success, node.setThreshold color fun t => { t with enable := booldata })
  | .minThreshold color u32 =>
    if u32 ≤ env.max_buffer_limit then
      (.success, node.setThreshold color fun t => { t with min_limit := u32 })
    else (.invalidAttrValue 0, node)
  | .maxThreshold color u32 =>
    if u32 ≤ env.max_buffer_limit then
      (.success, node.setThreshold color fun t => { t with max_limit := u32 })
    else (.invalidAttrValue 0, node)
  | .dropProbability color u32 =>
    if u32 ≤ env.max_drop_prob then
      (.success, node.setThreshold color fun t => { t with drop_probability := u32 })
    else (.invalidAttrValue 0, node)
  | .weight u8 =>
    if u8 ≤ env.max_weight then (.success, { node with weight := u8 })
    else (.invalidAttrValue 0, node)
  | .ecnMarkMode s32 =>
    let flags := qosEcnModeSet node
    if flags.1 = .success then (.success, { flags.2 with ecn_mark_mode := s32 }) else flags
  | .unknown _ => (.unknownAttribute 0, node)

/-- The loop of `sai_wred_parse_update_attributes`. -/
def wredAttrsSet (env : QosEnv) : Nat → List WredAttr → WredNode → Status × WredNode
  | _, [], node => (.success, node)
  | list_idx, attr :: attr_list, node =>
    let set := qosWredAttrSet env node attr
    if set.1 ≠ .success then (getIndexedRetVal set.1 list_idx, set.2)
    else wredAttrsSet env (list_idx + 1) attr_list set.2

/-- `sai_wred_parse_update_attributes` -/
def wredParseUpdateAttributes (op_type : QosOp) (attr_list : List WredAttr)
    (node : WredNode) : Status × WredNode :=
  let rc := env.wred_validate op_type attr_list
  if rc ≠ .success then (rc, node)
  else if op_type ≠ .get then wredAttrsSet env 0 attr_list node
  else (rc, node)

/-- A node as `sai_qos_wred_node_alloc` gives it, after `sai_qos_wred_fill_in_defaults`. -/
def wredDefault : WredNode where
  wred_id := .null
  threshold := fun _ => ⟨false, env.max_buffer_limit, env.max_buffer_limit, env.max_drop_prob, false⟩
  weight := 0
  ecn_mark_mode := .none
  links := fun _ => []

/-! ## Create and remove -/

/-- `sai_qos_wred_create`; the node is given back when it fails. -/
def wredCreate (env : QosEnv) (attr_list : List WredAttr) (db : QosDb) : Status × QosDb :=
  let parsed := wredParseUpdateAttributes env .create attr_list (wredDefault env)
  if parsed.1 ≠ .success then (parsed.1, db.lock.unlock)
  else
    let created := db.lock.call env (.wredCreate parsed.2.toWredParams)
    if created.1 ≠ .success then (created.1, created.2.unlock)
    else
      let wred_id := uoidCreate .wred env.hw_wred_id
      let node : WredNode := { parsed.2 with wred_id := wred_id, links := fun _ => [] }
      let inserted := created.2.call env (.wredInsert wred_id)
      if inserted.1 ≠ .success ∨ (created.2.wreds wred_id).isSome = true then
        (.failure, (inserted.2.call env (.wredRemove wred_id)).2.unlock)
      else
        (.success, { inserted.2 with
          wreds := fun o => if o = wred_id then some node else inserted.2.wreds o }.unlock)

/-- `sai_qos_wred_is_object_in_use` -/
def wredIsObjectInUse (node : WredNode) : Bool :=
  [WredLink.queue, .port, .bufferPool].any fun type => !(node.links type).isEmpty

/-- `sai_qos_wred_remove` -/
def wredRemove (env : QosEnv) (wred_id : Oid) (db : QosDb) : Status × QosDb :=
  if wred_id.type ≠ .wred then (.invalidObjectType, db)
  else
    match db.lock.wreds wred_id with
    | none => (.invalidObjectId, db.lock.unlock)
    | some node =>
      if wredIsObjectInUse node = true then (.objectInUse, db.lock.unlock)
      else
        let removed := db.lock.call env (.wredRemove wred_id)
        if removed.1 ≠ .success then (removed.1, removed.2.unlock)
        else
          (.success, { removed.2 with
            wreds := fun o => if o = wred_id then none else removed.2.wreds o }.unlock)

/-! ## The queues of a pool -/

/-- `sai_qos_is_queue_type_ucast`, of the queue with an id. -/
def isUcastQueue (db : QosDb) (queue_id : Oid) : Bool :=
  (db.queues queue_id).any fun queue => queue.queue_type = .unicast

def poolQueues (db : QosDb) (pool_id : Oid) : List Oid :=
  match db.pools pool_id with
  | none => []
  | some pool => (pool.buffer_profiles.filterMap db.profiles.get).flatMap BufferProfile.queues

/-- `sai_qos_buffer_pool_get_wred_queue_ids` -/
def bufferPoolWredQueueIds (db : QosDb) (pool_id : Oid) : List Oid :=
  (poolQueues db pool_id).filter (isUcastQueue db)

/-- `sai_qos_port_pool_get_wred_queue_ids` -/
def portPoolWredQueueIds (db : QosDb) (port_pool_id : Oid) : List Oid :=
  match db.port_pools port_pool_id with
  | none => []
  | some port_pool => (bufferPoolWredQueueIds db port_pool.pool_id).filter fun q =>
      (db.queues q).any fun queue => queue.port_id = port_pool.port_id

def isUcastAttached (db : QosDb) (type : WredLink) (wred_link_id : Oid) : Bool :=
  match type with
  | .queue => true
  | .port => !(portPoolWredQueueIds db wred_link_id).isEmpty
  | .bufferPool => !(bufferPoolWredQueueIds db wred_link_id).isEmpty

/-- `wred_link_set` of the NPU library -/
def npuWredLinkSet (wred_link_id : Oid) (params : WredParams) (type : WredLink)
    (db : QosDb) : Status × QosDb :=
  db.call env (.wredLinkSet wred_link_id params type (isUcastAttached db type wred_link_id))

/-! ## Set -/

/-- `sai_wred_link_error_recovery`: the first `count` objects of a list take the old parameters
again. -/
def wredLinkErrorRecovery (env : QosEnv) (old : WredParams) (type : WredLink) :
    List Oid → Nat → QosDb → QosDb
  | [], _, db => db
  | _ :: _, 0, db => db
  | wred_link_id :: rest, count + 1, db =>
    let set := db.call env (.wredLinkRestore wred_link_id old type)
    if set.1 ≠ .success then set.2 else wredLinkErrorRecovery env old type rest count set.2

/-- The state of the loops in `sai_wred_update_link`. -/
structure WredUpdate where
  rc : Status
  count : Nat
  db : QosDb

/-- The inner loop of `sai_wred_update_link`: the objects of one kind. A failure ends this loop, and
not the loop over the kinds. -/
def wredUpdateLinkType (env : QosEnv) (old : WredNode) (new : WredParams) (type : WredLink) :
    List Oid → WredUpdate → WredUpdate
  | [], at_ => at_
  | wred_link_id :: rest, at_ =>
    let set := npuWredLinkSet env wred_link_id new type at_.db
    if set.1 ≠ .success then
      { rc := set.1, count := at_.count,
        db := wredLinkErrorRecovery env old.toWredParams type (old.links type) at_.count set.2 }
    else
      wredUpdateLinkType env old new type rest { rc := set.1, count := at_.count + 1, db := set.2 }

/-- `sai_wred_update_link` -/
def wredUpdateLink (new : WredParams) (db : QosDb) : Status × QosDb :=
  match db.wreds new.wred_id with
  | none => (.invalidObjectId, db)
  | some old =>
    let updated := [WredLink.queue, .port, .bufferPool].foldl
      (fun at_ type => wredUpdateLinkType env old new type (old.links type) at_)
      { rc := .success, count := 0, db := db }
    (updated.rc, updated.db)

/-- `sai_qos_wred_attribute_set` -/
def wredAttributeSet (wred_id : Oid) (attr : WredAttr) (db : QosDb) : Status × QosDb :=
  if wred_id.type ≠ .wred then (.invalidObjectType, db)
  else
    match db.lock.wreds wred_id with
    | none => (.invalidObjectId, db.lock.unlock)
    | some exist =>
      let parsed := wredParseUpdateAttributes env .set [attr] exist
      if parsed.1 ≠ .success then (parsed.1, db.lock.unlock)
      else
        let set := db.lock.call env (.wredAttrSet parsed.2.toWredParams attr)
        if set.1 ≠ .success then (set.1, set.2.unlock)
        else
          let updated :=
            if env.wred_is_hw_object = true then (.success, set.2)
            else wredUpdateLink env parsed.2.toWredParams set.2
          if updated.1 ≠ .success then (updated.1, updated.2.unlock)
          else
            (.success, { updated.2 with
              wreds := fun o => if o = wred_id then some parsed.2 else updated.2.wreds o }.unlock)

/-! ## What a set leaves -/

theorem qosWredAttrSet_links {node} {attr} :
    (qosWredAttrSet env node attr).2.wred_id = node.wred_id ∧
    (qosWredAttrSet env node attr).2.links = node.links := by
  cases attr with
  | enable color booldata | unknown id => exact ⟨rfl, rfl⟩
  | minThreshold color u32 | maxThreshold color u32 | dropProbability color u32 | weight u8 =>
    simp only [qosWredAttrSet]
    split <;> exact ⟨rfl, rfl⟩
  | ecnMarkMode s32 =>
    have hflags : (qosEcnModeSet node).2.wred_id = node.wred_id ∧
        (qosEcnModeSet node).2.links = node.links := by
      unfold qosEcnModeSet
      split <;> exact ⟨rfl, rfl⟩
    simp only [qosWredAttrSet]
    split <;> exact hflags

theorem wredAttrsSet_links {attr_list} : ∀ list_idx node,
    (wredAttrsSet env list_idx attr_list node).2.wred_id = node.wred_id ∧
    (wredAttrsSet env list_idx attr_list node).2.links = node.links := by
  induction attr_list with
  | nil => exact fun _ _ => ⟨rfl, rfl⟩
  | cons attr attr_list ih =>
    intro list_idx node
    obtain ⟨hid, hlinks⟩ := qosWredAttrSet_links env
    simp only [wredAttrsSet]
    split
    · exact ⟨hid, hlinks⟩
    · obtain ⟨hid', hlinks'⟩ := ih (list_idx + 1) (qosWredAttrSet env node attr).2
      exact ⟨hid'.trans hid, hlinks'.trans hlinks⟩

theorem wredParse_links {op_type} {attr_list} {node} :
    (wredParseUpdateAttributes env op_type attr_list node).2.wred_id = node.wred_id ∧
    (wredParseUpdateAttributes env op_type attr_list node).2.links = node.links := by
  simp only [wredParseUpdateAttributes]
  split
  · exact ⟨rfl, rfl⟩
  split
  · exact wredAttrsSet_links env 0 _
  · exact ⟨rfl, rfl⟩

theorem wredLinkErrorRecovery_nodes (old) {type}
    (links) : ∀ count db, NodesSame db (wredLinkErrorRecovery env old type links count db) := by
  induction links with
  | nil => exact fun _ db => .refl db
  | cons wred_link_id rest ih =>
    intro count db
    cases count with
    | zero => exact .refl db
    | succ count =>
      have hset : NodesSame db (db.call env (.wredLinkRestore wred_link_id old type)).2 :=
        .call db env _
      simp only [wredLinkErrorRecovery]
      split
      · exact hset
      · exact hset.trans (ih count _)

theorem wredUpdateLinkType_nodes (old) (new)
    (type) (links) : ∀ at_,
    NodesSame at_.db (wredUpdateLinkType env old new type links at_).db := by
  induction links with
  | nil => exact fun at_ => .refl _
  | cons wred_link_id rest ih =>
    intro at_
    have hset : NodesSame at_.db (npuWredLinkSet env wred_link_id new type at_.db).2 :=
      .call _ env _
    simp only [wredUpdateLinkType]
    split
    · exact hset.trans (wredLinkErrorRecovery_nodes env _ _ _ _)
    · exact hset.trans (ih ⟨_, at_.count + 1, _⟩)

theorem wredUpdateLink_nodes (new) (db) :
    NodesSame db (wredUpdateLink env new db).2 := by
  simp only [wredUpdateLink]
  split
  · exact .refl db
  rename_i old _
  have hqueues := wredUpdateLinkType_nodes env old new .queue (old.links .queue) ⟨.success, 0, db⟩
  have hports := wredUpdateLinkType_nodes env old new .port (old.links .port)
    (wredUpdateLinkType env old new .queue (old.links .queue) ⟨.success, 0, db⟩)
  exact (hqueues.trans hports).trans (wredUpdateLinkType_nodes env old new _ _ _)

/-- The NPU and the objects of the WRED take what an attribute makes of it. -/
def WredSetTaken (params : WredParams) (attr : WredAttr) (db : QosDb) : Prop :=
  let set := db.lock.call env (.wredAttrSet params attr)
  set.1 = .success ∧
    (env.wred_is_hw_object = true ∨ (wredUpdateLink env params set.2).1 = .success)

/-- **A set** leaves the nodes when it fails, and puts the parsed node in place when it succeeds. -/
theorem wredAttributeSet_cases {env} {wred_id} {attr} {db} :
    let x := wredAttributeSet env wred_id attr db
    (x.1 ≠ .success ∧ x.2.wreds = db.wreds ∧
      ∀ exist, wred_id.type = .wred → db.wreds wred_id = some exist →
        (wredParseUpdateAttributes env .set [attr] exist).1 = .success →
        ¬ WredSetTaken env (wredParseUpdateAttributes env .set [attr] exist).2.toWredParams attr db) ∨
    (x.1 = .success ∧ wred_id.type = .wred ∧ ∃ exist, db.wreds wred_id = some exist ∧
      (wredParseUpdateAttributes env .set [attr] exist).1 = .success ∧
      WredSetTaken env (wredParseUpdateAttributes env .set [attr] exist).2.toWredParams attr db ∧
      ∀ o, x.2.wreds o = if o = wred_id then
        some (wredParseUpdateAttributes env .set [attr] exist).2 else db.wreds o) := by
  intro x
  have hx : wredAttributeSet env wred_id attr db = x := rfl
  clear_value x
  simp only [wredAttributeSet] at hx
  split at hx
  next htype =>
    subst hx
    exact .inl ⟨by simp, rfl, fun _ htype' => absurd htype' htype⟩
  rename_i htype
  split at hx
  next hnone =>
    subst hx
    refine .inl ⟨by simp, rfl, fun exist _ hexist => ?_⟩
    exact absurd (hnone.symm.trans hexist) (by simp)
  rename_i exist hexist
  have hsome : ∀ exist', db.wreds wred_id = some exist' → exist' = exist :=
    fun exist' h => Option.some.inj (h.symm.trans hexist)
  split at hx
  next hparse =>
    subst hx
    refine .inl ⟨hparse, rfl, fun exist' _ hexist' hparse' => ?_⟩
    exact absurd (hsome exist' hexist' ▸ hparse') hparse
  rename_i hparse
  unfold WredSetTaken
  generalize hset : db.lock.call _ _ = set at hx
  have hsetw : set.2.wreds = db.wreds := by
    rw [← hset]
    exact call_wreds _ env _
  split at hx
  next hfail =>
    subst hx
    refine .inl ⟨hfail, hsetw, fun exist' _ hexist' _ htaken => ?_⟩
    rw [hsome exist' hexist', hset] at htaken
    exact hfail htaken.1
  rename_i hok
  generalize hupd : (if env.wred_is_hw_object = true then (Status.success, set.2)
    else wredUpdateLink env (wredParseUpdateAttributes env .set [attr] exist).2.toWredParams set.2)
    = updated at hx
  have hupdw : updated.2.wreds = db.wreds := by
    rw [← hupd]
    split
    · exact hsetw
    · exact (wredUpdateLink_nodes env _ _).wreds.trans hsetw
  have hupdrc : updated.1 = .success ↔ env.wred_is_hw_object = true ∨
      (wredUpdateLink env (wredParseUpdateAttributes env .set [attr] exist).2.toWredParams set.2).1 =
        .success := by
    rw [← hupd]
    split
    next hhw => exact iff_of_true rfl (.inl hhw)
    next hhw => exact ⟨.inr, fun h => h.resolve_left hhw⟩
  split at hx
  next hfail =>
    subst hx
    refine .inl ⟨hfail, hupdw, fun exist' _ hexist' _ htaken => ?_⟩
    rw [hsome exist' hexist', hset] at htaken
    exact hfail (hupdrc.mpr htaken.2)
  rename_i hupdok
  subst hx
  refine .inr ⟨rfl, not_not.mp htype, exist, hexist, not_not.mp hparse, ?_, ?_⟩
  · rw [hset]
    exact ⟨not_not.mp hok, hupdrc.mp (not_not.mp hupdok)⟩
  · intro o
    show (if o = wred_id then _ else updated.2.wreds o) = _
    rw [hupdw]

def WredCreateTaken (params : WredParams) (db : QosDb) : Prop :=
  let created := db.lock.call env (.wredCreate params)
  created.1 = .success ∧
  (created.2.call env (.wredInsert (uoidCreate .wred env.hw_wred_id))).1 = .success ∧
  db.wreds (uoidCreate .wred env.hw_wred_id) = none

def wredCreated (attr_list : List WredAttr) : WredNode :=
  { (wredParseUpdateAttributes env .create attr_list (wredDefault env)).2 with
    wred_id := uoidCreate .wred env.hw_wred_id
    links := fun _ => [] }

/-- **A create** leaves the nodes when it fails, and adds the parsed node when it succeeds. -/
theorem wredCreate_cases {env} {attr_list} {db} :
    let x := wredCreate env attr_list db
    let parsed := wredParseUpdateAttributes env .create attr_list (wredDefault env)
    (x.1 ≠ .success ∧ x.2.wreds = db.wreds ∧
      (parsed.1 = .success → ¬ WredCreateTaken env parsed.2.toWredParams db)) ∨
    (x.1 = .success ∧ parsed.1 = .success ∧ WredCreateTaken env parsed.2.toWredParams db ∧
      ∀ o, x.2.wreds o = if o = uoidCreate .wred env.hw_wred_id then
        some (wredCreated env attr_list) else db.wreds o) := by
  intro x parsed
  have hx : wredCreate env attr_list db = x := rfl
  clear_value x
  simp only [wredCreate] at hx
  split at hx
  next hparse =>
    subst hx
    exact .inl ⟨hparse, rfl, fun hparse' => absurd hparse' hparse⟩
  rename_i hparse
  unfold WredCreateTaken
  generalize hcreated : db.lock.call _ _ = created
  rw [hcreated] at hx
  have hcreatedw : created.2.wreds = db.wreds := by
    rw [← hcreated]
    exact call_wreds _ env _
  split at hx
  next hfail =>
    subst hx
    exact .inl ⟨hfail, hcreatedw, fun _ htaken => hfail htaken.1⟩
  rename_i hok
  generalize hinserted : created.2.call _ _ = inserted
  rw [hinserted] at hx
  have hinsertedw : inserted.2.wreds = db.wreds := by
    rw [← hinserted, call_wreds]
    exact hcreatedw
  split at hx
  next hfail =>
    subst hx
    refine .inl ⟨by simp, ?_, fun _ htaken => ?_⟩
    · show (inserted.2.call env _).2.wreds = _
      rw [call_wreds, hinsertedw]
    · simp only [hinserted] at htaken
      rcases hfail with hfail | hin
      · exact hfail htaken.2.1
      · rw [hcreatedw, htaken.2.2] at hin
        cases hin
  next hfail =>
    obtain ⟨hinsok, hnew⟩ := not_or.mp hfail
    subst hx
    refine .inr ⟨rfl, not_not.mp hparse, ⟨not_not.mp hok, ?_, ?_⟩, ?_⟩
    · simp only [hinserted]
      exact not_not.mp hinsok
    · rw [hcreatedw] at hnew
      exact Option.not_isSome_iff_eq_none.mp hnew
    · intro o
      show (if o = _ then _ else inserted.2.wreds o) = _
      rw [hinsertedw]
      rfl

theorem wredRemove_cases {env} {wred_id} {db} :
    let x := wredRemove env wred_id db
    (x.1 ≠ .success ∧ x.2.wreds = db.wreds) ∨
    (x.1 = .success ∧ ∃ node, db.wreds wred_id = some node ∧ wredIsObjectInUse node = false ∧
      ∀ o, x.2.wreds o = if o = wred_id then none else db.wreds o) := by
  intro x
  have hx : wredRemove env wred_id db = x := rfl
  clear_value x
  simp only [wredRemove] at hx
  split at hx
  · subst hx
    exact .inl ⟨by simp, rfl⟩
  split at hx
  · subst hx
    exact .inl ⟨by simp, rfl⟩
  rename_i node hnode
  split at hx
  · subst hx
    exact .inl ⟨by simp, rfl⟩
  rename_i hfree
  have hremoved : (db.lock.call env (.wredRemove wred_id)).2.wreds = db.wreds :=
    call_wreds _ env _
  split at hx
  next hfail =>
    subst hx
    exact .inl ⟨hfail, hremoved⟩
  subst hx
  refine .inr ⟨rfl, node, hnode, Bool.eq_false_iff.mpr hfree, ?_⟩
  intro o
  show (if o = wred_id then none else (db.lock.call env _).2.wreds o) = _
  rw [hremoved]

/-! ## Links -/

/-- `sai_qos_wred_link_wred_id_get` -/
def wredLinkWredIdGet (db : QosDb) (wred_link_id : Oid) : WredLink → Oid
  | .queue => (db.queues wred_link_id).elim .null QosQueue.wred_id
  | .port => (db.port_pools wred_link_id).elim .null PortPool.wred_id
  | .bufferPool => (db.pools wred_link_id).elim .null BufferPool.wred_id

def wredLinkExists (db : QosDb) (wred_link_id : Oid) : WredLink → Bool
  | .queue => (db.queues wred_link_id).isSome
  | .port => (db.port_pools wred_link_id).isSome
  | .bufferPool => (db.pools wred_link_id).isSome

/-- The `wred_id` of an object. -/
def setLinkWredId (wred_link_id : Oid) (type : WredLink) (wred_id : Oid) (db : QosDb) : QosDb :=
  match type with
  | .queue =>
    { db with
      queues := fun o =>
        if o = wred_link_id then (db.queues o).map fun q => { q with wred_id := wred_id }
        else db.queues o }
  | .port =>
    { db with
      port_pools := fun o =>
        if o = wred_link_id then (db.port_pools o).map fun p => { p with wred_id := wred_id }
        else db.port_pools o }
  | .bufferPool =>
    { db with
      pools := fun o =>
        if o = wred_link_id then (db.pools o).map fun p => { p with wred_id := wred_id }
        else db.pools o }

def setWredLinks (wred_id : Oid) (type : WredLink) (f : List Oid → List Oid) (db : QosDb) : QosDb :=
  { db with wreds := fun o =>
      if o = wred_id then (db.wreds o).map fun node =>
        { node with links := fun t => if t = type then f (node.links t) else node.links t }
      else db.wreds o }

/-- `sai_qos_wred_link_insert` -/
def wredLinkInsert (wred_id wred_link_id : Oid) (type : WredLink) (db : QosDb) : QosDb :=
  if (db.wreds wred_id).isSome = true ∧ wredLinkExists db wred_link_id type = true then
    setLinkWredId wred_link_id type wred_id
      (setWredLinks wred_id type (fun links => links ++ [wred_link_id]) db)
  else db

/-- `sai_qos_wred_link_remove` -/
def wredLinkRemove (wred_id wred_link_id : Oid) (type : WredLink) (db : QosDb) : QosDb :=
  if (db.wreds wred_id).isSome = true ∧ wredLinkExists db wred_link_id type = true then
    setLinkWredId wred_link_id type .null
      (setWredLinks wred_id type (fun links => links.erase wred_link_id) db)
  else db

/-- `sai_wred_link_node_add`: the object leaves the WRED that it names. -/
def wredLinkNodeAdd (wred_link_id wred_id : Oid) (type : WredLink) (db : QosDb) : QosDb :=
  let wred_id_old := wredLinkWredIdGet db wred_link_id type
  let db := if wred_id_old ≠ .null then wredLinkRemove wred_id_old wred_link_id type db else db
  wredLinkInsert wred_id wred_link_id type db

/-- `sai_qos_wred_link_mark_sw_cache` and `sai_qos_wred_link_unmark_sw_cache`: the mark of a pool. -/
def wredLinkMarkSwCache (wred_link_id : Oid) (type : WredLink) (mark : Bool) (db : QosDb) : QosDb :=
  match type with
  | .queue => db
  | .port =>
    { db with
      port_pools := fun o =>
        if o = wred_link_id then (db.port_pools o).map fun p => { p with is_sw_cached := mark }
        else db.port_pools o }
  | .bufferPool =>
    { db with
      pools := fun o =>
        if o = wred_link_id then (db.pools o).map fun p => { p with is_sw_cached := mark }
        else db.pools o }

/-- The end of `sai_qos_wred_link_set`: what the NPU did not execute is marked. -/
def wredLinkSetCache (wred_link_id : Oid) (type : WredLink) (rc : Status) (db : QosDb) :
    Status × QosDb :=
  if rc = .notExecuted then (.success, wredLinkMarkSwCache wred_link_id type true db)
  else if rc = .success then (rc, wredLinkMarkSwCache wred_link_id type false db)
  else (rc, db)

/-- `sai_qos_wred_link_set` -/
def wredLinkSet (wred_link_id wred_id : Oid) (type : WredLink) (db : QosDb) : Status × QosDb :=
  if wred_id ≠ .null ∧ wred_id.type ≠ .wred then (.invalidObjectType, db)
  else if wred_id ≠ .null then
    match db.wreds wred_id with
    | none => (.invalidObjectId, db)
    | some node =>
      let set := npuWredLinkSet env wred_link_id node.toWredParams type db
      let linked :=
        if set.1 = .success ∨ set.1 = .notExecuted then
          wredLinkNodeAdd wred_link_id wred_id type set.2
        else set.2
      wredLinkSetCache wred_link_id type set.1 linked
  else
    let wred_id := wredLinkWredIdGet db wred_link_id type
    if wred_id ≠ .null ∧ (db.wreds wred_id).isSome = false then (.failure, db)
    else
      let reset := db.call env (.wredLinkReset wred_link_id type)
      let unlinked :=
        if (reset.1 = .success ∨ reset.1 = .notExecuted) ∧ wred_id ≠ .null then
          wredLinkRemove wred_id wred_link_id type reset.2
        else reset.2
      wredLinkSetCache wred_link_id type reset.1 unlinked

/-! ## What a link leaves -/

theorem setLinkWredId_wreds (wred_id) (db) :
    (setLinkWredId wred_link_id type wred_id db).wreds = db.wreds := by
  cases type <;> rfl

theorem wredLinkMarkSwCache_wreds (mark : Bool)
    {db} : (wredLinkMarkSwCache wred_link_id type mark db).wreds = db.wreds := by
  cases type <;> rfl

theorem wredLinkSetCache_wreds (rc) (db) :
    (wredLinkSetCache wred_link_id type rc db).2.wreds = db.wreds := by
  simp only [wredLinkSetCache]
  split
  · exact wredLinkMarkSwCache_wreds _ _ _
  split
  · exact wredLinkMarkSwCache_wreds _ _ _
  · rfl

def WredParamsSame (db db' : QosDb) : Prop :=
  ∀ w, (db'.wreds w).map WredNode.toWredParams = (db.wreds w).map WredNode.toWredParams

namespace WredParamsSame

theorem of_eq {db db'} (h : db'.wreds = db.wreds) : WredParamsSame db db' := by
  intro w
  rw [h]

theorem trans {db₁ db₂ db₃} (h : WredParamsSame db₁ db₂) (h' : WredParamsSame db₂ db₃) :
    WredParamsSame db₁ db₃ := by
  intro w
  rw [h' w, h w]

theorem setWredLinks (f : List Oid → List Oid) {db} :
    WredParamsSame db (setWredLinks wred_id type f db) := by
  intro w
  show (if w = wred_id then _ else db.wreds w).map _ = _
  split
  · cases db.wreds w <;> rfl
  · rfl

theorem wredLinkInsert (wred_id wred_link_id) {type} {db} :
    WredParamsSame db (wredLinkInsert wred_id wred_link_id type db) := by
  unfold OpxSai.wredLinkInsert
  split
  · exact (setWredLinks _ _ _).trans (.of_eq (setLinkWredId_wreds _ _ _ _))
  · exact .of_eq rfl

theorem wredLinkRemove (wred_id wred_link_id) {type} {db} :
    WredParamsSame db (wredLinkRemove wred_id wred_link_id type db) := by
  unfold OpxSai.wredLinkRemove
  split
  · exact (setWredLinks _ _ _).trans (.of_eq (setLinkWredId_wreds _ _ _ _))
  · exact .of_eq rfl

theorem wredLinkNodeAdd (wred_link_id wred_id) {type} (db) :
    WredParamsSame db (wredLinkNodeAdd wred_link_id wred_id type db) := by
  simp only [OpxSai.wredLinkNodeAdd]
  split
  · exact (wredLinkRemove _ _).trans (wredLinkInsert _ _)
  · exact wredLinkInsert _ _

theorem wredLinkSet {env} {wred_link_id wred_id} {type} {db} :
    WredParamsSame db (wredLinkSet env wred_link_id wred_id type db).2 := by
  simp only [OpxSai.wredLinkSet]
  split
  · exact .of_eq rfl
  split
  · split
    · exact .of_eq rfl
    rename_i node _
    have hcall : WredParamsSame db (npuWredLinkSet env wred_link_id node.toWredParams type db).2 :=
      .of_eq (call_wreds db env _)
    refine WredParamsSame.trans ?_ (.of_eq (wredLinkSetCache_wreds _ _ _ _))
    split
    · exact hcall.trans (wredLinkNodeAdd _ _ _)
    · exact hcall
  · split
    · exact .of_eq rfl
    have hcall : WredParamsSame db (db.call env (.wredLinkReset wred_link_id type)).2 :=
      .of_eq (call_wreds db env _)
    refine WredParamsSame.trans ?_ (.of_eq (wredLinkSetCache_wreds _ _ _ _))
    split
    · exact hcall.trans (wredLinkRemove _ _)
    · exact hcall

end WredParamsSame

/-! ## The marks of the pools of a queue -/

/-- `sai_wred_queue_get_port_pool_and_pool_node`: the ids of the buffer pool and of the port pool. -/
def wredQueueGetPools (queue : QosQueue) (db : QosDb) : Status × Option Oid × Option Oid :=
  if queue.buffer_profile_id = .null then (.notExecuted, none, none)
  else
    match db.profileNodeGet queue.buffer_profile_id with
    | none => (.failure, none, none)
    | some profile =>
      if profile.buffer_pool_id = .null then (.notExecuted, none, none)
      else if (db.pools profile.buffer_pool_id).isSome = false then (.failure, none, none)
      else if queue.port_id = .null then (.notExecuted, some profile.buffer_pool_id, none)
      else
        match db.port_pool_of queue.port_id profile.buffer_pool_id with
        | none => (.notExecuted, some profile.buffer_pool_id, none)
        | some port_pool_id => (.success, some profile.buffer_pool_id, some port_pool_id)

/-- The queues that use an object, as `wredLinkUpdateCache` asks for them. -/
def wredQueueIds (db : QosDb) (wred_link_id : Oid) : WredLink → List Oid
  | .queue => []
  | .port => portPoolWredQueueIds db wred_link_id
  | .bufferPool => bufferPoolWredQueueIds db wred_link_id

/-- One half of `sai_qos_wred_link_update_cache`: a pool that has a WRED and one queue at most gives
the WRED up in the NPU, as if that queue were gone. -/
def wredPoolUpdateCache (wred_link_id : Oid) (type : WredLink) (db : QosDb) : Status × QosDb :=
  if wredLinkWredIdGet db wred_link_id type = .null then (.success, db)
  else
    let asked := db.call env (.wredQueueIds wred_link_id)
    if asked.1 = .success ∧ ((wredQueueIds asked.2 wred_link_id type).take 2).length = 1 then
      let reset := asked.2.call env (.wredLinkReset wred_link_id type)
      if reset.1 ≠ .success then reset
      else (.success, wredLinkMarkSwCache wred_link_id type true reset.2)
    else (.success, asked.2)

/-- `sai_qos_wred_link_update_cache` -/
def wredLinkUpdateCache (queue_id : Oid) (db : QosDb) : Status × QosDb :=
  match db.queues queue_id with
  | none => (.failure, db)
  | some queue =>
    if queue.queue_type ≠ .unicast then (.success, db)
    else
      let pools := wredQueueGetPools queue db
      if pools.1 ≠ .success ∧ pools.1 ≠ .notExecuted then (pools.1, db)
      else
        let updated := pools.2.1.elim (.success, db) fun pool_id =>
          wredPoolUpdateCache env pool_id .bufferPool db
        if updated.1 ≠ .success then updated
        else
          pools.2.2.elim (.success, updated.2) fun port_pool_id =>
            wredPoolUpdateCache env port_pool_id .port updated.2

/-- `sai_qos_wred_link_is_sw_cached` -/
def wredLinkIsSwCached (db : QosDb) (wred_link_id : Oid) : WredLink → Bool
  | .queue => false
  | .port => (db.port_pools wred_link_id).any PortPool.is_sw_cached
  | .bufferPool => (db.pools wred_link_id).any BufferPool.is_sw_cached

/-- One half of `sai_qos_wred_link_apply_cache`: a pool that is marked takes its WRED again. -/
def wredPoolApplyCache (wred_link_id : Oid) (type : WredLink) (db : QosDb) : Status × QosDb :=
  if wredLinkIsSwCached db wred_link_id type = true then
    wredLinkSet env wred_link_id (wredLinkWredIdGet db wred_link_id type) type db
  else (.success, db)

/-- `sai_qos_wred_link_apply_cache` -/
def wredLinkApplyCache (queue_id : Oid) (db : QosDb) : Status × QosDb :=
  match db.queues queue_id with
  | none => (.failure, db)
  | some queue =>
    if queue.queue_type ≠ .unicast then (.success, db)
    else
      let pools := wredQueueGetPools queue db
      if pools.1 ≠ .success ∧ pools.1 ≠ .notExecuted then (pools.1, db)
      else
        let applied := pools.2.1.elim (.success, db) fun pool_id =>
          wredPoolApplyCache env pool_id .bufferPool db
        if applied.1 ≠ .success then applied
        else
          pools.2.2.elim (.success, applied.2) fun port_pool_id =>
            wredPoolApplyCache env port_pool_id .port applied.2

end OpxSai
