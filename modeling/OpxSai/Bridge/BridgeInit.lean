import OpxSai.Bridge.BridgeExact

/-!
# Bridges — the start of the module

The module starts with a default bridge that has every valid port. The id of this bridge is written by the
create call, and where a later step fails, the bridge is taken down again but its id stays.

* `bridgeInitClean_iff` — a start that fails leaves nothing exactly when it fails before the default bridge.
-/

namespace OpxSai

/-- What is outside while the module starts, and while it stops again. -/
structure BridgeInitEnv where
  /-- `bridge_init` of the NPU library, to start and to stop. -/
  npu_init : Status
  npu_deinit : Status
  create : BridgeEnv
  /-- The ports, in the order of `sai_port_info_getnext`. -/
  ports : List Oid
  /-- The bridge port of a port is created. -/
  port : Oid → BridgeEnv
  /-- `sai_lag_event_callback_register` -/
  lag_register : Status
  /-- `sai_bridge_map_get_port_count` -/
  port_count : Status
  /-- `sai_bridge_map_port_list_get` -/
  port_list : Status
  /-- `calloc`, by the number of elements. -/
  calloc : Nat → Bool
  port_remove : Oid → BridgeEnv
  remove : BridgeEnv

/-! ## Start and stop -/

/-- `sai_bridge_remove` -/
def bridgeRemoveUnchecked (env : BridgeEnv) (bridge_id : Oid) (db : BridgeDb) : Status × BridgeDb :=
  match db.bridges bridge_id with
  | none => (.invalidObjectId, db)
  | some _ =>
    if db.books.bridge_refs bridge_id > 0 then (.objectInUse, db)
    else
      let a := db.call env (.bridgeRemove bridge_id)
      if a.1 ≠ .success then a
      else
        let b := a.2.call env (.bridgeCacheDelete bridge_id)
        (b.1, if b.1 ≠ .success then (b.2.call env .bridgeCreate).2 else b.2)

/-- The call of the API leaves the default bridge alone. -/
theorem bridgeRemove_eq (env) (bridge_id) (db) :
    bridgeRemove env bridge_id db =
      if bridge_id = db.default_bridge_id then (.objectInUse, db)
      else bridgeRemoveUnchecked env bridge_id db := rfl

/-- `sai_bridge_add_default_bridge_port` -/
def bridgeAddDefaultBridgePort (env : BridgeEnv) (port_id : Oid) (db : BridgeDb) : Status × BridgeDb :=
  bridgePortCreate env [.type .port, .portId port_id, .bridgeId db.default_bridge_id] db

/-- The loop of `sai_bridge_init` over the ports. -/
def bridgeInitPorts (env : BridgeInitEnv) : List Oid → BridgeDb → Status × BridgeDb
  | [], db => (.success, db)
  | port_id :: ports, db =>
    if !(env.port port_id).port_valid port_id then bridgeInitPorts env ports db
    else
      let x := bridgeAddDefaultBridgePort (env.port port_id) port_id db
      if x.1 ≠ .success then x else bridgeInitPorts env ports x.2

/-- The loop of `sai_bridge_deinit` over the bridge ports. -/
def bridgeDeinitPorts (env : BridgeInitEnv) : List Oid → BridgeDb → Status × BridgeDb
  | [], db => (.success, db)
  | bridge_port_id :: bridge_ports, db =>
    let x := bridgePortRemove (env.port_remove bridge_port_id) bridge_port_id db
    if x.1 ≠ .success then x else bridgeDeinitPorts env bridge_ports x.2

/-- `sai_bridge_deinit` -/
def bridgeDeinit (env : BridgeInitEnv) (db : BridgeDb) : Status × BridgeDb :=
  let bridge_ports := (db.bridge_ports.filter fun p => p.bridge_id = db.default_bridge_id).map
    BridgePortInfo.bridge_port_id
  if env.npu_deinit ≠ .success then (env.npu_deinit, db)
  else if env.port_count ≠ .success then (env.port_count, db)
  else if !env.calloc bridge_ports.length then (.noMemory, db)
  else if env.port_list ≠ .success then (env.port_list, db)
  else
    let x := bridgeDeinitPorts env bridge_ports db
    if x.1 ≠ .success then x else bridgeRemoveUnchecked env.remove db.default_bridge_id x.2

/-- `sai_bridge_create` of the default bridge: its id is cleared at first, and written by the NPU. -/
def bridgeInitCreate (env : BridgeEnv) (db : BridgeDb) : Status × BridgeDb :=
  let x := bridgeCreate env [.type .bridge1Q] { db with default_bridge_id := .null }
  (x.1, if env.outside db.outside_log .bridgeCreate ≠ .success then x.2
    else { x.2 with default_bridge_id := env.npu_bridge_id })

/-- `sai_bridge_init` -/
def bridgeInit (env : BridgeInitEnv) (db : BridgeDb) : Status × BridgeDb :=
  if env.npu_init ≠ .success then (env.npu_init, db)
  else
    let a := bridgeInitCreate env.create db
    let b := if a.1 ≠ .success then a else bridgeInitPorts env env.ports a.2
    let rc := if b.1 ≠ .success then b.1 else env.lag_register
    (rc, if rc ≠ .success then (bridgeDeinit env b.2).2 else b.2)

/-- How many bridges and bridge ports the NPU has, by its answers. -/
def npuBridgeCounts (log : CallLog BridgeCall) : Int × Int :=
  log.foldl (fun n c =>
    if c.2 ≠ .success then n
    else match c.1 with
      | .bridgeCreate => (n.1 + 1, n.2)
      | .bridgeRemove _ => (n.1 - 1, n.2)
      | .bridgePortCreate _ => (n.1, n.2 + 1)
      | .bridgePortRemove _ => (n.1, n.2 - 1)
      | _ => n) (0, 0)

/-- There are no bridges and no bridge ports, in the cache or in the NPU. -/
structure BridgeFresh (db : BridgeDb) : Prop where
  default : db.default_bridge_id = .null
  bridges : ∀ o, db.bridges o = none
  ports : db.bridge_ports = []
  def_port : ∀ o, db.books.def_port o = .null
  npu : npuBridgeCounts db.outside_log = (0, 0)

structure BridgeInitEnv.Succeeds (env : BridgeInitEnv) : Prop where
  npu_init : env.npu_init = .success
  create : ∀ log c, env.create.outside log c = .success
  port : ∀ port_id log c, (env.port port_id).outside log c = .success
  lag_register : env.lag_register = .success
  types : ∀ port_id ∈ env.ports, port_id.type = .port
  nodup : env.ports.Nodup

/-- **What a failed start is to leave**: nothing, and the next one succeeds. -/
structure BridgeInitClean (env : BridgeInitEnv) (db : BridgeDb) : Prop where
  fresh : BridgeFresh (bridgeInit env db).2
  again : ∀ next : BridgeInitEnv, next.Succeeds → (bridgeInit next (bridgeInit env db).2).1 = .success

/-! ## The id of the default bridge -/

section Default

variable (env : BridgeEnv) (info : BridgePortInfo) (db : BridgeDb)

@[simp] theorem BridgeDb.call_default (c) :
    (db.call env c).2.default_bridge_id = db.default_bridge_id := by
  simp only [BridgeDb.call]
  split
  · rfl
  · cases c <;> rfl

@[simp] theorem bridgePortIncr_default :
    (bridgePortIncrAttachmentRefCounter env info db).2.default_bridge_id = db.default_bridge_id := by
  have hport : ∀ db, (bridgePortIncrPort env info db).1.2.default_bridge_id = db.default_bridge_id := by
    intro db
    simp only [bridgePortIncrPort]
    repeat' split
    all_goals simp
  have hattach : ∀ db,
      (bridgePortIncrAttachment env info db).1.2.default_bridge_id = db.default_bridge_id := by
    intro db
    simp only [bridgePortIncrAttachment]
    repeat' split
    all_goals simp [hport]
  simp only [bridgePortIncrAttachmentRefCounter]
  repeat' split
  all_goals simp [hattach]

@[simp] theorem bridgePortDecr_default :
    (bridgePortDecrAttachmentRefCounter env info db).2.default_bridge_id = db.default_bridge_id := by
  have hport : ∀ db, (bridgePortDecrPort env info db).1.2.default_bridge_id = db.default_bridge_id := by
    intro db
    simp only [bridgePortDecrPort]
    repeat' split
    all_goals simp
  have hattach : ∀ db,
      (bridgePortDecrAttachment env info db).1.2.default_bridge_id = db.default_bridge_id := by
    intro db
    simp only [bridgePortDecrAttachment]
    repeat' split
    all_goals simp [hport]
  simp only [bridgePortDecrAttachmentRefCounter]
  repeat' split
  all_goals simp [hattach]

@[simp] theorem bridgePortMapInsert_default :
    (bridgePortMapInsert env info db).2.default_bridge_id = db.default_bridge_id := by
  unfold bridgePortMapInsert
  split <;> simp

@[simp] theorem bridgePortMapRemove_default :
    (bridgePortMapRemove env info db).2.default_bridge_id = db.default_bridge_id := by
  unfold bridgePortMapRemove
  split <;> simp

theorem bridgePortRemove_default (bridge_port_id) :
    (bridgePortRemove env bridge_port_id db).2.default_bridge_id = db.default_bridge_id := by
  have hundo : ∀ info ref_count_update map_update, ∀ db : BridgeDb,
      (bridgePortRemoveUndo env info ref_count_update map_update db).default_bridge_id =
        db.default_bridge_id := by
    intro info ref_count_update map_update db
    unfold bridgePortRemoveUndo
    dsimp only
    split
    · simp
    · cases ref_count_update <;> cases map_update <;> simp
  unfold bridgePortRemove
  split
  · rfl
  dsimp only
  split
  · rfl
  split
  · simp
  split
  · simp [hundo]
  split
  · simp [hundo]
  · split <;> simp [hundo]

theorem bridgeAddDefaultBridgePort_default (port_id) :
    (bridgeAddDefaultBridgePort env port_id db).2.default_bridge_id = db.default_bridge_id := by
  unfold bridgeAddDefaultBridgePort
  rw [bridgePortCreate, if_neg (by simp [bridgePortTypePresent])]
  have hkept := (bridgePortValidateAndFillAttributes_kept env
    [.type .port, .portId port_id, .bridgeId db.default_bridge_id] db).1.default
  dsimp only
  split
  · exact hkept
  split
  · simp [hkept]
  split
  · simp [hkept]
  unfold bridgePortCreateCached
  simp [bridgePortSetAttributes, bridgePortNonMandatoryAttr]
  repeat' split
  all_goals simp [hkept]

end Default

variable {env : BridgeInitEnv} {db : BridgeDb}

theorem bridgeInitPorts_default (ports) (db) :
    (bridgeInitPorts env ports db).2.default_bridge_id = db.default_bridge_id := by
  induction ports generalizing db with
  | nil => rfl
  | cons port_id ports ih =>
    unfold bridgeInitPorts
    dsimp only
    split
    · exact ih db
    split
    · exact bridgeAddDefaultBridgePort_default _ db _
    · rw [ih, bridgeAddDefaultBridgePort_default]

theorem bridgeDeinit_default (db) :
    (bridgeDeinit env db).2.default_bridge_id = db.default_bridge_id := by
  have hports : ∀ bridge_ports, ∀ db : BridgeDb,
      (bridgeDeinitPorts env bridge_ports db).2.default_bridge_id = db.default_bridge_id := by
    intro bridge_ports
    induction bridge_ports with
    | nil => exact fun _ => rfl
    | cons bridge_port_id bridge_ports ih =>
      intro db
      unfold bridgeDeinitPorts
      dsimp only
      split
      · exact bridgePortRemove_default _ db _
      · rw [ih, bridgePortRemove_default]
  have hremove : ∀ bridge_id, ∀ db : BridgeDb,
      (bridgeRemoveUnchecked env.remove bridge_id db).2.default_bridge_id =
      db.default_bridge_id := by
    intro bridge_id db
    simp only [bridgeRemoveUnchecked]
    repeat' split
    all_goals simp
  simp only [bridgeDeinit]
  repeat' split
  all_goals simp [hports, hremove]

/-- The default bridge is there, and these ports have no default bridge port yet. -/
structure DefaultBridge (ports : List Oid) (db : BridgeDb) : Prop where
  bridge : (db.bridges db.default_bridge_id).map BridgeInfo.bridge_type = some .bridge1Q
  free : ∀ port_id ∈ ports, db.books.def_port port_id = .null

theorem bridgeAddDefaultBridgePort_done {env} {port_id} {ports}
    (hgood : ∀ log c, env.outside log c = .success) (hport : port_id.type = .port)
    (hvalid : env.port_valid port_id = true) (hnew : port_id ∉ ports)
    (h : DefaultBridge (port_id :: ports) db) :
    (bridgeAddDefaultBridgePort env port_id db).1 = .success ∧
      DefaultBridge ports (bridgeAddDefaultBridgePort env port_id db).2 := by
  have hnull : port_id ≠ .null := fun hnull => by rw [hnull] at hport; cases hport
  obtain ⟨info, hinfo, htype⟩ := Option.map_eq_some_iff.mp h.bridge
  have hfree := h.free _ List.mem_cons_self
  -- Nothing fails and nothing is there, so the call takes the one way through all of its steps.
  have hdone : (bridgeAddDefaultBridgePort env port_id db).1 = .success ∧
      (bridgeAddDefaultBridgePort env port_id db).2.bridges = db.bridges ∧
      ∀ o ≠ port_id, (bridgeAddDefaultBridgePort env port_id db).2.books.def_port o =
        db.books.def_port o := by
    simp +contextual [bridgeAddDefaultBridgePort, bridgePortCreate, bridgePortTypePresent,
      bridgePortValidateAndFillAttributes, bridgePortFillFrom, bridgePortFillAttr, bridgePortIsValidPort,
      isBridgeAndPortTypeMatch, bridgePortValidateAndFillAttachment, bridgePortCreateCached,
      bridgePortSetAttributes, bridgePortNonMandatoryAttr, bridgePortIncrAttachmentRefCounter,
      bridgePortIncrAttachment, bridgePortIncrPort, bridgePortMapInsert, BridgeDb.call, BridgeBooks.write,
      hgood, hport, hvalid, hinfo, htype, hnull, hfree]
  obtain ⟨hok, hbridges, hdef⟩ := hdone
  refine ⟨hok, ?_, fun o ho => ?_⟩
  · rw [hbridges, bridgeAddDefaultBridgePort_default]
    exact h.bridge
  · rw [hdef o (ne_of_mem_of_not_mem ho hnew)]
    exact h.free o (List.mem_cons_of_mem _ ho)

theorem bridgeInitPorts_done {next} (hnext : next.Succeeds) {ports}
    (hin : ∀ port_id ∈ ports, port_id.type = .port) (hnodup : ports.Nodup) {db}
    (h : DefaultBridge ports db) : (bridgeInitPorts next ports db).1 = .success := by
  induction ports generalizing db with
  | nil => rfl
  | cons port_id ports ih =>
    obtain ⟨hnew, hnodup⟩ := List.nodup_cons.mp hnodup
    have hin' := fun o ho => hin o (List.mem_cons_of_mem _ ho)
    unfold bridgeInitPorts
    cases hvalid : (next.port port_id).port_valid port_id with
    | false => exact ih hin' hnodup ⟨h.bridge, fun o ho => h.free o (List.mem_cons_of_mem _ ho)⟩
    | true =>
      have hdone := bridgeAddDefaultBridgePort_done (hnext.port _) (hin _ List.mem_cons_self) hvalid
        hnew h
      simp only [hdone.1]
      exact ih hin' hnodup hdone.2

/-- With nothing there, a start whose steps succeed does. -/
theorem BridgeFresh.init (h : BridgeFresh db) {next} (hnext : next.Succeeds) :
    (bridgeInit next db).1 = .success := by
  have hcreate : (bridgeInitCreate next.create db).1 = .success ∧
      DefaultBridge next.ports (bridgeInitCreate next.create db).2 := by
    refine ⟨?_, ?_, fun o _ => ?_⟩
    all_goals simp [bridgeInitCreate, bridgeCreate, bridgeValidateAndFillMandatoryAttributes,
      bridgeValidateFrom, bridgeSetAttributes, bridgeNonMandatoryAttr, BridgeDb.call, BridgeBooks.write,
      hnext.create, h.def_port]
  simp [bridgeInit, hnext.npu_init, hcreate.1, bridgeInitPorts_done hnext hnext.types hnext.nodup hcreate.2,
    hnext.lag_register]

/-! ## A start that fails -/

theorem bridgeDeinit_fresh (h : BridgeFresh db) : (bridgeDeinit env db).2 = db := by
  have hremove : bridgeRemoveUnchecked env.remove .null db = (.invalidObjectId, db) := by
    simp [bridgeRemoveUnchecked, h.bridges]
  simp only [bridgeDeinit, h.ports, h.default, List.filter_nil, List.map_nil, bridgeDeinitPorts, hremove]
  repeat' split
  all_goals rfl

/-- Where the NPU refuses the default bridge, only its answer is new. -/
theorem bridgeInit_refused (h : BridgeFresh db) (hinit : env.npu_init = .success)
    (hrefused : env.create.outside db.outside_log .bridgeCreate ≠ .success) :
    BridgeFresh (bridgeInit env db).2 := by
  have hcreate : bridgeInitCreate env.create db = (env.create.outside db.outside_log .bridgeCreate,
      { db with
        default_bridge_id := .null
        outside_log := env.create.outside.log .bridgeCreate db.outside_log }) := by
    simp [bridgeInitCreate, bridgeCreate, bridgeValidateAndFillMandatoryAttributes, bridgeValidateFrom,
      BridgeDb.call, hrefused]
  have hfresh : BridgeFresh (bridgeInitCreate env.create db).2 := by
    rw [hcreate]
    refine ⟨rfl, h.bridges, h.ports, h.def_port, ?_⟩
    rw [← h.npu]
    simp [npuBridgeCounts, Outside.log, hrefused]
  have hstop : (bridgeInit env db).2 = (bridgeDeinit env (bridgeInitCreate env.create db).2).2 := by
    simp [bridgeInit, hinit, hcreate, hrefused]
  rw [hstop, bridgeDeinit_fresh hfresh]
  exact hfresh

/-- Where the NPU has made the default bridge, its id stays. -/
theorem bridgeInit_default {db} (hinit : env.npu_init = .success)
    (hmade : env.create.outside db.outside_log .bridgeCreate = .success) :
    (bridgeInit env db).2.default_bridge_id = env.create.npu_bridge_id := by
  have hcreate : (bridgeInitCreate env.create db).2.default_bridge_id = env.create.npu_bridge_id := by
    simp [bridgeInitCreate, hmade]
  simp only [bridgeInit, if_ok hinit]
  repeat' split
  all_goals simp [bridgeDeinit_default, bridgeInitPorts_default, hcreate]

/-- **Start that fails**: it leaves nothing behind exactly when it fails before the default bridge is
there, whatever the later steps answer. -/
theorem bridgeInitClean_iff (h : BridgeFresh db) (hid : env.create.npu_bridge_id ≠ .null) :
    BridgeInitClean env db ↔
      env.npu_init ≠ .success ∨ env.create.outside db.outside_log .bridgeCreate ≠ .success := by
  have hclean : BridgeFresh (bridgeInit env db).2 → BridgeInitClean env db := fun hfresh =>
    ⟨hfresh, fun _ hnext => hfresh.init hnext⟩
  constructor
  · intro hc
    by_contra! hboth
    exact hid ((bridgeInit_default hboth.1 hboth.2).symm.trans hc.fresh.default)
  · intro hstops
    by_cases hinit : env.npu_init = .success
    · exact hclean (bridgeInit_refused h hinit (hstops.resolve_left (not_not.mpr hinit)))
    refine hclean ?_
    rw [bridgeInit, if_pos hinit]
    exact h

/-- There are no ports, and every step is as `lag_register` and `create_rc` have it or succeeds. -/
def BridgeInitEnv.portless (create_rc lag_register : Status) : BridgeInitEnv where
  npu_init := .success
  npu_deinit := .success
  create := { BridgeEnv.good ⟨.bridge, 1⟩ .null with outside := fun _ c =>
    if c = .bridgeCreate then create_rc else .success }
  ports := []
  port _ := .good .null .null
  lag_register := lag_register
  port_count := .success
  port_list := .success
  calloc _ := true
  port_remove _ := .good .null .null
  remove := .good .null .null

theorem BridgeFresh.initial : BridgeFresh (.initial .null) :=
  ⟨rfl, fun o => if_neg fun h => h.2 h.1, rfl, fun _ => rfl, rfl⟩

theorem bridgeInitClean_iff_refused :
    BridgeInitClean (.portless .failure .success) (.initial .null) :=
  (bridgeInitClean_iff .initial (by decide)).mpr (.inr (by decide))

/-- The registration with the LAG module fails, and every call that takes something down succeeds: the
id of the default bridge stays. -/
theorem not_bridgeInitClean_portless :
    BridgeFresh (.initial .null) ∧
    (bridgeInit (.portless .success .failure) (.initial .null)).1 = .failure ∧
    ¬ BridgeInitClean (.portless .success .failure) (.initial .null) :=
  ⟨.initial, rfl, fun h => absurd h.fresh.default (by decide)⟩

end OpxSai
