import OpxSai.Qos.ProfileSet
import OpxSai.Qos.PortConfigs
import OpxSai.Qos.QueueFrame

/-!
# A configuration that can not be taken off

Where one part of the configuration of a port can not be taken off, the parts before it are put back. The
status of the failure is lost when a policer is among these, and a map that the NPU let go of before it
refused the other maps stays off. The queues and groups come after that: a failure there does not stop the
loops, and nothing of the port is put back.

* `RemovalHolds`, `removesOrRestores_iff` — the condition, and that the property holds exactly under it.
-/

variable (policer_id map_id object_id : Oid) (type : PolicerType)

namespace OpxSai

open SchedDb MapDb PolicerDb PortDb

variable {ids : Oid → Bool} {db : PolicerDb} {map_type : QosMapType} {port_id : Oid}
variable {remove : Oid → SchedDb → Status × SchedDb} {maps_id : QosMapType → Oid}

/-! ## Property -/

variable (profile_id : Oid) {f : BufferProfile → BufferProfile} (profile : BufferProfile)
  (env : SchedEnv)

/-- The configuration of a port, and what the NPU has of it. -/
structure PortConfigs where
  buffer_profile_id : Oid
  maps_id : QosMapType → Oid
  policer_id : PolicerType → Oid
  hw_profile : ProfileAttrId → Option ProfileAttr
  hw_map : QosMapType → Oid
  hw_policer : PolicerType → Oid

def portConfigs (port_id : Oid) (db : PortDb) : PortConfigs where
  buffer_profile_id := bufferProfileId db.sched.qos port_id
  maps_id := db.maps.mapsId port_id
  policer_id := db.policers.policerId port_id
  hw_profile := db.sched.qos.hw_profile port_id
  hw_map := db.maps.hw_map port_id
  hw_policer := db.policers.hw_policer port_id

/-- A port without a buffer profile, maps and policers, also in the NPU. -/
structure PortBare (port_id : Oid) (db : PortDb) : Prop where
  buffer : bufferProfileId db.sched.qos port_id = .null
  maps : ∀ t, db.maps.mapsId port_id t = .null
  policers : ∀ t, db.policers.policerId port_id t = .null
  hw_maps : ∀ t, db.maps.hw_map port_id t = .null
  hw_policers : ∀ t, db.policers.hw_policer port_id t = .null

/-- What the steps of `configsEach` answer. -/
def configsEachSteps (remove : Oid → SchedDb → Status × SchedDb) : List Oid → SchedDb → List Status
  | [], _ => []
  | o :: os, db => (remove o db).1 :: configsEachSteps remove os (remove o db).2

/-- What the steps of `schedGroupLevelsConfigs` answer. -/
def schedGroupLevelsSteps (env : SchedEnv) (port_id : Oid) : Nat → SchedDb → List Status
  | 0, _ => []
  | level + 1, db =>
    let removed :=
      configsEach (schedGroupConfigsRemove env) (schedGroupsOf db port_id (level + 1)) .success db
    configsEachSteps (schedGroupConfigsRemove env) (schedGroupsOf db port_id (level + 1)) db ++
      schedGroupLevelsSteps env port_id level removed.2

/-- What the steps of `childConfigsRemove` answer, one for each queue and group. -/
def childConfigsSteps (port_id : Oid) (db : SchedDb) : List Status :=
  let queues := configsEach (queueConfigsRemove env) (queuesOf db port_id) .success db
  configsEachSteps (queueConfigsRemove env) (queuesOf db port_id) db ++
    if env.is_hierarchy_qos_supported = true then
      schedGroupLevelsSteps env port_id env.leaf_hierarchy_level queues.2
    else []

/-- A step of the removal fails: one for the port itself, or one for its queues and groups. -/
def SomeStepFails (env : PortEnv) (port_id : Oid) (db : PortDb) : Prop :=
  (portTakeConfigs env port_id db).rc ≠ .success ∨
  ∃ rc ∈ childConfigsSteps env.sched port_id (portTakeConfigs env port_id db).db.sched, rc ≠ .success

/-- **A removal that fails says so and restores the port**, and one that succeeds took off everything. -/
structure RemovesOrRestores (env : PortEnv) (port_id : Oid) (db : PortDb) : Prop where
  reported : SomeStepFails env port_id db → (nonDefaultConfigsRemove env port_id db).1 ≠ .success
  restored : (nonDefaultConfigsRemove env port_id db).1 ≠ .success →
    portConfigs port_id (nonDefaultConfigsRemove env port_id db).2 = portConfigs port_id db
  removed : (nonDefaultConfigsRemove env port_id db).1 = .success →
    PortBare port_id (nonDefaultConfigsRemove env port_id db).2

/-! ## Maps -/

section Maps

variable (env : MapEnv)

/-- The port is there, the NPU has its maps, and the maps that are there are those of a set of ids. -/
structure MapsFit (port_id : Oid) (ids : Oid → Bool) (db : MapDb) : Prop where
  port : (db.ports port_id).isSome = true
  agree : HwMapsAgree port_id db
  ids : ∀ o, (db.maps o).isSome = ids o

theorem MapMoved.mapsId {map_id} {db db'} (h : MapMoved port_id map_type map_id db db')
    (hport : db.ports port_id = some maps_id) (t) :
    db'.mapsId port_id t = if t = map_type then map_id else db.mapsId port_id t := by
  simp only [MapDb.mapsId, h.ports, if_true, hport, Option.map_some, Option.elim_some, mapsIdSet]

theorem mapsFit_onlyCalls {db db'} (h : MapsFit port_id ids db)
    (hsame : OnlyCalls db db') : MapsFit port_id ids db' := by
  refine ⟨by rw [hsame.ports]; exact h.port, fun t => ?_, fun o => ?_⟩
  · rw [hsame.hw_map, h.agree]
    simp only [MapDb.mapsId, hsame.ports]
  · rw [hsame.maps, h.ids]

theorem mapsFit_moved {map_id} {db db'} (h : MapsFit port_id ids db)
    (hport : db.ports port_id = some maps_id) (hmoved : MapMoved port_id map_type map_id db db')
    (hmaps : ∀ o, (db'.maps o).isSome = (db.maps o).isSome) : MapsFit port_id ids db' := by
  refine ⟨by rw [hmoved.ports, if_pos rfl, hport]; rfl, fun t => ?_, fun o =>
    (hmaps o).trans (h.ids o)⟩
  rw [hmoved.hw h.agree, hmoved.mapsId hport, h.agree]
  simp only [true_and]

theorem mapPortUnlink_isSome (glue : Oid × QosMapType) {db} {o} :
    ((mapPortUnlink map_id glue db).maps o).isSome = (db.maps o).isSome := by
  simp only [mapPortUnlink]
  split
  · rw [Option.isSome_map]
  · rfl

theorem mapsLinked_isSome (map_id) {map_type} {db} {o} :
    (mapsLinked port_id map_id maps_id map_type db o).isSome = (db.maps o).isSome := by
  simp only [mapsLinked, mapPortLink]
  split
  · rw [Option.isSome_map]
    split
    · exact mapPortUnlink_isSome _ _
    · rfl
  split
  · exact mapPortUnlink_isSome _ _
  · rfl

/-- **A map is taken off a port**, or left where the NPU does not let it go. -/
theorem portTakeMap_cases {db}
    (hfit : MapsFit port_id ids db) (hmap : db.mapsId port_id map_type ≠ .null) :
    let x := portTakeMap env port_id map_type db
    MapsFit port_id ids x.2 ∧
    ((¬ MapLetGo env port_id map_type db ∧ x.1 ≠ .success ∧
        x.2.mapsId port_id = db.mapsId port_id) ∨
      (MapLetGo env port_id map_type db ∧
        ∀ t, x.2.mapsId port_id t = if t = map_type then .null else db.mapsId port_id t)) := by
  intro x
  obtain ⟨maps_id, hport⟩ := Option.isSome_iff_exists.mp hfit.port
  have hx : mapPortRemove env port_id maps_id map_type db = x := by
    simp only [x, portTakeMap, mapOnPortSetInternal, hport, if_true]
  rcases mapPortRemove_cases env _ hport with ⟨hkept, hfail, hsame⟩ | ⟨hgone, hmoved, hmaps⟩
  all_goals rw [hx] at *
  · refine ⟨mapsFit_onlyCalls hfit hsame, .inl ⟨hkept, hfail, ?_⟩⟩
    funext t
    simp only [MapDb.mapsId, hsame.ports]
  · refine ⟨mapsFit_moved hfit hport hmoved fun o => ?_, .inr ⟨hgone, hmoved.mapsId hport⟩⟩
    rw [hmaps]
    exact mapPortUnlink_isSome _ _

theorem takesMaps (ids : Oid → Bool) :
    TakesSlots .success .null (fun db => db.mapsId port_id) (portTakeMap env port_id)
      (MapsFit port_id ids) :=
  .of_step fun t _ hfit hmap =>
    have hcases := portTakeMap_cases env hfit hmap
    ⟨hcases.1, hcases.2.imp And.right And.right⟩

theorem givesMaps {ids : Oid → Bool} {had : QosMapType → Oid}
    (hback : ∀ log c, env.outside log c = .success) :
    GivesSlots (fun db => db.mapsId port_id) had
      (fun t db => (mapOnPortSetInternal env port_id (had t) (some t) db).2)
      (MapsFit port_id ids)
      (fun t => had t ≠ .null ∧ ids (had t) = true) := by
  refine .of_step fun t db hfit hhad => ?_
  obtain ⟨maps_id, hport⟩ := Option.isSome_iff_exists.mp hfit.port
  generalize hx : mapOnPortSetInternal _ _ _ _ _ = x
  simp only [mapOnPortSetInternal, hport, if_neg hhad.1] at hx
  split at hx
  · -- The port has the map already.
    rename_i hsame
    subst hx
    refine ⟨hfit, fun t' => ?_⟩
    split
    next ht => rw [ht, mapsId_of hport, hsame]
    · rfl
  · have hnode : (db.maps (had t)).isSome = true := (hfit.ids _).trans hhad.2
    rcases mapPortAdd_cases env t hport with ⟨-, -, hrefused⟩ | ⟨-, -, hmoved, hmaps⟩
    · exact absurd (hback _ _) (hrefused hnode)
    rw [hx] at hmoved hmaps
    refine ⟨mapsFit_moved hfit hport hmoved fun o => ?_, hmoved.mapsId hport⟩
    rw [hmaps]
    exact mapsLinked_isSome _

theorem mapTypes_nodup : QosMapType.all.Nodup := by decide

theorem mem_mapTypes {map_type} : map_type ∈ QosMapType.all := by
  cases map_type <;> decide

/-- A map is let go of by the NPU, and the ingress maps are refused after it. -/
def MapLost (env : MapEnv) (port_id : Oid) (db : MapDb) : Prop :=
  StopsWhere .success .null (fun db => db.mapsId port_id) (portTakeMap env port_id)
    (MapLetGo env port_id) QosMapType.all db

def mapsBack (env : MapEnv) (port_id : Oid) (maps_id : QosMapType → Oid)
    (removed : Taken Status QosMapType MapDb) : MapDb :=
  if removed.taken = true then portRevertMaps env port_id maps_id removed.walked removed.state
  else removed.state

/-- **The maps of a port are taken off**, or are as before when they went on again, unless one was lost. -/
theorem portRemoveMaps_back {back} {db}
    (hfit : MapsFit port_id ids db) (hback : ∀ log c, back.outside log c = .success) :
    let removed := portRemoveMaps env port_id db
    MapsFit port_id ids removed.state ∧
    (removed.rc = .success → ∀ t, removed.state.mapsId port_id t = .null) ∧
    MapsFit port_id ids (mapsBack back port_id (db.mapsId port_id) removed) ∧
    ((mapsBack back port_id (db.mapsId port_id) removed).mapsId port_id = db.mapsId port_id ↔
      ¬ MapLost env port_id db) := by
  intro removed
  have htakes := @takesMaps port_id env ids
  have hwalk : WalkLeaves .success .null (fun db => db.mapsId port_id) (portTakeMap env port_id)
      (MapsFit port_id ids) QosMapType.all db removed := takeEach_spec htakes mapTypes_nodup hfit
  have hstate : MapsFit port_id ids removed.state :=
    takeEach_keeps (fun t db hfit hmap => htakes.keeps t db hfit hmap) hfit
  obtain ⟨hkept, hiff⟩ := putBack_iff hwalk hstate (givesMaps _ hback)
    fun t ht hmap => by
      -- What came off was there, so that the node of the map is there still.
      obtain ⟨db', hfit', hsame, hok⟩ := hwalk.from_ t ht hmap
      have hmap' : db'.mapsId port_id t ≠ .null := fun hnull => hmap (hsame.symm.trans hnull)
      rcases (portTakeMap_cases env hfit' hmap').2 with ⟨-, hfail, -⟩ | ⟨hgone, -⟩
      · exact absurd hok hfail
      refine ⟨hmap, (hfit'.ids _).symm.trans ?_⟩
      have hnode := hgone.1
      rw [show db'.mapsId port_id t = db.mapsId port_id t from hsame] at hnode
      exact hnode
  refine ⟨hstate, fun hok t => hwalk.emptied t ?_, hkept, hiff.trans (not_congr ?_)⟩
  · rw [hwalk.all hok]
    exact mem_mapTypes
  · refine StopsWhere.congr htakes (fun t db' hfit' hmap _ => ?_) hfit
    rcases (portTakeMap_cases env hfit' hmap).2 with ⟨hkept, -, hsame⟩ | ⟨hgone, hnull⟩
    · exact iff_of_false (not_not.mpr (congrFun hsame t)) hkept
    · refine iff_of_true (fun hsame => hmap ?_) hgone
      rw [← hsame, hnull, if_pos rfl]

end Maps

/-! ## Policers -/

section Policers

variable (env : PolicerEnv)

/-- The port is there, the NPU has its policers, and the policers that are there are those of a set of
ids. -/
structure StormPolicersFit (port_id : Oid) (ids : Oid → Bool) (db : PolicerDb) : Prop where
  port : (db.ports port_id).isSome = true
  agree : ∀ t, db.hw_policer port_id t = db.policerId port_id t
  ids : ∀ o, (db.policers o).isSome = ids o

theorem setPorts_isSome (f : List Oid → List Oid)
    {db : PolicerDb} (o) : ((db.setPorts policer_id type f).policers o).isSome =
      (db.policers o).isSome := by
  simp only [setPorts]
  split
  · rw [Option.isSome_map]
  · rfl

theorem setPolicerId_leaves {db db' : PolicerDb} (hport : (db.ports port_id).isSome = true)
    (hnodes : ∀ o, (db'.policers o).isSome = (db.policers o).isSome)
    (hports : db'.ports = db.ports) (hhw : db'.hw_policer = db.hw_policer)
    {type : PolicerType} {oid : Oid} :
    let x := db'.setPolicerId port_id type oid
    (x.ports port_id).isSome = true ∧ x.hw_policer = db.hw_policer ∧
    (∀ o, (x.policers o).isSome = (db.policers o).isSome) ∧
    ∀ t, x.policerId port_id t = if t = type then oid else db.policerId port_id t := by
  obtain ⟨policer_id, hpolicer⟩ := Option.isSome_iff_exists.mp hport
  refine ⟨?_, hhw, hnodes, fun t => ?_⟩
  · simp only [setPolicerId, if_true, Option.isSome_map, hports, hport]
  · simp only [policerId, setPolicerId, if_true, hports, hpolicer, Option.map_some,
      Option.elim_some]

theorem stormControlNodeUpdate_leaves (hport : (db.ports port_id).isSome = true)
    {policer_id : Oid} {type : PolicerType} {is_add : Bool} :
    let x := stormControlNodeUpdate port_id policer_id type is_add db
    (x.ports port_id).isSome = true ∧ x.hw_policer = db.hw_policer ∧
    (∀ o, (x.policers o).isSome = (db.policers o).isSome) ∧
    ∀ t, x.policerId port_id t =
      if t = type then (if is_add = true then policer_id else .null) else db.policerId port_id t := by
  simp only [stormControlNodeUpdate]
  cases is_add with
  | false => exact setPolicerId_leaves hport (setPorts_isSome _ _ _) rfl rfl
  | true =>
    by_cases hnull : db.policerId port_id type = .null
    · simp only [if_true, if_ok hnull]
      exact setPolicerId_leaves hport (setPorts_isSome _ _ _) rfl rfl
    simp only [if_true, ne_eq, hnull, not_false_eq_true]
    exact setPolicerId_leaves hport
      (fun o => (setPorts_isSome _ _ _ o).trans (setPorts_isSome _ _ _ o)) rfl rfl

/-- **A port takes a policer or gives it up**, unless the NPU refuses. -/
theorem stormControlPolicerApply_cases
    (hfit : StormPolicersFit port_id ids db) {policer_id} {type} {is_add : Bool} :
    let x := stormControlPolicerApply env port_id policer_id type is_add db
    StormPolicersFit port_id ids x.2 ∧
    ((x.1 ≠ .success ∧ x.2.policerId port_id = db.policerId port_id ∧
        (ids policer_id = true → ∃ log c, env.outside log c ≠ .success)) ∨
      (x.1 = .success ∧ ids policer_id = true ∧ ∀ t, x.2.policerId port_id t =
        if t = type then (if is_add = true then policer_id else .null)
        else db.policerId port_id t)) := by
  intro x
  have hx : stormControlPolicerApply env port_id policer_id type is_add db = x := rfl
  clear_value x
  simp only [stormControlPolicerApply] at hx
  split at hx
  next hnone =>
    subst hx
    refine ⟨hfit, .inl ⟨by simp, rfl, fun hid => ?_⟩⟩
    rw [← hfit.ids, hnone] at hid
    cases hid
  rename_i node hnode
  have hid : ids policer_id = true := by
    rw [← hfit.ids, hnode]
    rfl
  have hanswer : (db.call env (.policerPortSet port_id policer_id type is_add)).1 =
    env.outside db.outside_log (.policerPortSet port_id policer_id type is_add) := rfl
  have hcalled : (db.call env (.policerPortSet port_id policer_id type is_add)).2.ports = db.ports ∧
      (db.call env (.policerPortSet port_id policer_id type is_add)).2.policers = db.policers := by
    simp only [PolicerDb.call]
    split <;> exact ⟨rfl, rfl⟩
  have hrefused : (db.call env (.policerPortSet port_id policer_id type is_add)).1 ≠ .success →
      (db.call env (.policerPortSet port_id policer_id type is_add)).2.hw_policer = db.hw_policer := by
    intro hfail
    simp only [PolicerDb.call] at hfail ⊢
    rw [if_neg hfail]
  have hdone : (db.call env (.policerPortSet port_id policer_id type is_add)).1 = .success →
      ∀ t, (db.call env (.policerPortSet port_id policer_id type is_add)).2.hw_policer port_id t =
        if t = type then (if is_add = true then policer_id else .null)
        else db.hw_policer port_id t := by
    intro hok t
    simp only [PolicerDb.call] at hok ⊢
    rw [if_pos hok]
    simp only [PolicerDb.done, true_and]
  generalize db.call _ _ = set at hx hanswer hcalled hrefused hdone
  have hids : set.2.policerId port_id = db.policerId port_id := by
    funext t
    simp only [policerId, hcalled.1]
  split at hx
  next hfail =>
    subst hx
    refine ⟨⟨by rw [hcalled.1]; exact hfit.port, fun t => ?_, fun o => ?_⟩,
      .inl ⟨hfail, hids, fun _ => ⟨_, _, hanswer ▸ hfail⟩⟩⟩
    · rw [hrefused hfail, hids, hfit.agree]
    · rw [hcalled.2, hfit.ids]
  rename_i hok
  have hok := not_not.mp hok
  have hthere : (set.2.ports port_id).isSome = true := by
    rw [hcalled.1]
    exact hfit.port
  obtain ⟨hport, hhw, hnodes, hpolicer⟩ :=
    stormControlNodeUpdate_leaves hthere
  subst hx
  refine ⟨⟨hport, fun t => ?_, fun o => ?_⟩, .inr ⟨rfl, hid, fun t => ?_⟩⟩
  · rw [hhw, hdone hok, hpolicer, hids, hfit.agree]
  · rw [hnodes, hcalled.2, hfit.ids]
  · rw [hpolicer, hids]

theorem stormControlPolicerSet_eq (hport : (db.ports port_id).isSome = true) {type} {oid}
    (hoid : oid ≠ .null → oid.type = .policer ∧ env.is_storm_control oid = true) :
    stormControlPolicerSet env port_id (portAttrFromStormControlType type).2 oid db =
      if oid = .null then
        stormControlPolicerApply env port_id (db.policerId port_id type) type false db
      else stormControlPolicerApply env port_id oid type true db := by
  have hattr : ¬ ((portAttrFromStormControlType type).2 = .policerId ∧
      env.port_policer_supported = false) := by
    intro h
    cases type <;> cases h.1
  simp only [stormControlPolicerSet, if_neg hattr, stormControlType_of_portAttr.2, hport]
  by_cases hnull : oid = .null
  · simp [hnull]
  · simp [hnull, hoid hnull]

theorem portTakePolicer_eq (hport : (db.ports port_id).isSome = true)
    (type) : portTakePolicer env port_id type db =
      stormControlPolicerApply env port_id (db.policerId port_id type) type false db := by
  simp only [portTakePolicer, stormControlType_of_portAttr.1]
  rw [if_neg (by simp), stormControlPolicerSet_eq env hport fun h => absurd rfl h,
    if_pos rfl]

theorem takesPolicers (ids : Oid → Bool) :
    TakesSlots .success .null (fun db => db.policerId port_id) (portTakePolicer env port_id)
      (StormPolicersFit port_id ids) := by
  refine .of_step fun t db hfit _ => ?_
  rw [portTakePolicer_eq env hfit.port]
  obtain ⟨hkept, hcases⟩ := stormControlPolicerApply_cases env hfit
  exact ⟨hkept, hcases.imp (fun h => ⟨h.1, h.2.1⟩) fun h => by simpa using h.2.2⟩

theorem givesPolicers {ids : Oid → Bool} {had : PolicerType → Oid}
    (hback : ∀ log c, env.outside log c = .success) :
    GivesSlots (fun db => db.policerId port_id) had
      (fun t db => (stormControlPolicerSet env port_id (portAttrFromStormControlType t).2 (had t) db).2)
      (StormPolicersFit port_id ids)
      (fun t => had t ≠ .null ∧ ids (had t) = true ∧ (had t).type = .policer ∧
        env.is_storm_control (had t) = true) := by
  refine .of_step fun t db hfit ⟨hne, hid, htype, hstorm⟩ => ?_
  rw [stormControlPolicerSet_eq env hfit.port fun _ => ⟨htype, hstorm⟩, if_neg hne]
  obtain ⟨hkept, ⟨-, -, hrefused⟩ | ⟨-, -, hgiven⟩⟩ :=
    stormControlPolicerApply_cases env hfit
  · obtain ⟨log, c, hno⟩ := hrefused hid
    exact absurd (hback log c) hno
  · exact ⟨hkept, fun t' => by simpa using hgiven t'⟩

theorem portRevertPolicers_eq (policer_id : PolicerType → Oid) {types} :
    ∀ (rc : Status) (db : PolicerDb),
      (portRevertPolicers env port_id policer_id types rc db).2 = giveEach .null policer_id
        (fun t db => (stormControlPolicerSet env port_id (portAttrFromStormControlType t).2
          (policer_id t) db).2) types db ∧
      ((∃ t ∈ types, policer_id t ≠ .null) →
        (portRevertPolicers env port_id policer_id types rc db).1 = .success) ∧
      (rc = .success → (portRevertPolicers env port_id policer_id types rc db).1 = .success) := by
  induction types with
  | nil => exact fun rc db => ⟨rfl, by simp, id⟩
  | cons t types ih =>
    intro rc db
    simp only [portRevertPolicers, giveEach, stormControlType_of_portAttr.1]
    by_cases hnull : policer_id t = .null
    · simp only [if_pos hnull]
      obtain ⟨hdb, hany, hrc⟩ := ih rc db
      refine ⟨hdb, ?_, hrc⟩
      rintro ⟨t', ht', hne⟩
      refine hany ⟨t', ?_, hne⟩
      exact (List.mem_cons.mp ht').resolve_left fun heq => hne (heq ▸ hnull)
    simp only [if_neg hnull, ne_eq, not_true_eq_false, if_false]
    obtain ⟨hdb, -, hrc⟩ := ih .success (stormControlPolicerSet env port_id
      (portAttrFromStormControlType t).2 (policer_id t) db).2
    exact ⟨hdb, fun _ => hrc rfl, fun _ => hrc rfl⟩

theorem policerTypes_nodup : PolicerType.all.Nodup := by decide

theorem mem_policerTypes : type ∈ PolicerType.all := by
  cases type <;> decide

/-- The policers of a port go on again, and the status with them. -/
def policersBack (env : PolicerEnv) (port_id : Oid) (policer_id : PolicerType → Oid)
    (removed : Taken Status PolicerType PolicerDb) : Status × PolicerDb :=
  if removed.taken = true then
    portRevertPolicers env port_id policer_id removed.walked removed.rc removed.state
  else (removed.rc, removed.state)

/-- **The policers of a port are taken off**, or are as before when they went on again; but then the
failure is forgotten. -/
theorem portRemovePolicers_back {back}
    (hfit : StormPolicersFit port_id ids db) (hback : ∀ log c, back.outside log c = .success)
    (hstorm : ∀ t, db.policerId port_id t ≠ .null → (db.policerId port_id t).type = .policer ∧
        back.is_storm_control (db.policerId port_id t) = true) :
    let removed := portRemovePolicers env port_id db
    StormPolicersFit port_id ids removed.state ∧
    (removed.rc = .success → ∀ t, removed.state.policerId port_id t = .null) ∧
    ((policersBack back port_id (db.policerId port_id) removed).1 =
      if removed.taken = true then .success else removed.rc) ∧
    StormPolicersFit port_id ids (policersBack back port_id (db.policerId port_id) removed).2 ∧
    (policersBack back port_id (db.policerId port_id) removed).2.policerId port_id =
      db.policerId port_id := by
  intro removed
  have htakes := @takesPolicers port_id env ids
  have hwalk : WalkLeaves .success .null (fun db => db.policerId port_id) (portTakePolicer env port_id)
      (StormPolicersFit port_id ids) PolicerType.all db removed :=
    takeEach_spec htakes policerTypes_nodup hfit
  have hstate : StormPolicersFit port_id ids removed.state :=
    takeEach_keeps (fun t db hfit hpolicer => htakes.keeps t db hfit hpolicer) hfit
  obtain ⟨hkept, hiff⟩ := putBack_iff hwalk hstate (givesPolicers _ hback)
    fun t ht hpolicer => by
      -- What came off was there, so that its node is there still.
      obtain ⟨db', hfit', hsame, hok⟩ := hwalk.from_ t ht hpolicer
      rw [portTakePolicer_eq env hfit'.port] at hok
      rcases (stormControlPolicerApply_cases env hfit').2 with
        ⟨hfail, -⟩ | ⟨-, hid, -⟩
      · exact absurd hok hfail
      · rw [show db'.policerId port_id t = db.policerId port_id t from hsame] at hid
        exact ⟨hpolicer, hid, hstorm t hpolicer⟩
  have hnotlost : ¬ StopsWhere .success .null (fun db => db.policerId port_id)
      (portTakePolicer env port_id) (fun t at_ =>
        (portTakePolicer env port_id t at_).2.policerId port_id t ≠ at_.policerId port_id t)
      PolicerType.all db := by
    intro hstop
    obtain ⟨t, db', hfit', -, hfail, hlost⟩ := hstop.state htakes hfit
    rw [portTakePolicer_eq env hfit'.port] at hfail hlost
    rcases (stormControlPolicerApply_cases env hfit').2 with
      ⟨-, hsame, -⟩ | ⟨hok, -⟩
    · exact hlost (congrFun hsame t)
    · exact hfail hok
  have hback_eq : (policersBack back port_id (db.policerId port_id) removed).2 =
      putBack .null (db.policerId port_id) (fun t at_ => (stormControlPolicerSet back port_id
        (portAttrFromStormControlType t).2 (db.policerId port_id t) at_).2) removed := by
    simp only [policersBack, putBack]
    split
    · exact (portRevertPolicers_eq _ _ _ _).1
    · rfl
  refine ⟨hstate, fun hok t => hwalk.emptied t ?_, ?_, ?_, ?_⟩
  · rw [hwalk.all hok]
    exact mem_policerTypes t
  · simp only [policersBack]
    split
    next htaken =>
      exact (portRevertPolicers_eq _ _ _ _).2.1
        (hwalk.taken.mp htaken)
    · rfl
  · rw [hback_eq]
    exact hkept
  · rw [hback_eq]
    exact hiff.mpr hnotlost

end Policers

/-! ## The buffer profile -/

section Buffer

variable (env : QosEnv)

def profileValues (db : QosDb) (profile_id : Oid) : Option (ProfileAttrId → ProfileAttr) :=
  (db.profileNodeGet profile_id).map QosDb.profileValue

theorem profileValues_setProfileOf (hf : ∀ profile, QosDb.profileValue (f profile) = QosDb.profileValue
    profile) {db} :
    profileValues (setProfileOf profile_id f db) = profileValues db := by
  unfold setProfileOf
  cases db.profile_tree profile_id with
  | none => rfl
  | some ptr =>
    funext o
    show ((db.profile_tree o).bind (db.profiles.modify ptr f).get).map QosDb.profileValue = _
    unfold profileValues QosDb.profileNodeGet
    cases db.profile_tree o with
    | none => rfl
    | some q =>
      show ((db.profiles.modify ptr f).get q).map _ = (db.profiles.get q).map _
      rw [Heap.get_modify]
      split
      · rw [Option.map_map]
        exact congrArg (fun g => (db.profiles.get q).map g) (funext hf)
      · rfl

theorem profileValue_removeUser (o) :
    QosDb.profileValue (profile.removeUser o) = QosDb.profileValue profile := by
  funext id
  simp only [BufferProfile.removeUser]
  split <;> cases id <;> rfl

theorem profileValue_addUser (o) :
    QosDb.profileValue (profile.addUser o) = QosDb.profileValue profile := by
  funext id
  simp only [BufferProfile.addUser]
  split <;> cases id <;> rfl

theorem setBufferProfileId_leaves (db) :
    (setBufferProfileId object_id profile_id db).hw_profile = db.hw_profile ∧
    profileValues (setBufferProfileId object_id profile_id db) = profileValues db := by
  unfold setBufferProfileId
  split <;> exact ⟨rfl, rfl⟩

theorem setProfileOf_leaves (hf : ∀ profile, QosDb.profileValue (f profile) = QosDb.profileValue
    profile) (db) :
    (setProfileOf profile_id f db).hw_profile = db.hw_profile ∧
    (setProfileOf profile_id f db).ports = db.ports ∧
    profileValues (setProfileOf profile_id f db) = profileValues db := by
  refine ⟨?_, ?_, profileValues_setProfileOf _ hf⟩
  all_goals
    unfold setProfileOf
    cases db.profile_tree profile_id <;> rfl

theorem relinkUser_leaves (old_profile_id profile_id) (db) :
    (relinkUser object_id old_profile_id profile_id db).hw_profile = db.hw_profile ∧
    (relinkUser object_id old_profile_id profile_id db).ports =
      (setBufferProfileId object_id profile_id db).ports ∧
    profileValues (relinkUser object_id old_profile_id profile_id db) = profileValues db := by
  obtain ⟨hhw, hvalues⟩ := setBufferProfileId_leaves object_id profile_id db
  rw [← hhw, ← hvalues]
  simp only [relinkUser]
  generalize setBufferProfileId _ _ _ = start
  have hleft := setProfileOf_leaves old_profile_id
    (fun profile => profileValue_removeUser profile object_id) start
  have hjoin := fun db => setProfileOf_leaves profile_id
    (fun profile => profileValue_addUser profile object_id) db
  split
  · obtain ⟨hhw', hports', hvalues'⟩ := hjoin (if old_profile_id ≠ .null then
      setProfileOf old_profile_id (fun profile => profile.removeUser object_id) start else start)
    rw [hhw', hports', hvalues']
    split
    · exact hleft
    · exact ⟨rfl, rfl, rfl⟩
  split
  · exact hleft
  · exact ⟨rfl, rfl, rfl⟩

theorem objBufferProfileRecalc_leaves (old_pool_id new_pool_id)
    (old_size new_size tmp_size : BitVec 32) (is_add : Bool) (db) :
    let x := objBufferProfileRecalc env old_pool_id new_pool_id old_size new_size tmp_size is_add db
    x.hw_profile = db.hw_profile ∧ x.ports = db.ports ∧ profileValues x = profileValues db := by
  refine objBufferProfileRecalc_keeps (P := fun x => x.hw_profile = db.hw_profile ∧
    x.ports = db.ports ∧ profileValues x = profileValues db) (fun pool_id size is_add db' h => ?_)
    old_pool_id new_pool_id old_size new_size tmp_size is_add ⟨rfl, rfl, rfl⟩
  obtain ⟨hprofiles, htree⟩ := bufferPoolSizeRecalc_profiles env pool_id size is_add db'
  refine ⟨(bufferPoolSizeRecalc_hw env pool_id size is_add db').trans h.1, Eq.trans ?_ h.2.1,
    Eq.trans ?_ h.2.2⟩
  · rcases bufferPoolSizeRecalc_cases env pool_id size is_add db' with
      ⟨-, hsame⟩ | ⟨-, -, -, -, hsame⟩
    · exact hsame.ports
    · exact hsame.ports
  · funext o
    simp only [profileValues, QosDb.profileNodeGet, hprofiles, htree]

theorem objUpdateBufferProfileNode_succeeds {object_id profile_id old_profile_id} {db}
    {profile} (hold : getBufferProfileId db object_id = some old_profile_id)
    (hnew : profileOrDefault db profile_id = some profile) :
    (objUpdateBufferProfileNode object_id profile_id db).1 = .success := by
  have hknown : ¬ (profile_id ≠ .null ∧ (db.profileNodeGet profile_id).isSome = false) := by
    rintro ⟨hne, hnone⟩
    rw [profileOrDefault, if_neg hne] at hnew
    rw [hnew] at hnone
    cases hnone
  simp only [objUpdateBufferProfileNode, if_neg hknown]
  split
  all_goals first
    | rw [hold]
    | (rename_i hport hqueue hpg
       unfold getBufferProfileId at hold
       split at hold <;> simp_all)

theorem objUpdateBufferProfile_hw (object_id profile_id) (db) :
    let x := objUpdateBufferProfile env object_id profile_id db
    (x.1 ≠ .success → x.2.hw_profile = db.hw_profile) ∧
    (x.1 = .success → getBufferProfileId db object_id ≠ some profile_id →
      ∃ profile, profileOrDefault db profile_id = some profile ∧
        x.2.hw_profile object_id = fun id => some (QosDb.profileValue profile id)) := by
  intro x
  have hx : objUpdateBufferProfile env object_id profile_id db = x := rfl
  clear_value x
  simp only [objUpdateBufferProfile] at hx
  split at hx
  · subst hx
    exact ⟨fun _ => rfl, fun h => by cases h⟩
  rename_i old_profile_id hold
  split at hx
  next hsame =>
    subst hx
    exact ⟨fun h => absurd rfl h, fun _ hne => absurd (hsame ▸ hold) hne⟩
  split at hx
  · subst hx
    exact ⟨fun _ => rfl, fun h => by cases h⟩
  rename_i profile hprofile
  split at hx
  · subst hx
    exact ⟨fun _ => rfl, fun h => by cases h⟩
  split at hx
  · subst hx
    exact ⟨fun _ => rfl, fun h => by cases h⟩
  rename_i old_profile hbefore
  split at hx
  next rc hrc =>
    subst hx
    exact ⟨fun _ => rfl, fun h => absurd h (calcPoolSize_error hrc)⟩
  rename_i tmp_size is_add _
  have hcall := QosDb.TreesSame.call db env (.profileApply object_id old_profile profile)
  have hrefused := fun h => (QosDb.call_failed_hw db env
    (.profileApply object_id old_profile profile) h).2
  have hdone := QosDb.call_ok db env (.profileApply object_id old_profile profile)
  generalize db.call _ _ = applied at hx hcall hrefused hdone
  split at hx
  next hfail =>
    subst hx
    exact ⟨fun _ => hrefused hfail, fun h => absurd h hfail⟩
  rename_i hok
  have hnode : (objUpdateBufferProfileNode object_id profile_id applied.2).1 = .success := by
    have hold' : getBufferProfileId applied.2 object_id = some old_profile_id := by
      rw [← hold]
      simp only [getBufferProfileId, hcall.ports, hcall.queues, hcall.pgs]
    have hprofile' : profileOrDefault applied.2 profile_id = some profile := by
      rw [← hprofile]
      simp only [profileOrDefault, QosDb.profileNodeGet, hcall.profiles, hcall.profile_tree]
    exact objUpdateBufferProfileNode_succeeds hold' hprofile'
  rw [if_ok hnode] at hx
  obtain ⟨-, old, -, heq⟩ := objUpdateBufferProfileNode_ok hnode
  rw [heq] at hx
  subst hx
  refine ⟨fun h => absurd rfl h, fun _ _ => ⟨profile, hprofile, ?_⟩⟩
  rw [(objBufferProfileRecalc_leaves env _ _ _ _ _ _ _).1, (relinkUser_leaves _ _ _ _).1,
    hdone (not_not.mp hok)]
  funext id
  exact if_pos rfl

theorem getBufferProfileId_port (htype : port_id.type = .port) {db} {oid}
    (h : getBufferProfileId db port_id = some oid) : bufferProfileId db port_id = oid := by
  simp only [getBufferProfileId, htype] at h
  obtain ⟨user, huser, rfl⟩ := Option.map_eq_some_iff.mp h
  simp only [bufferProfileId, huser, Option.elim_some]

theorem objUpdateBufferProfile_port (htype : port_id.type = .port) (profile_id) (db)
    (hok : (objUpdateBufferProfile env port_id profile_id db).1 = .success) :
    let x := objUpdateBufferProfile env port_id profile_id db
    bufferProfileId x.2 port_id = profile_id ∧ profileValues x.2 = profileValues db ∧
    getBufferProfileId db port_id = some (bufferProfileId db port_id) := by
  intro x
  have hx : objUpdateBufferProfile env port_id profile_id db = x := rfl
  clear_value x
  rcases objUpdateBufferProfile_cases env port_id profile_id db with
    ⟨hfail, -⟩ | ⟨-, hold, hsame⟩ | ⟨-, old, profile, old_profile, size, is_add, applied, hset⟩
  · exact absurd hok hfail
  · rw [hx] at hsame
    have hid := getBufferProfileId_port htype hold
    rw [hsame, hid]
    exact ⟨rfl, rfl, hold⟩
  · rw [hx] at hset
    have hid := getBufferProfileId_port htype hset.old
    obtain ⟨-, old', hold', heq⟩ := objUpdateBufferProfileNode_ok hset.update
    obtain ⟨-, hports, hvalues⟩ := relinkUser_leaves port_id old' profile_id applied
    have hrecalc := hset.recalc
    rw [heq] at hrecalc
    obtain ⟨-, hports', hvalues'⟩ := objBufferProfileRecalc_leaves env old_profile.buffer_pool_id
      profile.buffer_pool_id (if old ≠ .null then bufferProfileCharge db old_profile else 0)
      (if profile_id ≠ .null then bufferProfileCharge db profile else 0) size is_add
      (relinkUser port_id old' profile_id applied)
    refine ⟨?_, ?_, by rw [hid]; exact hset.old⟩
    · have hset' := getBufferProfileId_set hold' profile_id port_id
      rw [if_pos rfl] at hset'
      rw [← getBufferProfileId_port htype hset']
      simp only [bufferProfileId, hrecalc.ports, hports', hports]
    · have hlast : profileValues x.2 = profileValues (objBufferProfileRecalc env
          old_profile.buffer_pool_id profile.buffer_pool_id
          (if old ≠ .null then bufferProfileCharge db old_profile else 0)
          (if profile_id ≠ .null then bufferProfileCharge db profile else 0) size is_add
          (relinkUser port_id old' profile_id applied)) := by
        funext o
        simp only [profileValues, QosDb.profileNodeGet, hrecalc.profiles, hrecalc.profile_tree]
      rw [hlast, hvalues', hvalues]
      funext o
      simp only [profileValues, QosDb.profileNodeGet, hset.call.profiles, hset.call.profile_tree]

/-- The NPU has the values of the profile of a port. -/
def HwProfileAgrees (port_id : Oid) (db : QosDb) : Prop :=
  ∀ values, profileValues db (bufferProfileId db port_id) = some values →
    db.hw_profile port_id = fun id => some (values id)

/-- **The buffer profile of a port is taken off**, or is as before when it went on again. -/
theorem takeBuffer_back {back} (htype : port_id.type = .port) {db}
    (hagree : HwProfileAgrees port_id db) (hhad : bufferProfileId db port_id ≠ .null) :
    let taken := objUpdateBufferProfile env port_id .null db
    let given := objUpdateBufferProfile back port_id (bufferProfileId db port_id) taken.2
    (taken.1 ≠ .success → bufferProfileId taken.2 port_id = bufferProfileId db port_id ∧
      taken.2.hw_profile = db.hw_profile) ∧
    (taken.1 = .success → bufferProfileId taken.2 port_id = .null ∧
      (given.1 = .success → bufferProfileId given.2 port_id = bufferProfileId db port_id ∧
        given.2.hw_profile port_id = db.hw_profile port_id)) := by
  intro taken given
  refine ⟨fun hfail => ⟨?_, (objUpdateBufferProfile_hw env port_id .null db).1 hfail⟩, fun hok => ?_⟩
  · rcases objUpdateBufferProfile_cases env port_id .null db with ⟨-, hsame⟩ | ⟨hok, -⟩ | ⟨hok, -⟩
    · simp only [bufferProfileId, taken, hsame.ports]
    · exact absurd hok hfail
    · exact absurd hok hfail
  · obtain ⟨hnull, hvalues, -⟩ := objUpdateBufferProfile_port env htype .null db hok
    refine ⟨hnull, fun hgiven => ?_⟩
    obtain ⟨hback, -, hhas⟩ := objUpdateBufferProfile_port back htype _ taken.2 hgiven
    refine ⟨hback, ?_⟩
    have hmoves : getBufferProfileId taken.2 port_id ≠ some (bufferProfileId db port_id) := by
      rw [hhas, hnull]
      exact fun heq => hhad (Option.some.inj heq).symm
    obtain ⟨profile, hprofile, hhw⟩ :=
      (objUpdateBufferProfile_hw back port_id (bufferProfileId db port_id) taken.2).2 hgiven hmoves
    rw [profileOrDefault, if_neg hhad] at hprofile
    have hvalue : profileValues db (bufferProfileId db port_id) =
        some (QosDb.profileValue profile) := by
      rw [← hvalues]
      show (taken.2.profileNodeGet (bufferProfileId db port_id)).map QosDb.profileValue = _
      rw [hprofile, Option.map_some]
    rw [hagree _ hvalue]
    exact hhw

end Buffer

/-! ## Queues and groups -/

/-- The buffer profile of an object is left, also in the NPU. -/
structure ProfileKept (o : Oid) (db db' : SchedDb) : Prop where
  ports : db'.qos.ports o = db.qos.ports o
  hw : db'.qos.hw_profile o = db.qos.hw_profile o

namespace ProfileKept

variable {o : Oid}

theorem refl (db) : ProfileKept o db db := ⟨rfl, rfl⟩

theorem trans {db₁ db₂ db₃} (h : ProfileKept o db₁ db₂) (h' : ProfileKept o db₂ db₃) :
    ProfileKept o db₁ db₃ := ⟨h'.ports.trans h.ports, h'.hw.trans h.hw⟩

theorem of_qos {user} {db db'} (hne : o ≠ user) (h : QosOnly user db db') :
    ProfileKept o db db' := ⟨h.writes.ports o hne, h.writes.hw o hne⟩

theorem call (db) (env) (c) : ProfileKept o db (db.call env c).2 := by
  have hdone : (db.done env c).qos.ports = db.qos.ports ∧
      (db.done env c).qos.hw_profile = db.qos.hw_profile := by
    cases c <;> exact ⟨rfl, rfl⟩
  simp only [SchedDb.call]
  split
  · exact ⟨congrFun hdone.1 o, congrFun hdone.2 o⟩
  · exact ⟨rfl, rfl⟩

theorem schedulerListUpdate (user) (in_tree : Bool) (object_id prev new)
    (db) : ProfileKept o db (schedulerListUpdate user in_tree object_id prev new db).2 := by
  have hid : ∀ (sched_id : Oid) (db : SchedDb),
      ProfileKept o db (setSchedulerId user object_id sched_id db) := by
    intro sched_id db
    cases user <;> exact ⟨rfl, rfl⟩
  have husers : ∀ (sched_id : Oid) f (db : SchedDb),
      ProfileKept o db (setSchedUsers sched_id user f db) := fun _ _ _ => ⟨rfl, rfl⟩
  simp only [OpxSai.schedulerListUpdate]
  split
  · exact refl db
  have hleft : ProfileKept o db (if keepsUsers db prev = true then
      setSchedUsers prev user (fun users => users.erase object_id) db else db) := by
    split
    · exact husers _ _ db
    · exact refl db
  generalize (if keepsUsers db prev = true then
      setSchedUsers prev user (fun users => users.erase object_id) db else db) = left at hleft
  split
  · exact hleft
  have hjoined : ProfileKept o db (if keepsUsers db new = true then
      setSchedUsers new user (fun users => users ++ [object_id]) left else left) := by
    split
    · exact hleft.trans (husers _ _ left)
    · exact hleft
  split
  · exact hjoined.trans (hid new _)
  · exact hjoined

theorem objSchedulerSet (env) (user) (in_tree : Bool)
    (object_id old_sched_id oid) {db} :
    ProfileKept o db (objSchedulerSet env user in_tree object_id old_sched_id oid db).2 := by
  simp only [OpxSai.objSchedulerSet]
  generalize (if oid = .null then db.default_sched_id else oid) = sched_id
  generalize (if old_sched_id ≠ .null then
    (db.schedulers old_sched_id).map Scheduler.toSchedParams else none) = old
  split
  · exact refl db
  split
  · exact refl db
  split
  · exact refl db
  split
  · exact call db env _
  · exact (call db env _).trans (schedulerListUpdate user in_tree object_id _ _ _)

theorem queueConfigsRemove {env} {queue_id} (hne : o ≠ queue_id) {db} :
    ProfileKept o db (queueConfigsRemove env queue_id db).2 := by
  simp only [OpxSai.queueConfigsRemove]
  split
  · exact refl db
  rename_i node _
  have hbuffer := of_qos hne (queueRemoveBuffer_same env queue_id node true db)
  have hwred := hbuffer.trans (of_qos hne (queueRemoveWred_same env queue_id node true
    (queueRemoveBuffer env queue_id node true db)))
  have hsched : ProfileKept o db (queueRemoveScheduler env queue_id node true
      (queueRemoveWred env queue_id node true (queueRemoveBuffer env queue_id node true db))).db := by
    simp only [queueRemoveScheduler]
    split
    · exact hwred
    · exact hwred.trans (objSchedulerSet env .queue true queue_id _ _)
  simp only [queueRemoveConfigs]
  split
  · exact hsched.trans (of_qos hne (queueRemoveRevert_same env queue_id node true _))
  · exact hsched

theorem schedGroupConfigsRemove {env} {sg_id} {db} :
    ProfileKept o db (schedGroupConfigsRemove env sg_id db).2 := by
  simp only [OpxSai.schedGroupConfigsRemove]
  split
  · exact refl db
  simp only [schedGroupRemoveConfigs]
  split
  · exact refl db
  split
  · exact (objSchedulerSet env _ _ _ _ _).trans
      (objSchedulerSet env _ _ _ _ _)
  · exact objSchedulerSet env _ _ _ _ _

theorem configsEach {os} (hremove : ∀ o' ∈ os, ∀ db, ProfileKept o db (remove o' db).2) :
    ∀ (rc : Status) (db : SchedDb), ProfileKept o db (configsEach remove os rc db).2 := by
  induction os with
  | nil => exact fun _ db => refl db
  | cons o' os ih =>
    intro rc db
    have hrest := ih fun o'' hmem => hremove o'' (List.mem_cons_of_mem o' hmem)
    exact (hremove o' List.mem_cons_self db).trans (hrest _ _)

theorem schedGroupLevelsConfigs {env} {port_id} (level : Nat) :
    ∀ (rc : Status) (db : SchedDb),
      ProfileKept o db (schedGroupLevelsConfigs env port_id level rc db).2 := by
  induction level with
  | zero => exact fun _ db => refl db
  | succ level ih =>
    intro rc db
    exact (configsEach (fun sg_id _ db => schedGroupConfigsRemove) rc db).trans (ih _ _)

/-- **The queues and groups of a port** leave what the port has itself. -/
theorem childConfigsRemove (env) {db}
    (hqueues : ∀ queue_id ∈ queuesOf db port_id, queue_id ≠ port_id) :
    ProfileKept port_id db (childConfigsRemove env port_id db).2 := by
  have hkept : ProfileKept port_id db (OpxSai.configsEach (OpxSai.queueConfigsRemove env)
      (queuesOf db port_id) .success db).2 :=
    configsEach (fun queue_id hmem db => queueConfigsRemove (hqueues queue_id hmem).symm)
      _ db
  simp only [OpxSai.childConfigsRemove]
  split
  · exact hkept.trans (schedGroupLevelsConfigs _ _ _)
  · exact hkept

end ProfileKept

theorem getLastD_append {α : Type} (l₁ l₂ : List α) :
    ∀ a, (l₁ ++ l₂).getLastD a = l₂.getLastD (l₁.getLastD a) := by
  induction l₁ with
  | nil => exact fun _ => rfl
  | cons b l₁ ih =>
    intro a
    rw [List.cons_append, List.getLastD_cons, List.getLastD_cons, ih]

theorem configsEach_rc {os} :
    ∀ (rc : Status) (db : SchedDb),
      (configsEach remove os rc db).1 = (configsEachSteps remove os db).getLastD rc ∧
      (configsEach remove os rc db).2 = (configsEach remove os .success db).2 := by
  induction os with
  | nil => exact fun _ _ => ⟨rfl, rfl⟩
  | cons o os ih =>
    intro rc db
    obtain ⟨hrc, -⟩ := ih (remove o db).1 (remove o db).2
    refine ⟨hrc.trans ?_, rfl⟩
    rw [configsEachSteps, List.getLastD_cons]

theorem schedGroupLevelsConfigs_rc (port_id) (level : Nat) :
    ∀ (rc : Status) (db : SchedDb), (schedGroupLevelsConfigs env port_id level rc db).1 =
      (schedGroupLevelsSteps env port_id level db).getLastD rc := by
  induction level with
  | zero => exact fun _ _ => rfl
  | succ level ih =>
    intro rc db
    obtain ⟨hrc, hdb⟩ := configsEach_rc rc db
    simp only [schedGroupLevelsConfigs, schedGroupLevelsSteps]
    rw [ih, hrc, hdb, getLastD_append]

theorem childConfigsRemove_rc (port_id) (db) : (childConfigsRemove env port_id db).1 =
      (childConfigsSteps env port_id db).getLastD .success := by
  obtain ⟨hrc, -⟩ := configsEach_rc _ db
  simp only [childConfigsRemove, childConfigsSteps]
  split
  · rw [schedGroupLevelsConfigs_rc, hrc, getLastD_append]
  · rw [hrc, List.append_nil]

theorem childConfigsRemove_ok {env} {db}
    (h : ∀ rc ∈ childConfigsSteps env port_id db, rc = .success) :
    (childConfigsRemove env port_id db).1 = .success := by
  rw [childConfigsRemove_rc]
  cases hsteps : childConfigsSteps env port_id db with
  | nil => rfl
  | cons rc steps =>
    rw [hsteps] at h
    rw [List.getLastD_cons, List.getLastD_eq_getLast?]
    cases hlast : steps.getLast? with
    | none => exact h rc List.mem_cons_self
    | some last => exact h last (List.mem_cons_of_mem rc (List.mem_of_getLast? hlast))

/-! ## The condition -/

/-- What a port is, and that the NPU has what it names. -/
structure PortConfigsFit (port_id : Oid) (db : PortDb) : Prop where
  type : port_id.type = .port
  port : (db.sched.qos_ports port_id).isSome = true
  queues : ∀ queue_id ∈ queuesOf db.sched port_id, queue_id ≠ port_id
  profile : HwProfileAgrees port_id db.sched.qos
  maps : (db.maps.ports port_id).isSome = true
  hw_map : HwMapsAgree port_id db.maps
  policers : (db.policers.ports port_id).isSome = true
  hw_policer : ∀ t, db.policers.hw_policer port_id t = db.policers.policerId port_id t

structure BackSucceeds (env : PortEnv) (port_id : Oid) (db : PortDb) : Prop where
  buffer : bufferProfileId db.sched.qos port_id ≠ .null →
    (portTakeBuffer env.sched.qos port_id db.sched).1 = .success →
    (objUpdateBufferProfile env.back_qos port_id (bufferProfileId db.sched.qos port_id)
      (portTakeBuffer env.sched.qos port_id db.sched).2.qos).1 = .success
  maps : ∀ log c, env.back_maps.outside log c = .success
  policers : ∀ log c, env.back_policers.outside log c = .success
  storm : ∀ t, db.policers.policerId port_id t ≠ .null →
    (db.policers.policerId port_id t).type = .policer ∧
      env.back_policers.is_storm_control (db.policers.policerId port_id t) = true

/-- **When a removal keeps its promise.** Of the port itself, no map is let go of by the NPU only to fail
with the other maps, and no policer was taken off before the one that fails, unless what follows fails
too. Of the queues and groups all succeed, or the port had nothing to lose and the last of them fails. -/
structure RemovalHolds (env : PortEnv) (port_id : Oid) (db : PortDb) : Prop where
  maps : (portTakeBuffer env.sched.qos port_id db.sched).1 = .success →
    ¬ MapLost env.maps port_id db.maps
  policers : (portTakeConfigs env port_id db).rc ≠ .success →
    (portTakeConfigs env port_id db).policer_removed = true →
    (childConfigsRemove env.sched port_id (portRemoveConfigs env port_id db).2.sched).1 ≠ .success
  children : (portTakeConfigs env port_id db).rc = .success →
    (∀ rc ∈ childConfigsSteps env.sched port_id (portTakeConfigs env port_id db).db.sched,
      rc = .success) ∨
    (PortBare port_id db ∧
      (childConfigsRemove env.sched port_id (portTakeConfigs env port_id db).db.sched).1 ≠ .success)

theorem portConfigs_eq {db db'}
    (hbuffer : bufferProfileId db'.sched.qos port_id = bufferProfileId db.sched.qos port_id)
    (hprofile : db'.sched.qos.hw_profile port_id = db.sched.qos.hw_profile port_id)
    (hmaps : db'.maps.mapsId port_id = db.maps.mapsId port_id)
    (hhwmap : HwMapsAgree port_id db.maps) (hhwmap' : HwMapsAgree port_id db'.maps)
    (hpolicers : db'.policers.policerId port_id = db.policers.policerId port_id)
    (hhwpolicer : ∀ t, db.policers.hw_policer port_id t = db.policers.policerId port_id t)
    (hhwpolicer' : ∀ t, db'.policers.hw_policer port_id t = db'.policers.policerId port_id t) :
    portConfigs port_id db' = portConfigs port_id db := by
  have hmap : db'.maps.hw_map port_id = db.maps.hw_map port_id := by
    funext t
    rw [hhwmap' t, hhwmap t, hmaps]
  have hpolicer : db'.policers.hw_policer port_id = db.policers.hw_policer port_id := by
    funext t
    rw [hhwpolicer' t, hhwpolicer t, hpolicers]
  simp only [portConfigs, hbuffer, hprofile, hmaps, hmap, hpolicers, hpolicer]

theorem PortBare.congr {db db'}
    (hsame : portConfigs port_id db' = portConfigs port_id db) (h : PortBare port_id db') :
    PortBare port_id db where
  buffer := (congrArg PortConfigs.buffer_profile_id hsame).symm.trans h.buffer
  maps t := (congrFun (congrArg PortConfigs.maps_id hsame) t).symm.trans (h.maps t)
  policers t := (congrFun (congrArg PortConfigs.policer_id hsame) t).symm.trans (h.policers t)
  hw_maps t := (congrFun (congrArg PortConfigs.hw_map hsame) t).symm.trans (h.hw_maps t)
  hw_policers t := (congrFun (congrArg PortConfigs.hw_policer hsame) t).symm.trans (h.hw_policers t)

section Holds

variable {env : PortEnv} {db : PortDb}

def bufferBack (env : QosEnv) (port_id profile_id : Oid) (db : SchedDb) : SchedDb :=
  if (profile_id != .null) = true then (onQos (objUpdateBufferProfile env port_id profile_id) db).2
  else db

theorem portTakeBuffer_back (hfit : PortConfigsFit port_id db) (hback : BackSucceeds env port_id db) :
    let taken := portTakeBuffer env.sched.qos port_id db.sched
    let given := bufferBack env.back_qos port_id (bufferProfileId db.sched.qos port_id) taken.2
    (taken.1 ≠ .success → bufferProfileId taken.2.qos port_id = bufferProfileId db.sched.qos port_id ∧
      taken.2.qos.hw_profile = db.sched.qos.hw_profile) ∧
    (taken.1 = .success → bufferProfileId taken.2.qos port_id = .null ∧
      bufferProfileId given.qos port_id = bufferProfileId db.sched.qos port_id ∧
      given.qos.hw_profile port_id = db.sched.qos.hw_profile port_id) ∧
    queuesOf taken.2 port_id = queuesOf db.sched port_id ∧
    queuesOf given port_id = queuesOf db.sched port_id := by
  have hbuffer := hback.buffer
  simp only [portTakeBuffer, bufferBack] at hbuffer ⊢
  by_cases hnull : bufferProfileId db.sched.qos port_id = .null
  · simp only [hnull, ne_eq, not_true_eq_false, if_false, bne_self_eq_false, Bool.false_eq_true]
    exact ⟨fun h => h.elim, fun _ => ⟨trivial, trivial, trivial⟩, trivial, trivial⟩
  have hbne : (bufferProfileId db.sched.qos port_id != .null) = true := by simpa using hnull
  simp only [ne_eq, hnull, not_false_eq_true, if_true, hbne] at hbuffer ⊢
  obtain ⟨hfailed, hok⟩ := takeBuffer_back _ hfit.type hfit.profile
    hnull
  refine ⟨hfailed, fun hsuccess => ?_, rfl, rfl⟩
  obtain ⟨hgone, hgiven⟩ := hok hsuccess
  exact ⟨hgone, hgiven (hbuffer trivial hsuccess)⟩

theorem mapsFit_of (hfit : PortConfigsFit port_id db) :
    MapsFit port_id (fun o => (db.maps.maps o).isSome) db.maps :=
  ⟨hfit.maps, hfit.hw_map, fun _ => rfl⟩

theorem policersFit_of (hfit : PortConfigsFit port_id db) :
    StormPolicersFit port_id (fun o => (db.policers.policers o).isSome) db.policers :=
  ⟨hfit.policers, hfit.hw_policer, fun _ => rfl⟩

theorem MapLost.failed {env} {db} (h : MapLost env port_id db) :
    (portRemoveMaps env port_id db).rc ≠ .success := h.rc

theorem nonDefaultConfigsRemove_eq (env) (hfit : PortConfigsFit port_id db) :
    nonDefaultConfigsRemove env port_id db =
      if (portRemoveConfigs env port_id db).1 ≠ .success then portRemoveConfigs env port_id db
      else onSched (childConfigsRemove env.sched port_id) (portRemoveConfigs env port_id db).2 := by
  simp only [nonDefaultConfigsRemove, hfit.port, Bool.true_eq_false, if_false]

/-- A failure of a part of the port itself is reported, and the port is to be as it was. -/
theorem removes_iff_restored (hfit : PortConfigsFit port_id db)
    (hfail : (portRemoveConfigs env port_id db).1 ≠ .success) :
    RemovesOrRestores env port_id db ↔
      portConfigs port_id (portRemoveConfigs env port_id db).2 = portConfigs port_id db := by
  have hall : nonDefaultConfigsRemove env port_id db = portRemoveConfigs env port_id db := by
    rw [nonDefaultConfigsRemove_eq env hfit, if_pos hfail]
  constructor
  · intro h
    have hrestored := h.restored
    rw [hall] at hrestored
    exact hrestored hfail
  · intro hsame
    refine ⟨fun _ => ?_, fun _ => ?_, fun hok => ?_⟩
    · rw [hall]
      exact hfail
    · rw [hall]
      exact hsame
    · rw [hall] at hok
      exact absurd hok hfail

theorem holds_iff_notLost (hfail : (portTakeConfigs env port_id db).rc ≠ .success)
    (hpolicer : (portTakeConfigs env port_id db).policer_removed ≠ true) :
    RemovalHolds env port_id db ↔ ((portTakeBuffer env.sched.qos port_id db.sched).1 = .success →
      ¬ MapLost env.maps port_id db.maps) :=
  ⟨RemovalHolds.maps, fun h => ⟨h, fun _ hyes => absurd hyes hpolicer, fun hok => absurd hok hfail⟩⟩

theorem removes_bufferFails (hfit : PortConfigsFit port_id db) (hback : BackSucceeds env port_id db)
    (hfail : (portTakeBuffer env.sched.qos port_id db.sched).1 ≠ .success) :
    RemovesOrRestores env port_id db ∧ RemovalHolds env port_id db := by
  obtain ⟨hfailed, -⟩ := portTakeBuffer_back hfit hback
  have htake : portTakeConfigs env port_id db = ⟨(portTakeBuffer env.sched.qos port_id db.sched).1,
      false, false, [], false, [],
      { db with sched := (portTakeBuffer env.sched.qos port_id db.sched).2 }⟩ := by
    simp only [portTakeConfigs, if_pos hfail]
  have hremove : portRemoveConfigs env port_id db =
      ((portTakeBuffer env.sched.qos port_id db.sched).1,
        { db with sched := (portTakeBuffer env.sched.qos port_id db.sched).2 }) := by
    simp only [portRemoveConfigs, htake, if_pos hfail, portRevertConfigs, Bool.false_eq_true, if_false]
  obtain ⟨hid, hhw⟩ := hfailed hfail
  refine ⟨(removes_iff_restored hfit (by rw [hremove]; exact hfail)).mpr ?_,
    (holds_iff_notLost (by rw [htake]; exact hfail) (by simp [htake])).mpr fun hok => absurd hok hfail⟩
  rw [hremove]
  exact portConfigs_eq hid (congrFun hhw port_id) rfl hfit.hw_map hfit.hw_map rfl hfit.hw_policer
    hfit.hw_policer

theorem removes_mapFails (hfit : PortConfigsFit port_id db) (hback : BackSucceeds env port_id db)
    (hbuffer : (portTakeBuffer env.sched.qos port_id db.sched).1 = .success)
    (hfail : (portRemoveMaps env.maps port_id db.maps).rc ≠ .success) :
    RemovesOrRestores env port_id db ↔ RemovalHolds env port_id db := by
  obtain ⟨-, htaken, -⟩ := portTakeBuffer_back hfit hback
  obtain ⟨-, hid, hhw⟩ := htaken hbuffer
  obtain ⟨-, -, hmapsfit, hiff⟩ := portRemoveMaps_back env.maps (mapsFit_of hfit) hback.maps
  have htake : portTakeConfigs env port_id db = ⟨(portRemoveMaps env.maps port_id db.maps).rc,
      bufferProfileId db.sched.qos port_id != .null, (portRemoveMaps env.maps port_id db.maps).taken,
      (portRemoveMaps env.maps port_id db.maps).walked, false, [],
      { db with
        sched := (portTakeBuffer env.sched.qos port_id db.sched).2
        maps := (portRemoveMaps env.maps port_id db.maps).state }⟩ := by
    simp only [portTakeConfigs, if_ok hbuffer, if_pos hfail]
  have hremove : portRemoveConfigs env port_id db = ((portRemoveMaps env.maps port_id db.maps).rc,
      { db with
        sched := bufferBack env.back_qos port_id (bufferProfileId db.sched.qos port_id)
          (portTakeBuffer env.sched.qos port_id db.sched).2
        maps := mapsBack env.back_maps port_id (db.maps.mapsId port_id)
          (portRemoveMaps env.maps port_id db.maps) }) := by
    simp only [portRemoveConfigs, htake, if_pos hfail, portRevertConfigs, Bool.false_eq_true, if_false,
      bufferBack, mapsBack]
  rw [removes_iff_restored hfit (by rw [hremove]; exact hfail),
    holds_iff_notLost (by rw [htake]; exact hfail) (by simp [htake]), forall_prop_of_true hbuffer, ← hiff,
    hremove]
  constructor
  · exact fun hsame => congrArg PortConfigs.maps_id hsame
  · exact fun hsame => portConfigs_eq hid hhw hsame hfit.hw_map hmapsfit.agree rfl hfit.hw_policer
      hfit.hw_policer

theorem portConfigs_onSched {db'}
    (hqueues : queuesOf db'.sched port_id = queuesOf db.sched port_id)
    (hfit : PortConfigsFit port_id db) :
    portConfigs port_id (onSched (childConfigsRemove env.sched port_id) db').2 =
      portConfigs port_id db' := by
  have hne : ∀ queue_id ∈ queuesOf db'.sched port_id, queue_id ≠ port_id :=
    fun queue_id hmem => hfit.queues queue_id (hqueues ▸ hmem)
  obtain ⟨hports, hhw⟩ := ProfileKept.childConfigsRemove env.sched hne
  simp only [portConfigs, onSched, bufferProfileId, hports, hhw]

/-- A policer stays: the port is restored, and what is reported is what the queues and groups say when a
policer before it went on again. -/
theorem removes_policerFails (hfit : PortConfigsFit port_id db) (hback : BackSucceeds env port_id db)
    (hbuffer : (portTakeBuffer env.sched.qos port_id db.sched).1 = .success)
    (hmaps : (portRemoveMaps env.maps port_id db.maps).rc = .success)
    (hfail : (portRemovePolicers env.policers port_id db.policers).rc ≠ .success) :
    RemovesOrRestores env port_id db ↔ RemovalHolds env port_id db := by
  obtain ⟨-, htaken, -, hqueues⟩ := portTakeBuffer_back hfit hback
  obtain ⟨-, hid, hhw⟩ := htaken hbuffer
  obtain ⟨-, -, hmapsfit, hiff⟩ := portRemoveMaps_back _ (mapsFit_of hfit) hback.maps
  obtain ⟨-, -, hrc, hpolicersfit, hpolicers⟩ := portRemovePolicers_back env.policers
    (policersFit_of hfit) hback.policers hback.storm
  have hlost : ¬ MapLost env.maps port_id db.maps := fun hlost => hlost.failed hmaps
  have htake : portTakeConfigs env port_id db =
      ⟨(portRemovePolicers env.policers port_id db.policers).rc,
      bufferProfileId db.sched.qos port_id != .null, (portRemoveMaps env.maps port_id db.maps).taken,
      (portRemoveMaps env.maps port_id db.maps).walked,
      (portRemovePolicers env.policers port_id db.policers).taken,
      (portRemovePolicers env.policers port_id db.policers).walked,
      { db with
        sched := (portTakeBuffer env.sched.qos port_id db.sched).2
        maps := (portRemoveMaps env.maps port_id db.maps).state
        policers := (portRemovePolicers env.policers port_id db.policers).state }⟩ := by
    simp only [portTakeConfigs, if_ok hbuffer, if_ok hmaps]
  have hremove : portRemoveConfigs env port_id db =
      ((policersBack env.back_policers port_id (db.policers.policerId port_id)
          (portRemovePolicers env.policers port_id db.policers)).1,
      { db with
        sched := bufferBack env.back_qos port_id (bufferProfileId db.sched.qos port_id)
          (portTakeBuffer env.sched.qos port_id db.sched).2
        maps := mapsBack env.back_maps port_id (db.maps.mapsId port_id)
          (portRemoveMaps env.maps port_id db.maps)
        policers := (policersBack env.back_policers port_id (db.policers.policerId port_id)
          (portRemovePolicers env.policers port_id db.policers)).2 }) := by
    simp only [portRemoveConfigs, htake, if_pos hfail, portRevertConfigs, bufferBack, mapsBack,
      policersBack]
  have hrestored : portConfigs port_id (portRemoveConfigs env port_id db).2 =
      portConfigs port_id db := by
    rw [hremove]
    exact portConfigs_eq hid hhw (hiff.mpr hlost) hfit.hw_map hmapsfit.agree hpolicers hfit.hw_policer
      hpolicersfit.agree
  have hkept : portConfigs port_id (onSched (childConfigsRemove env.sched port_id)
      (portRemoveConfigs env port_id db).2).2 = portConfigs port_id db := by
    refine (portConfigs_onSched ?_ hfit).trans hrestored
    rw [hremove]
    exact hqueues
  have hstep : SomeStepFails env port_id db := .inl (by rw [htake]; exact hfail)
  by_cases htaken : (portRemovePolicers env.policers port_id db.policers).taken = true
  · -- The policers before it went on again, and the failure is forgotten.
    rw [if_pos htaken] at hrc
    have hok : (portRemoveConfigs env port_id db).1 = .success := by rw [hremove]; exact hrc
    have hall := nonDefaultConfigsRemove_eq env hfit
    rw [if_ok hok] at hall
    constructor
    · intro h
      refine ⟨fun _ => hlost, fun _ _ => ?_, fun hok => ?_⟩
      · have hreported := h.reported hstep
        rw [hall] at hreported
        exact hreported
      · rw [htake] at hok
        exact absurd hok hfail
    · intro h
      have hchild := h.policers (by rw [htake]; exact hfail) (by rw [htake]; exact htaken)
      refine ⟨fun _ => ?_, fun _ => ?_, fun hok => ?_⟩
      · rw [hall]
        exact hchild
      · rw [hall]
        exact hkept
      · rw [hall] at hok
        exact absurd hok hchild
  · -- It is the first one, and its failure is reported.
    rw [if_neg htaken] at hrc
    have hrc' : (portRemoveConfigs env port_id db).1 ≠ .success := by
      rw [hremove]
      show (policersBack _ _ _ _).1 ≠ _
      rw [hrc]
      exact hfail
    exact iff_of_true ((removes_iff_restored hfit hrc').mpr hrestored)
      ((holds_iff_notLost (by rw [htake]; exact hfail) (by rw [htake]; exact htaken)).mpr fun _ => hlost)

/-- All that the port has itself is taken off: what is reported is what the last of the queues and groups
says, and nothing is put back. -/
theorem removes_taken (hfit : PortConfigsFit port_id db) (hback : BackSucceeds env port_id db)
    (hbuffer : (portTakeBuffer env.sched.qos port_id db.sched).1 = .success)
    (hmaps : (portRemoveMaps env.maps port_id db.maps).rc = .success)
    (hpolicers : (portRemovePolicers env.policers port_id db.policers).rc = .success) :
    RemovesOrRestores env port_id db ↔ RemovalHolds env port_id db := by
  obtain ⟨-, htaken, hqueues, -⟩ := portTakeBuffer_back hfit hback
  obtain ⟨hnobuffer, -⟩ := htaken hbuffer
  obtain ⟨hmapsfit, hnomaps, -⟩ := portRemoveMaps_back _ (mapsFit_of hfit) hback.maps
  obtain ⟨hpolicersfit, hnopolicers, -⟩ := portRemovePolicers_back env.policers
    (policersFit_of hfit) hback.policers hback.storm
  generalize hdb' : ({ db with
      sched := (portTakeBuffer env.sched.qos port_id db.sched).2
      maps := (portRemoveMaps env.maps port_id db.maps).state
      policers := (portRemovePolicers env.policers port_id db.policers).state } : PortDb) = db'
  have htake : portTakeConfigs env port_id db =
      ⟨(portRemovePolicers env.policers port_id db.policers).rc,
      bufferProfileId db.sched.qos port_id != .null, (portRemoveMaps env.maps port_id db.maps).taken,
      (portRemoveMaps env.maps port_id db.maps).walked,
      (portRemovePolicers env.policers port_id db.policers).taken,
      (portRemovePolicers env.policers port_id db.policers).walked, db'⟩ := by
    simp only [portTakeConfigs, if_ok hbuffer, if_ok hmaps, ← hdb']
  have hrc : (portTakeConfigs env port_id db).rc = .success := by rw [htake]; exact hpolicers
  have hat : (portTakeConfigs env port_id db).db = db' := by rw [htake]
  have hremove : portRemoveConfigs env port_id db = (.success, db') := by
    simp only [portRemoveConfigs, if_ok hrc, hat]
  have hall : nonDefaultConfigsRemove env port_id db =
      onSched (childConfigsRemove env.sched port_id) db' := by
    rw [nonDefaultConfigsRemove_eq env hfit, hremove, if_neg (by simp)]
  have hsched : db'.sched = (portTakeBuffer env.sched.qos port_id db.sched).2 := by rw [← hdb']
  have hbare : PortBare port_id db' := by
    rw [← hdb']
    exact ⟨hnobuffer, hnomaps hmaps, hnopolicers hpolicers,
      fun t => (hmapsfit.agree t).trans (hnomaps hmaps t),
      fun t => (hpolicersfit.agree t).trans (hnopolicers hpolicers t)⟩
  have hafter : portConfigs port_id (onSched (childConfigsRemove env.sched port_id) db').2 =
      portConfigs port_id db' := portConfigs_onSched (by rw [hsched]; exact hqueues) hfit
  have hfails : SomeStepFails env port_id db ↔
      ∃ rc ∈ childConfigsSteps env.sched port_id db'.sched, rc ≠ .success := by
    simp only [SomeStepFails, hrc, ne_eq, not_true_eq_false, false_or, hat]
  constructor
  · intro h
    refine ⟨fun _ hlost => hlost.failed hmaps, fun hfail => absurd hrc hfail, fun _ => ?_⟩
    rw [hat]
    by_cases hsteps : ∀ rc ∈ childConfigsSteps env.sched port_id db'.sched, rc = .success
    · exact .inl hsteps
    have hsome : ∃ rc ∈ childConfigsSteps env.sched port_id db'.sched, rc ≠ .success := by
      simpa using hsteps
    have hreported := h.reported (hfails.mpr hsome)
    have hrestored := h.restored hreported
    rw [hall] at hreported hrestored
    exact .inr ⟨hbare.congr (hafter.symm.trans hrestored), hreported⟩
  · intro h
    have hchildren := h.children hrc
    rw [hat] at hchildren
    refine ⟨fun hfail => ?_, fun hfail => ?_, fun _ => ?_⟩
    · rw [hall]
      rcases hchildren with hsteps | ⟨-, hchild⟩
      · obtain ⟨rc, hmem, hne⟩ := hfails.mp hfail
        exact absurd (hsteps rc hmem) hne
      · exact hchild
    · rw [hall] at hfail ⊢
      rcases hchildren with hsteps | ⟨hnone, -⟩
      · exact absurd (childConfigsRemove_ok hsteps) hfail
      -- There was nothing to take: the port is as it was.
      refine hafter.trans (congrArg (portConfigs port_id) ?_)
      rw [← hdb']
      have hbuffer' : (portTakeBuffer env.sched.qos port_id db.sched).2 = db.sched := by
        simp only [portTakeBuffer, hnone.buffer, ne_eq, not_true_eq_false, if_false]
      have hmaps' : (portRemoveMaps env.maps port_id db.maps).state = db.maps :=
        takeEach_of_empty fun t _ => hnone.maps t
      have hpolicers' : (portRemovePolicers env.policers port_id db.policers).state = db.policers :=
        takeEach_of_empty fun t _ => hnone.policers t
      rw [hbuffer', hmaps', hpolicers']
    · rw [hall]
      exact hbare.congr hafter.symm

end Holds

/-- **The removal of the configuration of a port** restores it and reports the failure exactly when it
fails in the right places. -/
theorem removesOrRestores_iff (env : PortEnv) (port_id : Oid) (db : PortDb)
    (hfit : PortConfigsFit port_id db) (hback : BackSucceeds env port_id db) :
    RemovesOrRestores env port_id db ↔ RemovalHolds env port_id db := by
  by_cases hbuffer : (portTakeBuffer env.sched.qos port_id db.sched).1 = .success
  · by_cases hmaps : (portRemoveMaps env.maps port_id db.maps).rc = .success
    · by_cases hpolicers : (portRemovePolicers env.policers port_id db.policers).rc = .success
      · exact removes_taken hfit hback hbuffer hmaps hpolicers
      · exact removes_policerFails hfit hback hbuffer hmaps hpolicers
    · exact removes_mapFails hfit hback hbuffer hmaps
  · obtain ⟨hremoves, hholds⟩ := removes_bufferFails hfit hback hbuffer
    exact iff_of_true hremoves hholds

/-! ## A port with two policers -/

def twoPolicers : PolicerType → Oid
  | .stormFlood => ⟨.policer, 1⟩
  | .stormBcast => ⟨.policer, 2⟩
  | .stormMcast => .null

def stormPortDb : PortDb where
  sched :=
    { SchedDb.initial .null with
      qos_ports := fun o => if o = ⟨.port, 1⟩ then some ⟨.null, false, [], fun _ => [], []⟩ else none }
  maps :=
    { MapDb.initial with
      maps := fun o =>
        if o = ⟨.qosMap, 1⟩ then some ⟨.dot1pToTc, none, [(⟨.port, 1⟩, .dot1pToTc)]⟩ else none
      ports := fun o =>
        if o = ⟨.port, 1⟩ then some fun t => if t = .dot1pToTc then ⟨.qosMap, 1⟩ else .null else none
      hw_map := fun o t => if o = ⟨.port, 1⟩ ∧ t = .dot1pToTc then ⟨.qosMap, 1⟩ else .null }
  policers :=
    { PolicerDb.initial with
      policers := fun o =>
        if o = ⟨.policer, 1⟩ then some ⟨fun t => if t = .stormFlood then [⟨.port, 1⟩] else []⟩
        else if o = ⟨.policer, 2⟩ then some ⟨fun t => if t = .stormBcast then [⟨.port, 1⟩] else []⟩
        else none
      ports := fun o => if o = ⟨.port, 1⟩ then some twoPolicers else none
      hw_policer := fun o t => if o = ⟨.port, 1⟩ then twoPolicers t else .null }
  port_pools := fun _ => []

theorem stormPortDb_fit : PortConfigsFit ⟨.port, 1⟩ stormPortDb := by
  refine ⟨rfl, rfl, fun queue_id hmem => absurd hmem List.not_mem_nil, fun values hvalues => ?_, rfl,
    fun t => ?_, rfl, fun t => ?_⟩
  · cases hvalues
  · cases t <;> rfl
  · cases t <;> rfl

theorem stormPortDb_storm {t}
    (h : stormPortDb.policers.policerId ⟨.port, 1⟩ t ≠ .null) :
    (stormPortDb.policers.policerId ⟨.port, 1⟩ t).type = .policer := by
  cases t with
  | stormFlood | stormBcast => rfl
  | stormMcast => exact absurd rfl h

theorem removesOrRestores_storm :
    RemovesOrRestores .good ⟨.port, 1⟩ stormPortDb ↔ RemovalHolds .good ⟨.port, 1⟩ stormPortDb :=
  removesOrRestores_iff _ _ _ stormPortDb_fit
    ⟨fun h _ => absurd rfl h, fun _ _ => rfl, fun _ _ => rfl, fun t h => ⟨stormPortDb_storm h, rfl⟩⟩

def bcastStays : PortEnv :=
  { PortEnv.good with
    policers := .answers fun _ c =>
      if c = .policerPortSet ⟨.port, 1⟩ ⟨.policer, 2⟩ .stormBcast false then .failure else .success }

/-- **A failure that is reported as a success.** The second of two policers stays, the first one goes on
again, and nothing is taken off. -/
theorem not_removesOrRestores :
    PortConfigsFit ⟨.port, 1⟩ stormPortDb ∧ BackSucceeds bcastStays ⟨.port, 1⟩ stormPortDb ∧
    (nonDefaultConfigsRemove bcastStays ⟨.port, 1⟩ stormPortDb).1 = .success ∧
    ¬ RemovesOrRestores bcastStays ⟨.port, 1⟩ stormPortDb := by
  have hok : (nonDefaultConfigsRemove bcastStays ⟨.port, 1⟩ stormPortDb).1 = .success := by decide
  have hfails : SomeStepFails bcastStays ⟨.port, 1⟩ stormPortDb := .inl (by decide)
  exact ⟨stormPortDb_fit, ⟨fun h _ => absurd rfl h, fun _ _ => rfl, fun _ _ => rfl,
    fun t h => ⟨stormPortDb_storm h, rfl⟩⟩, hok, fun h => h.reported hfails hok⟩

end OpxSai
