import OpxSai.Lib.Slots
import OpxSai.Qos.MapPorts
import OpxSai.Qos.Policer
import OpxSai.Qos.SchedGroup

/-!
# The configuration of a port

A port has a buffer profile, a map for each type of map, and a policer for each type of storm. They are
taken off one after the other, and where one stays, what was taken off before goes on again. Its queues and
groups lose their configuration after that.

* `PortDb`, `PortEnv` — the state with all that a port has, and what is outside.
-/

namespace OpxSai

open SchedDb MapDb PolicerDb

/-! ## State -/

/-- All that a port has: a port is in the state of the schedulers, and in those of the buffers, of the
maps and of the policers with it. -/
structure PortDb where
  sched : SchedDb
  maps : MapDb
  policers : PolicerDb
  /-- The port pools of a port. -/
  port_pools : Oid → List Oid

/-- How the outside answers during one call of the module, and while a configuration is put back. -/
structure PortEnv where
  sched : SchedEnv
  maps : MapEnv
  policers : PolicerEnv
  back_qos : QosEnv
  back_maps : MapEnv
  back_policers : PolicerEnv

def PortEnv.good : PortEnv where
  sched := .good
  maps := .good 0
  policers := .good
  back_qos := .good 0
  back_maps := .good 0
  back_policers := .good

namespace PortDb

/-- `buffer_profile_id` of a port. -/
def bufferProfileId (db : QosDb) (port_id : Oid) : Oid :=
  (db.ports port_id).elim .null BufferUser.buffer_profile_id

def onSched (f : SchedDb → Status × SchedDb) (db : PortDb) : Status × PortDb :=
  ((f db.sched).1, { db with sched := (f db.sched).2 })

end PortDb

open PortDb

/-! ## The loops -/

def portTakeMap (env : MapEnv) (port_id : Oid) (map_type : QosMapType) (db : MapDb) : Status × MapDb :=
  mapOnPortSetInternal env port_id .null (some map_type) db

/-- The loop over the maps. The id of the port is null once the set succeeded. -/
def portRemoveMaps (env : MapEnv) (port_id : Oid) (db : MapDb) : Taken Status QosMapType MapDb :=
  takeEach .success .null (fun db => mapsId db port_id) (portTakeMap env port_id) QosMapType.all db

def portTakePolicer (env : PolicerEnv) (port_id : Oid) (policer_type : PolicerType) (db : PolicerDb) :
    Status × PolicerDb :=
  let attr := portAttrFromStormControlType policer_type
  if attr.1 ≠ .success then (attr.1, db) else stormControlPolicerSet env port_id attr.2 .null db

def portRemovePolicers (env : PolicerEnv) (port_id : Oid) (db : PolicerDb) :
    Taken Status PolicerType PolicerDb :=
  takeEach .success .null (fun db => db.policerId port_id) (portTakePolicer env port_id) PolicerType.all
    db

/-- The maps that the port had go on again; what the sets answer is dropped. -/
def portRevertMaps (env : MapEnv) (port_id : Oid) (maps_id : QosMapType → Oid)
    (map_types : List QosMapType) (db : MapDb) : MapDb :=
  giveEach .null maps_id
    (fun map_type db => (mapOnPortSetInternal env port_id (maps_id map_type) (some map_type) db).2)
    map_types db

/-- The policers that the port had go on again. The status of the removal is that of the last look-up of
an attribute now. -/
def portRevertPolicers (env : PolicerEnv) (port_id : Oid) (policer_id : PolicerType → Oid) :
    List PolicerType → Status → PolicerDb → Status × PolicerDb
  | [], rc, db => (rc, db)
  | policer_type :: types, rc, db =>
    if policer_id policer_type = .null then portRevertPolicers env port_id policer_id types rc db
    else
      let attr := portAttrFromStormControlType policer_type
      if attr.1 ≠ .success then (attr.1, db)
      else
        portRevertPolicers env port_id policer_id types attr.1
          (stormControlPolicerSet env port_id attr.2 (policer_id policer_type) db).2

/-! ## The configuration of a port -/

structure PortRemoval where
  rc : Status
  buffer_profile_removed : Bool
  maps_removed : Bool
  map_types : List QosMapType
  policer_removed : Bool
  policer_types : List PolicerType
  db : PortDb

def portTakeBuffer (env : QosEnv) (port_id : Oid) (db : SchedDb) : Status × SchedDb :=
  if bufferProfileId db.qos port_id ≠ .null then onQos (objUpdateBufferProfile env port_id .null) db
  else (.success, db)

/-- The first part of `sai_qos_port_remove_configs`. -/
def portTakeConfigs (env : PortEnv) (port_id : Oid) (db : PortDb) : PortRemoval :=
  let buffer := portTakeBuffer env.sched.qos port_id db.sched
  if buffer.1 ≠ .success then
    ⟨buffer.1, false, false, [], false, [], { db with sched := buffer.2 }⟩
  else
    let buffer_profile_removed := bufferProfileId db.sched.qos port_id != .null
    let maps := portRemoveMaps env.maps port_id db.maps
    if maps.rc ≠ .success then
      ⟨maps.rc, buffer_profile_removed, maps.taken, maps.walked, false, [],
        { db with sched := buffer.2, maps := maps.state }⟩
    else
      let policers := portRemovePolicers env.policers port_id db.policers
      ⟨policers.rc, buffer_profile_removed, maps.taken, maps.walked, policers.taken, policers.walked,
        { db with sched := buffer.2, maps := maps.state, policers := policers.state }⟩

def portRevertConfigs (env : PortEnv) (port_id buffer_profile_id : Oid) (maps_id : QosMapType → Oid)
    (policer_id : PolicerType → Oid) (at_ : PortRemoval) : Status × PortDb :=
  let sched :=
    if at_.buffer_profile_removed = true then
      (onQos (objUpdateBufferProfile env.back_qos port_id buffer_profile_id) at_.db.sched).2
    else at_.db.sched
  let maps :=
    if at_.maps_removed = true then
      portRevertMaps env.back_maps port_id maps_id at_.map_types at_.db.maps
    else at_.db.maps
  let policers :=
    if at_.policer_removed = true then
      portRevertPolicers env.back_policers port_id policer_id at_.policer_types at_.rc at_.db.policers
    else (at_.rc, at_.db.policers)
  (policers.1, { at_.db with sched := sched, maps := maps, policers := policers.2 })

/-- `sai_qos_port_remove_configs` -/
def portRemoveConfigs (env : PortEnv) (port_id : Oid) (db : PortDb) : Status × PortDb :=
  let at_ := portTakeConfigs env port_id db
  if at_.rc ≠ .success then
    portRevertConfigs env port_id (bufferProfileId db.sched.qos port_id) (mapsId db.maps port_id)
      (db.policers.policerId port_id) at_
  else (.success, at_.db)

/-! ## Queues and groups -/

/-- A loop that goes on after a failure: the status is that of the last object. -/
def configsEach (remove : Oid → SchedDb → Status × SchedDb) :
    List Oid → Status → SchedDb → Status × SchedDb
  | [], rc, db => (rc, db)
  | o :: os, _, db => configsEach remove os (remove o db).1 (remove o db).2

def queueConfigsRemove (env : SchedEnv) (queue_id : Oid) (db : SchedDb) : Status × SchedDb :=
  match db.qos.queues queue_id with
  | none => (.success, db)
  | some node => queueRemoveConfigs env queue_id node true db

def schedGroupConfigsRemove (env : SchedEnv) (sg_id : Oid) (db : SchedDb) : Status × SchedDb :=
  match db.sched_groups sg_id with
  | none => (.success, db)
  | some node => schedGroupRemoveConfigs env sg_id node db

def schedGroupLevelsConfigs (env : SchedEnv) (port_id : Oid) : Nat → Status → SchedDb → Status × SchedDb
  | 0, rc, db => (rc, db)
  | level + 1, rc, db =>
    let removed :=
      configsEach (schedGroupConfigsRemove env) (schedGroupsOf db port_id (level + 1)) rc db
    schedGroupLevelsConfigs env port_id level removed.1 removed.2

/-- The queues and groups of `sai_qos_non_default_configs_remove`. -/
def childConfigsRemove (env : SchedEnv) (port_id : Oid) (db : SchedDb) : Status × SchedDb :=
  let queues := configsEach (queueConfigsRemove env) (queuesOf db port_id) .success db
  if env.is_hierarchy_qos_supported = true then
    schedGroupLevelsConfigs env port_id env.leaf_hierarchy_level queues.1 queues.2
  else queues

/-- `sai_qos_non_default_configs_remove` -/
def nonDefaultConfigsRemove (env : PortEnv) (port_id : Oid) (db : PortDb) : Status × PortDb :=
  if (db.sched.qos_ports port_id).isSome = false then (.invalidObjectId, db)
  else
    let configs := portRemoveConfigs env port_id db
    if configs.1 ≠ .success then configs
    else onSched (childConfigsRemove env.sched port_id) configs.2

end OpxSai
