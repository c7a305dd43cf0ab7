import OpxSai.Common.Outside

/-!
# Storm control policers

A storm control policer is on ports, for each type of storm that a port can have one for. The port names
the policer, and the policer has a list of its ports for each type.
-/

namespace OpxSai

/-! ## Nodes -/

/-- `dn_sai_qos_policer_type_t` -/
inductive PolicerType where
  | stormFlood | stormBcast | stormMcast
deriving DecidableEq

def PolicerType.all : List PolicerType := [.stormFlood, .stormBcast, .stormMcast]

inductive PortPolicerAttr where
  | floodStormControlPolicerId | broadcastStormControlPolicerId | multicastStormControlPolicerId
  | policerId
  | other (id : Nat)
deriving DecidableEq

/-- `dn_sai_qos_policer_t`, of which the lists of ports are used here. -/
structure Policer where
  ports : PolicerType → List Oid

/-! ## State -/

inductive PolicerCall where
  | policerPortSet (port_id policer_id : Oid) (type : PolicerType) (is_add : Bool)
deriving DecidableEq

structure PolicerEnv where
  outside : Outside PolicerCall
  port_policer_supported : Bool
  /-- `sai_get_type_from_npu_object` gives `SAI_POLICER_MODE_STORM_CONTROL`. -/
  is_storm_control : Oid → Bool

def PolicerEnv.good : PolicerEnv where
  outside := fun _ _ => .success
  port_policer_supported := false
  is_storm_control := fun _ => true

def PolicerEnv.answers (outside : Outside PolicerCall) : PolicerEnv :=
  { PolicerEnv.good with outside := outside }

/-- The tree of policers, `policer_id` of the ports, the policer that the NPU has on a port for a type,
and the calls that left the module. -/
structure PolicerDb where
  policers : Oid → Option Policer
  ports : Oid → Option (PolicerType → Oid)
  hw_policer : Oid → PolicerType → Oid
  outside_log : CallLog PolicerCall

namespace PolicerDb

def initial : PolicerDb where
  policers := fun _ => none
  ports := fun _ => none
  hw_policer := fun _ _ => .null
  outside_log := []

def done (db : PolicerDb) : PolicerCall → PolicerDb
  | .policerPortSet port_id policer_id type is_add =>
    { db with hw_policer := fun p t =>
        if p = port_id ∧ t = type then (if is_add = true then policer_id else .null)
        else db.hw_policer p t }

def call (db : PolicerDb) (env : PolicerEnv) (c : PolicerCall) : Status × PolicerDb :=
  let answer := env.outside db.outside_log c
  let logged : PolicerDb := { db with outside_log := env.outside.log c db.outside_log }
  (answer, if answer = .success then logged.done c else logged)

/-- `policer_id` of a port. -/
def policerId (db : PolicerDb) (port_id : Oid) (type : PolicerType) : Oid :=
  (db.ports port_id).elim .null fun policer_id => policer_id type

/-- `policer_id` of a port for one type is written. -/
def setPolicerId (db : PolicerDb) (port_id : Oid) (type : PolicerType) (oid : Oid) : PolicerDb :=
  { db with ports := fun p =>
      if p = port_id then (db.ports p).map fun policer_id t => if t = type then oid else policer_id t
      else db.ports p }

def setPorts (db : PolicerDb) (policer_id : Oid) (type : PolicerType) (f : List Oid → List Oid) :
    PolicerDb :=
  { db with policers := fun o =>
      if o = policer_id then
        (db.policers o).map fun node =>
          { node with ports := fun t => if t = type then f (node.ports t) else node.ports t }
      else db.policers o }

end PolicerDb

open PolicerDb

/-! ## Types and attributes -/

/-- `sai_get_storm_control_type_from_port_attr`; `SAI_QOS_POLICER_TYPE_INVALID` is `none`. -/
def stormControlTypeFromPortAttr : PortPolicerAttr → Option PolicerType
  | .floodStormControlPolicerId => some .stormFlood
  | .broadcastStormControlPolicerId => some .stormBcast
  | .multicastStormControlPolicerId => some .stormMcast
  | _ => none

/-- `sai_get_port_attr_from_storm_control_type`, which has an attribute for each type. -/
def portAttrFromStormControlType : PolicerType → Status × PortPolicerAttr
  | .stormFlood => (.success, .floodStormControlPolicerId)
  | .stormBcast => (.success, .broadcastStormControlPolicerId)
  | .stormMcast => (.success, .multicastStormControlPolicerId)

theorem stormControlType_of_portAttr {type : PolicerType} :
    (portAttrFromStormControlType type).1 = .success ∧
    stormControlTypeFromPortAttr (portAttrFromStormControlType type).2 = some type := by
  cases type <;> exact ⟨rfl, rfl⟩

/-! ## The set -/

/-- `sai_policer_port_storm_control_node_update` -/
def stormControlNodeUpdate (port_id policer_id : Oid) (type : PolicerType) (is_add : Bool)
    (db : PolicerDb) : PolicerDb :=
  if is_add = true then
    let left :=
      if db.policerId port_id type ≠ .null then
        db.setPorts (db.policerId port_id type) type fun ports => ports.erase port_id
      else db
    (left.setPorts policer_id type fun ports => ports ++ [port_id]).setPolicerId port_id type policer_id
  else
    (db.setPorts policer_id type fun ports => ports.erase port_id).setPolicerId port_id type .null

def stormControlPolicerApply (env : PolicerEnv) (port_id policer_id : Oid) (type : PolicerType)
    (is_add : Bool) (db : PolicerDb) : Status × PolicerDb :=
  match db.policers policer_id with
  | none => (.invalidObjectId, db)
  | some _ =>
    let set := db.call env (.policerPortSet port_id policer_id type is_add)
    if set.1 ≠ .success then set
    else (.success, stormControlNodeUpdate port_id policer_id type is_add set.2)

/-- `sai_port_attr_storm_control_policer_set_internal` -/
def stormControlPolicerSet (env : PolicerEnv) (port_id : Oid) (attr : PortPolicerAttr) (oid : Oid)
    (db : PolicerDb) : Status × PolicerDb :=
  if attr = .policerId ∧ env.port_policer_supported = false then (.notSupported, db)
  else
    match stormControlTypeFromPortAttr attr with
    | none => (.invalidAttribute 0, db)
    | some type =>
      if (db.ports port_id).isSome = false then (.invalidObjectId, db)
      else if oid ≠ .null ∧ oid.type ≠ .policer then (.invalidObjectType, db)
      else if oid ≠ .null then
        if env.is_storm_control oid = false then (.invalidObjectType, db)
        else stormControlPolicerApply env port_id oid type true db
      else stormControlPolicerApply env port_id (db.policerId port_id type) type false db

end OpxSai
