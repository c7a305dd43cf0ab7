import OpxSai.Common.Lock
import OpxSai.Common.Outside
import OpxSai.Routing.Types

/-!
# Mirror sessions

A mirror session is of a span type, and has the parameters that its type needs: a monitor port, a VLAN,
and an ERSPAN header. Ports are sources of a session, each for a direction. The tree of sessions is made by
the initialisation.
-/

namespace OpxSai

/-! ## Attributes and nodes -/

/-- `sai_attribute_t` of a mirror session. -/
inductive MirrorAttr where
  | monitorPort (oid : Oid)
  | type (s32 : Int)
  | tc (u8 : Nat)
  | vlanTpid (u16 : Nat)
  | vlanId (u16 : Nat)
  | vlanPri (u8 : Nat)
  | erspanEncapsulationType (s32 : Int)
  | iphdrVersion (u8 : Nat)
  | tos (u8 : Nat)
  | ttl (u8 : Nat)
  | srcIpAddress (ipaddr : IpAddress)
  | dstIpAddress (ipaddr : IpAddress)
  | srcMacAddress (mac : Mac)
  | dstMacAddress (mac : Mac)
  | greProtocolType (u16 : Nat)
  | unknown (id : Nat)
deriving DecidableEq

/-- The ids of the attributes, as the bits of the bitmap of those that are given. -/
inductive MirrorAttrId where
  | monitorPort | type | tc | vlanTpid | vlanId | vlanPri | erspanEncapsulationType | iphdrVersion
  | tos | ttl | srcIpAddress | dstIpAddress | srcMacAddress | dstMacAddress | greProtocolType
  | unknown (id : Nat)
deriving DecidableEq

def MirrorAttr.id : MirrorAttr → MirrorAttrId
  | monitorPort _ => .monitorPort
  | type _ => .type
  | tc _ => .tc
  | vlanTpid _ => .vlanTpid
  | vlanId _ => .vlanId
  | vlanPri _ => .vlanPri
  | erspanEncapsulationType _ => .erspanEncapsulationType
  | iphdrVersion _ => .iphdrVersion
  | tos _ => .tos
  | ttl _ => .ttl
  | srcIpAddress _ => .srcIpAddress
  | dstIpAddress _ => .dstIpAddress
  | srcMacAddress _ => .srcMacAddress
  | dstMacAddress _ => .dstMacAddress
  | greProtocolType _ => .greProtocolType
  | unknown id => .unknown id

/-- `SAI_MIRROR_SESSION_TYPE_LOCAL` and its siblings. -/
def mirrorTypeLocal : Int := 0
def mirrorTypeRemote : Int := 1
def mirrorTypeEnhancedRemote : Int := 2

/-- `sai_mirror_direction_t` -/
inductive MirrorDirection where
  | ingress | egress
deriving DecidableEq

/-- The `session_params` of a session. -/
structure MirrorParams where
  class_of_service : Nat
  tpid : Nat
  vlan_id : Nat
  vlan_priority : Nat
  encap_type : Int
  ip_hdr_version : Nat
  tos : Nat
  ttl : Nat
  src_ip : IpAddress
  dst_ip : IpAddress
  src_mac : Mac
  dst_mac : Mac
  gre_protocol : Nat
deriving DecidableEq

/-- `sai_mirror_session_info_t`. A source port is a port with a direction; there is no tree of them until
it is made. -/
structure MirrorSession where
  session_id : Oid
  span_type : Int
  monitor_port : Oid
  session_params : MirrorParams
  source_ports_tree : Option (List (Oid × MirrorDirection))
deriving DecidableEq

/-- `sai_mirror_session_node_alloc`: what `calloc` leaves. -/
def MirrorSession.zero : MirrorSession :=
  ⟨.null, 0, .null, ⟨0, 0, 0, 0, 0, 0, 0, 0, .ip4 0, .ip4 0, 0, 0, 0⟩, none⟩

/-! ## The state -/

/-- What leaves the module. The NPU is told a new session with the id that it gives to it. -/
inductive MirrorCall where
  | nodeAlloc
  | attribsValidate (session_id : Oid) (attr : MirrorAttr) (attr_index : Nat)
  | sessionCreate (info : MirrorSession) (session_id : Oid)
  | sessionDestroy (session_id : Oid)
  | sessionInsert (session_id : Oid)
  | sourceTreeCreate (session_id : Oid)
  | sessionSet (session_id : Oid) (span_type : Int) (attr : MirrorAttr)
  | sessionGet (session_id : Oid) (span_type : Int) (attr_list : List MirrorAttrId)
  | sourceAlloc
  | sessionPortAdd (session_id port_id : Oid) (direction : MirrorDirection)
  | sessionPortRemove (session_id port_id : Oid) (direction : MirrorDirection)
  | sourceInsert (session_id port_id : Oid) (direction : MirrorDirection)
deriving DecidableEq

/-- How the outside answers during one call of the module. -/
structure MirrorEnv where
  outside : Outside MirrorCall
  /-- The id that the NPU gives to a new session. -/
  npu_object_id : CallLog MirrorCall → Nat
  /-- `sai_is_valid_vlan_id` -/
  valid_vlan_id : Nat → Bool
  /-- `sai_is_vlan_created` -/
  vlan_created : Nat → Bool
  /-- `sai_is_port_valid` -/
  port_valid : Oid → Bool
  /-- `sai_is_lag_created` -/
  lag_created : Oid → Bool

def MirrorEnv.good : MirrorEnv where
  outside := fun _ _ => .success
  npu_object_id := fun log => log.length
  valid_vlan_id := fun _ => true
  vlan_created := fun _ => true
  port_valid := fun _ => true
  lag_created := fun _ => true

/-- The tree of sessions, the sessions that the NPU has, the lock, and the calls that left the module. -/
structure MirrorDb where
  mirror_sessions_tree : Oid → Option MirrorSession
  npu_sessions : Oid → Bool
  mirror_lock : LockDepth
  outside_log : CallLog MirrorCall

namespace MirrorDb

def initial : MirrorDb := ⟨fun _ => none, fun _ => false, ⟨0, false⟩, []⟩

/-- `sai_mirror_lock` -/
def lock (db : MirrorDb) : MirrorDb := { db with mirror_lock := db.mirror_lock.lock }

/-- `sai_mirror_unlock` -/
def unlock (db : MirrorDb) : MirrorDb := { db with mirror_lock := db.mirror_lock.unlock }

def call (db : MirrorDb) (env : MirrorEnv) (c : MirrorCall) : Status × MirrorDb :=
  let answer := env.outside db.outside_log c
  let db := { db with outside_log := env.outside.log c db.outside_log }
  let npu (session_id : Oid) (there : Bool) : MirrorDb :=
    if answer = .success then
      { db with npu_sessions := fun o => if o = session_id then there else db.npu_sessions o }
    else db
  (answer,
    match c with
    | .sessionCreate _ session_id => npu session_id true
    | .sessionDestroy session_id => npu session_id false
    | _ => db)

def putSession (session_id : Oid) (node : Option MirrorSession) (db : MirrorDb) : MirrorDb :=
  { db with mirror_sessions_tree := fun o =>
      if o = session_id then node else db.mirror_sessions_tree o }

end MirrorDb

open MirrorDb

/-! ## The attributes of a session -/

/-- `sai_mirror_is_span_type_valid` -/
def mirrorIsSpanTypeValid (span_type : Int) : Bool :=
  span_type == mirrorTypeLocal || span_type == mirrorTypeRemote || span_type == mirrorTypeEnhancedRemote

/-- `sai_mirror_span_bitmap` -/
def mirrorSpanBitmap : List MirrorAttrId := [.monitorPort, .type]

/-- `sai_mirror_rspan_bitmap` -/
def mirrorRspanBitmap : List MirrorAttrId := [.monitorPort, .type, .vlanTpid, .vlanId, .vlanPri]

/-- `sai_mirror_erspan_bitmap` -/
def mirrorErspanBitmap : List MirrorAttrId :=
  [.monitorPort, .type, .vlanTpid, .vlanId, .vlanPri, .erspanEncapsulationType, .iphdrVersion, .tos,
   .srcIpAddress, .dstIpAddress, .srcMacAddress, .dstMacAddress, .greProtocolType]

/-- The bitmap that `sai_mirror_is_mandat_attribute_missing` takes for a type. -/
def mirrorMandatory (span_type : Int) : List MirrorAttrId :=
  if span_type = mirrorTypeLocal then mirrorSpanBitmap
  else if span_type = mirrorTypeRemote then mirrorRspanBitmap
  else if span_type = mirrorTypeEnhancedRemote then mirrorErspanBitmap
  else []

/-- `sai_mirror_is_mandat_attribute_missing` -/
def mirrorIsMandatAttributeMissing (req_attributes : List MirrorAttrId) (span_type : Int) : Bool :=
  !(mirrorMandatory span_type).all fun id => req_attributes.contains id

section Attributes

variable (env : MirrorEnv)

/-- `sai_mirror_fill_erspan_attribute_params` -/
def mirrorFillErspanAttributeParams (info : MirrorSession) (attr_index : Nat) :
    MirrorAttr → Status × MirrorSession :=
  let param (bad : Bool) (params : MirrorParams) : Status × MirrorSession :=
    if bad = true then (.invalidAttrValue attr_index, info)
    else (.success, { info with session_params := params })
  let p := info.session_params
  fun
  | .erspanEncapsulationType s32 => param false { p with encap_type := s32 }
  | .iphdrVersion u8 => param false { p with ip_hdr_version := u8 }
  | .tos u8 => param false { p with tos := u8 }
  | .ttl u8 => param false { p with ttl := u8 }
  | .srcIpAddress ipaddr => param ipaddr.isZero { p with src_ip := ipaddr }
  | .dstIpAddress ipaddr => param ipaddr.isZero { p with dst_ip := ipaddr }
  | .srcMacAddress mac => param (mac == 0) { p with src_mac := mac }
  | .dstMacAddress mac => param (mac == 0) { p with dst_mac := mac }
  | .greProtocolType u16 => param false { p with gre_protocol := u16 }
  | _ => (.unknownAttribute attr_index, info)

/-- The check of a monitor port. -/
def mirrorMonitorPortValid (oid : Oid) : Bool :=
  match oid.type with
  | .port => env.port_valid oid
  | .lag => env.lag_created oid
  | _ => false

/-- `sai_mirror_fill_attribute_params`: the type is written before it is checked. -/
def mirrorFillAttributeParams (info : MirrorSession) (attr_index : Nat) :
    MirrorAttr → Status × MirrorSession
  | .type s32 =>
    (if mirrorIsSpanTypeValid s32 = true then .success else .invalidAttrValue attr_index,
      { info with span_type := s32 })
  | .tc u8 => (.success, { info with session_params.class_of_service := u8 })
  | .vlanTpid u16 => (.success, { info with session_params.tpid := u16 })
  | .vlanId u16 =>
    if env.valid_vlan_id u16 = false then (.invalidAttrValue attr_index, info)
    else if env.vlan_created u16 = false then (.invalidAttrValue attr_index, info)
    else (.success, { info with session_params.vlan_id := u16 })
  | .vlanPri u8 => (.success, { info with session_params.vlan_priority := u8 })
  | .monitorPort oid =>
    if mirrorMonitorPortValid env oid = false then (.invalidAttrValue attr_index, info)
    else (.success, { info with monitor_port := oid })
  | .unknown _ => (.unknownAttribute attr_index, info)
  | attr => mirrorFillErspanAttributeParams info attr_index attr

/-! ## Create -/

/-- What the loop of a create leaves: the status, the attributes that were given, the node, and the
state. -/
structure MirrorFilled where
  rc : Status
  req_attributes : List MirrorAttrId
  info : MirrorSession
  db : MirrorDb

def mirrorAttrWalk : Nat → List MirrorAttr → List MirrorAttrId → MirrorSession → MirrorDb → MirrorFilled
  | _, [], req_attributes, info, db => ⟨.success, req_attributes, info, db⟩
  | attr_index, attr :: attr_list, req_attributes, info, db =>
    let req_attributes := req_attributes ++ [attr.id]
    let filled := mirrorFillAttributeParams env info attr_index attr
    if filled.1 ≠ .success then ⟨filled.1, req_attributes, filled.2, db⟩
    else
      let valid := db.call env (.attribsValidate info.session_id attr attr_index)
      if valid.1 ≠ .success then ⟨valid.1, req_attributes, filled.2, valid.2⟩
      else mirrorAttrWalk (attr_index + 1) attr_list req_attributes filled.2 valid.2

/-- The part of a create from the NPU on. What the NPU answers to a destroy is dropped. -/
def mirrorSessionRegister (info : MirrorSession) (db : MirrorDb) : Status × Oid × MirrorDb :=
  let session_id := uoidCreate .mirrorSession (env.npu_object_id db.outside_log)
  let created := db.call env (.sessionCreate info session_id)
  if created.1 ≠ .success then (created.1, .null, created.2)
  else
    let inserted := created.2.call env (.sessionInsert session_id)
    if inserted.1 ≠ .success ∨ (inserted.2.mirror_sessions_tree session_id).isSome = true then
      (.failure, .null, (inserted.2.call env (.sessionDestroy session_id)).2)
    else
      let info := { info with session_id := session_id }
      let sources := (inserted.2.putSession session_id (some info)).call env
        (.sourceTreeCreate session_id)
      if sources.1 ≠ .success then
        (.failure, .null,
          ((sources.2.putSession session_id none).call env (.sessionDestroy session_id)).2)
      else
        (.success, session_id,
          sources.2.putSession session_id (some { info with source_ports_tree := some [] }))

def mirrorSessionCreateLocked (attr_list : List MirrorAttr) (db : MirrorDb) : Status × Oid × MirrorDb :=
  let alloc := db.call env .nodeAlloc
  if alloc.1 ≠ .success then (.noMemory, .null, alloc.2)
  else
    let filled := mirrorAttrWalk env 0 attr_list [] .zero alloc.2
    if filled.rc ≠ .success then (filled.rc, .null, filled.db)
    else if mirrorIsMandatAttributeMissing filled.req_attributes filled.info.span_type = true then
      (.mandatoryAttributeMissing, .null, filled.db)
    else mirrorSessionRegister env filled.info filled.db

/-- `sai_mirror_session_create`, with the id that it hands out. -/
def mirrorSessionCreate (attr_list : List MirrorAttr) (db : MirrorDb) : Status × Oid × MirrorDb :=
  let created := mirrorSessionCreateLocked env attr_list db.lock
  (created.1, created.2.1, created.2.2.unlock)

end Attributes

/-! ## The other calls -/

section Calls

variable (env : MirrorEnv) (session_id port_id : Oid) (direction : MirrorDirection)

/-- What the calls on a session have in common: the lock is taken for an id of the right type, and the
session is looked up. -/
def mirrorSessionLocked (body : MirrorSession → MirrorDb → Status × MirrorDb) (db : MirrorDb) :
    Status × MirrorDb :=
  if session_id.type ≠ .mirrorSession then (.invalidObjectType, db)
  else
    let db := db.lock
    let done := (db.mirror_sessions_tree session_id).elim (.invalidObjectId, db) fun info => body info db
    (done.1, done.2.unlock)

/-- `sai_mirror_session_remove` -/
def mirrorSessionRemove (db : MirrorDb) : Status × MirrorDb :=
  mirrorSessionLocked session_id (fun info db =>
    if info.source_ports_tree.getD [] ≠ [] then (.objectInUse, db)
    else
      let destroyed := db.call env (.sessionDestroy info.session_id)
      if destroyed.1 ≠ .success then destroyed
      else (.success, destroyed.2.putSession session_id none)) db

/-- `sai_mirror_session_attribute_set`: the node in the tree is written, and only the NPU has it taken
back. -/
def mirrorSessionAttributeSet (attr : MirrorAttr) (db : MirrorDb) : Status × MirrorDb :=
  mirrorSessionLocked session_id (fun info db =>
    let filled := mirrorFillAttributeParams env info 0 attr
    let db := db.putSession session_id (some filled.2)
    if filled.1 ≠ .success then (filled.1, db)
    else
      let set := db.call env (.sessionSet session_id filled.2.span_type attr)
      if set.1 ≠ .success then (set.1, set.2.putSession session_id (some info)) else set) db

/-- `sai_mirror_session_attribute_get`: the values are those of the NPU. -/
def mirrorSessionAttributeGet (attr_list : List MirrorAttrId) (db : MirrorDb) : Status × MirrorDb :=
  mirrorSessionLocked session_id (fun info db =>
    db.call env (.sessionGet session_id info.span_type attr_list)) db

/-- The calls on a source port check it under the lock, before they look for the session. -/
def mirrorSourceLocked (body : List (Oid × MirrorDirection) → MirrorSession → MirrorDb → Status × MirrorDb)
    (db : MirrorDb) : Status × MirrorDb :=
  if session_id.type ≠ .mirrorSession then (.invalidObjectType, db)
  else if env.port_valid port_id = false then (.invalidObjectId, db.lock.unlock)
  else
    mirrorSessionLocked session_id (fun info db =>
      info.source_ports_tree.elim (.failure, db) fun sources => body sources info db) db

/-- `sai_mirror_session_port_add`. What the NPU answers to a remove is dropped. -/
def mirrorSessionPortAdd (db : MirrorDb) : Status × MirrorDb :=
  mirrorSourceLocked env session_id port_id (fun sources info db =>
    if (port_id, direction) ∈ sources then (.itemAlreadyExists, db)
    else
      let alloc := db.call env .sourceAlloc
      if alloc.1 ≠ .success then (.noMemory, alloc.2)
      else
        let added := alloc.2.call env (.sessionPortAdd session_id port_id direction)
        if added.1 ≠ .success then added
        else
          let inserted := added.2.call env (.sourceInsert session_id port_id direction)
          if inserted.1 ≠ .success then
            (.failure,
              (inserted.2.call env (.sessionPortRemove info.session_id port_id direction)).2)
          else
            (.success, inserted.2.putSession session_id
              (some { info with source_ports_tree := some (sources ++ [(port_id, direction)]) }))) db

/-- `sai_mirror_session_port_remove` -/
def mirrorSessionPortRemove (db : MirrorDb) : Status × MirrorDb :=
  mirrorSourceLocked env session_id port_id (fun sources info db =>
    if (port_id, direction) ∉ sources then (.itemNotFound, db)
    else
      let removed := db.call env (.sessionPortRemove session_id port_id direction)
      if removed.1 ≠ .success then removed
      else
        (.success, removed.2.putSession session_id
          (some { info with source_ports_tree := some (sources.erase (port_id, direction)) }))) db

/-- `sai_mirror_is_valid_mirror_session`: for a session that is not there it returns with the lock
taken. -/
def mirrorIsValidMirrorSession (db : MirrorDb) : Bool × MirrorDb :=
  let db := db.lock
  if (db.mirror_sessions_tree session_id).isNone = true then (false, db) else (true, db.unlock)

end Calls

inductive MirrorOp where
  | create (env : MirrorEnv) (attr_list : List MirrorAttr)
  | remove (env : MirrorEnv) (session_id : Oid)
  | set (env : MirrorEnv) (session_id : Oid) (attr : MirrorAttr)
  | get (env : MirrorEnv) (session_id : Oid) (attr_list : List MirrorAttrId)
  | portAdd (env : MirrorEnv) (session_id port_id : Oid) (direction : MirrorDirection)
  | portRemove (env : MirrorEnv) (session_id port_id : Oid) (direction : MirrorDirection)
  | isValid (session_id : Oid)

def mirrorExec : MirrorOp → MirrorDb → Status × MirrorDb
  | .create env attr_list, db =>
    let created := mirrorSessionCreate env attr_list db
    (created.1, created.2.2)
  | .remove env session_id, db => mirrorSessionRemove env session_id db
  | .set env session_id attr, db => mirrorSessionAttributeSet env session_id attr db
  | .get env session_id attr_list, db => mirrorSessionAttributeGet env session_id attr_list db
  | .portAdd env session_id port_id direction, db =>
    mirrorSessionPortAdd env session_id port_id direction db
  | .portRemove env session_id port_id direction, db =>
    mirrorSessionPortRemove env session_id port_id direction db
  | .isValid session_id, db => (.success, (mirrorIsValidMirrorSession session_id db).2)

end OpxSai
