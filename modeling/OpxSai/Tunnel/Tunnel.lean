import OpxSai.Common.Outside
import OpxSai.Routing.State

/-!
# Tunnels

A tunnel has an underlay and an overlay router interface, and lists of tunnel maps for the way in and the
way out. It is in the tree of tunnels and in the NPU, its index is taken from a bitmap, and the router
interfaces count it. The maps count it too, and each has it on the list of its tunnels.

A tunnel is not removed while a next hop or a termination entry is on one of its lists. Bridge ports are
counted, and nobody asks for this count.
-/

namespace OpxSai

/-! ## Attributes and nodes -/

/-- `sai_tunnel_type_t` -/
inductive TunnelType where
  | ipinip | ipinipGre | vxlan | mpls
  | other (s32 : Int)
deriving DecidableEq

/-- `sai_tunnel_ttl_mode_t` and `sai_tunnel_dscp_mode_t` -/
inductive TunnelMode where
  | uniform | pipe
  | other (s32 : Int)
deriving DecidableEq

/-- `sai_tunnel_map_type_t` -/
inductive TunnelMapType where
  | bridgeIfToVni | vniToBridgeIf
  | other (s32 : Int)
deriving DecidableEq

/-- `sai_attribute_t` of a tunnel. A list of objects without a pointer is `none`. -/
inductive TunnelAttr where
  | type (s32 : TunnelType)
  | underlayInterface (oid : Oid)
  | overlayInterface (oid : Oid)
  | encapSrcIp (ipaddr : IpAddress)
  | encapTtlMode (s32 : TunnelMode)
  | decapTtlMode (s32 : TunnelMode)
  | encapDscpMode (s32 : TunnelMode)
  | decapDscpMode (s32 : TunnelMode)
  | encapTtlVal (u8 : Nat)
  | encapDscpVal (u8 : Nat)
  | encapMappers (objlist : Option (List Oid))
  | decapMappers (objlist : Option (List Oid))
  | unknown (id : Nat)
deriving DecidableEq

structure TunnelQos where
  ttl_mode : TunnelMode
  ttl : Nat
  dscp_mode : TunnelMode
  dscp : Nat
deriving DecidableEq

def TunnelQos.zero : TunnelQos := ⟨.uniform, 0, .uniform, 0⟩

/-- `dn_sai_tunnel_t`. The list of its next hops and its underlay VRF are with the routing module. -/
structure TunnelObj where
  tunnel_type : TunnelType
  underlay_rif : Oid
  underlay_vrf : Oid
  overlay_rif : Oid
  overlay_vrf : Oid
  src_ip : IpAddress
  encap : TunnelQos
  decap : TunnelQos
  tunnel_encap_mapper_list : List Oid
  tunnel_decap_mapper_list : List Oid
  tunnel_term_entry_list : List Oid
  /-- What `sai_tunnel_increment_ref_count` counts. -/
  ref_count : Nat
deriving DecidableEq

/-- What `calloc` leaves. -/
def TunnelObj.zero : TunnelObj where
  tunnel_type := .ipinip
  underlay_rif := .null
  underlay_vrf := .null
  overlay_rif := .null
  overlay_vrf := .null
  src_ip := .ip4 0
  encap := .zero
  decap := .zero
  tunnel_encap_mapper_list := []
  tunnel_decap_mapper_list := []
  tunnel_term_entry_list := []
  ref_count := 0

/-- `dn_sai_tunnel_map_t`, with the tunnels that depend on it. -/
structure TunnelMap where
  type : TunnelMapType
  ref_count : Nat
  tunnel_map_entry_list : List Oid
  dep_tunnels : List Oid
deriving DecidableEq

structure TunnelMapVal where
  bridge_oid : Oid
  vnid : Nat
deriving DecidableEq

/-- `dn_sai_tunnel_map_entry_t` -/
structure TunnelMapEntry where
  type : TunnelMapType
  tunnel_map_id : Oid
  key : TunnelMapVal
  value : TunnelMapVal
deriving DecidableEq

/-- `dn_sai_tunnel_term_entry_t` -/
structure TunnelTerm where
  vr_id : Oid
  type : Int
  dst_ip : IpAddress
  src_ip : IpAddress
  tunnel_type : TunnelType
  tunnel_id : Oid
deriving DecidableEq

/-! ## The state -/

/-- What leaves the module. A call that takes an earlier one back is marked. A node that is not in its tree
yet is known to the NPU by the id that it will have. -/
inductive TunnelCall where
  | nodeAlloc
  | tunnelObjAttrValidate (attr : TunnelAttr)
  | tunnelObjCreate (tunnel_id : Oid) | tunnelObjRemove (tunnel_id : Oid)
  | tunnelInsert (tunnel_id : Oid)
  | mapDepTunnelAdd (map_id tunnel_id : Oid) | mapDepTunnelRemove (map_id tunnel_id : Oid)
  | mapInsert (map_id : Oid)
  | mapEntryCreate (entry_id : Oid) | mapEntryRemove (entry_id : Oid) | mapEntrySet (entry_id : Oid)
  | mapEntryInsert (entry_id : Oid)
  | termEntryCreate (term_id : Oid) | termEntryRemove (term_id : Oid) (back : Bool)
  | termInsert (term_id : Oid)
deriving DecidableEq

structure TunnelEnv where
  outside : Outside TunnelCall
  /-- The outside of the routing module. -/
  fib : Env
  /-- `dn_sai_check_duplicate_attr` -/
  tunnel_duplicate : List TunnelAttr → Option Nat
  /-- `sai_attribute_validate` with the table of the NPU. -/
  tunnel_validate : List TunnelAttr → Status
  /-- `dn_sai_is_vxlan_tunnel` -/
  is_vxlan_tunnel : TunnelObj → Bool
  /-- `dn_tunnel_map_is_encap_map_type` -/
  is_encap_map_type : TunnelMapType → Bool
  /-- Room for a list of so many maps. -/
  mapper_list_alloc : Nat → Bool
  /-- `SAI_TUNNEL_MAX_DSCP_VAL` -/
  max_dscp_val : Nat

def TunnelEnv.good : TunnelEnv where
  outside := fun _ _ => .success
  fib := .good 0
  tunnel_duplicate := fun _ => none
  tunnel_validate := fun _ => .success
  is_vxlan_tunnel := fun tunnel => decide (tunnel.tunnel_type = .vxlan)
  is_encap_map_type := fun type => decide (type = .bridgeIfToVni)
  mapper_list_alloc := fun _ => true
  max_dscp_val := 63

/-- The trees of the module, the free indexes, the counters of bridges, and what the NPU holds. A pointer
to a node is its id. -/
structure TunnelDb where
  fib : Fib
  tunnels : List (Oid × TunnelObj)
  tunnel_id_bitmap : Nat → Bool
  maps : Oid → Option TunnelMap
  entries : List (Oid × TunnelMapEntry)
  terms : List (Oid × TunnelTerm)
  term_id_bitmap : Nat → Bool
  bridges : Oid → Option Nat
  npu_tunnels : Oid → Bool
  npu_entries : Oid → Bool
  npu_terms : Oid → Bool
  outside_log : CallLog TunnelCall

namespace TunnelDb

/-- No tunnels, and all indexes are free; there may be router interfaces and bridges. -/
def initial (fib : Fib) (bridges : Oid → Option Nat) : TunnelDb where
  fib := { fib with tunnels := fun _ => none }
  tunnels := []
  tunnel_id_bitmap := fun _ => true
  maps := fun _ => none
  entries := []
  terms := []
  term_id_bitmap := fun _ => true
  bridges := bridges
  npu_tunnels := fun _ => false
  npu_entries := fun _ => false
  npu_terms := fun _ => false
  outside_log := []

def mark (held : Oid → Bool) (id : Oid) (b : Bool) : Oid → Bool := fun o => if o = id then b else held o

def apply (db : TunnelDb) : TunnelCall → TunnelDb
  | .tunnelObjCreate id => { db with npu_tunnels := mark db.npu_tunnels id true }
  | .tunnelObjRemove id => { db with npu_tunnels := mark db.npu_tunnels id false }
  | .mapEntryCreate id => { db with npu_entries := mark db.npu_entries id true }
  | .mapEntryRemove id => { db with npu_entries := mark db.npu_entries id false }
  | .termEntryCreate id => { db with npu_terms := mark db.npu_terms id true }
  | .termEntryRemove id _ => { db with npu_terms := mark db.npu_terms id false }
  | _ => db

def call (db : TunnelDb) (env : TunnelEnv) (c : TunnelCall) : Status × TunnelDb :=
  let answer := env.outside db.outside_log c
  let db := { db with outside_log := env.outside.log c db.outside_log }
  (answer, if answer = .success then db.apply c else db)

/-- `dn_sai_tunnel_obj_get` -/
def tunnelObjGet (db : TunnelDb) (tunnel_id : Oid) : Option TunnelObj := Tree.find db.tunnels tunnel_id

def modMap (map_id : Oid) (f : TunnelMap → TunnelMap) (db : TunnelDb) : TunnelDb :=
  { db with maps := fun m => if m = map_id then (db.maps m).map f else db.maps m }

def modTunnel (tunnel_id : Oid) (f : TunnelObj → TunnelObj) (db : TunnelDb) : TunnelDb :=
  { db with tunnels := Tree.modify db.tunnels tunnel_id f }

def addTunnel (tunnel_id : Oid) (tunnel : TunnelObj) (nhs : List Ptr) (db : TunnelDb) : TunnelDb :=
  { db with
    tunnels := Tree.insert db.tunnels tunnel_id tunnel
    fib := { db.fib with tunnels := fun t =>
      if t = tunnel_id then some ⟨tunnel.underlay_vrf, nhs⟩ else db.fib.tunnels t } }

def dropTunnel (tunnel_id : Oid) (db : TunnelDb) : TunnelDb :=
  { db with
    tunnels := Tree.erase db.tunnels tunnel_id
    fib := { db.fib with tunnels := fun t => if t = tunnel_id then none else db.fib.tunnels t } }

def encapNhs (db : TunnelDb) (tunnel_id : Oid) : List Ptr :=
  (db.fib.tunnels tunnel_id).elim [] Tunnel.tunnel_encap_nh_list

/-- `sai_rif_increment_ref_count` -/
def rifIncr (rif_id : Oid) (db : TunnelDb) : TunnelDb :=
  { db with fib := db.fib.modRif rif_id fun r => { r with ref_count := r.ref_count + 1 } }

/-- `sai_rif_decrement_ref_count` -/
def rifDecr (rif_id : Oid) (db : TunnelDb) : TunnelDb :=
  { db with fib := db.fib.modRif rif_id fun r => { r with ref_count := r.ref_count - 1 } }

def setTunnelIndex (index : Nat) (free : Bool) (db : TunnelDb) : TunnelDb :=
  { db with tunnel_id_bitmap := fun i => if i = index then free else db.tunnel_id_bitmap i }

end TunnelDb

open TunnelDb

/-! ## The maps of a tunnel -/

section Mappers

variable (env : TunnelEnv) (tunnel_id : Oid)

/-- One map of `dn_sai_tunnel_mapper_clean`; what comes back is logged. -/
def tunnelMapperLeave (map_id : Oid) (db : TunnelDb) : TunnelDb :=
  match db.maps map_id with
  | none => db
  | some _ =>
    let removed := db.call env (.mapDepTunnelRemove map_id tunnel_id)
    let db := if removed.1 = .success then
        removed.2.modMap map_id fun m => { m with dep_tunnels := m.dep_tunnels.erase tunnel_id }
      else removed.2
    db.modMap map_id fun m => { m with ref_count := m.ref_count - 1 }

/-- `dn_sai_tunnel_mapper_clean` -/
def tunnelMapperClean (objlist : List Oid) (db : TunnelDb) : TunnelDb :=
  objlist.foldl (fun db map_id => tunnelMapperLeave env tunnel_id map_id db) db

def mapperType (is_encap : Bool) : TunnelMapType := if is_encap = true then .bridgeIfToVni else .vniToBridgeIf

/-- The loop of `dn_sai_tunnel_mapper_set`, with the maps that it took. -/
def tunnelMapperTake (is_encap : Bool) : List Oid → Bool → List Oid → TunnelDb → Status × List Oid × TunnelDb
  | [], _, new_objlist, db => (.success, new_objlist, db)
  | map_id :: objlist, map_found, new_objlist, db =>
    match db.maps map_id with
    | none => (.invalidParameter, new_objlist, db)
    | some m =>
      if env.is_encap_map_type m.type ≠ is_encap then (.invalidParameter, new_objlist, db)
      else if m.type = mapperType is_encap ∧ map_found = true then (.invalidParameter, new_objlist, db)
      else
        let added := db.call env (.mapDepTunnelAdd map_id tunnel_id)
        if added.1 ≠ .success then (added.1, new_objlist, added.2)
        else
          tunnelMapperTake is_encap objlist (map_found || decide (m.type = mapperType is_encap))
            (new_objlist ++ [map_id])
            (added.2.modMap map_id fun m =>
              { m with dep_tunnels := m.dep_tunnels ++ [tunnel_id], ref_count := m.ref_count + 1 })

def TunnelObj.setMappers (is_encap : Bool) (objlist : List Oid) (tunnel : TunnelObj) : TunnelObj :=
  if is_encap = true then { tunnel with tunnel_encap_mapper_list := objlist }
  else { tunnel with tunnel_decap_mapper_list := objlist }

/-- `dn_sai_tunnel_mapper_set` -/
def tunnelMapperSet (is_encap : Bool) (objlist : Option (List Oid)) (tunnel : TunnelObj) (db : TunnelDb) :
    Status × TunnelObj × TunnelDb :=
  match objlist with
  | none => (.invalidParameter, tunnel, db)
  | some objlist =>
    if env.mapper_list_alloc objlist.length = false then (.noMemory, tunnel.setMappers is_encap [], db)
    else
      let taken := tunnelMapperTake env tunnel_id is_encap objlist false [] db
      if taken.1 ≠ .success then
        (taken.1, tunnel.setMappers is_encap [], tunnelMapperClean env tunnel_id taken.2.1 taken.2.2)
      else (.success, tunnel.setMappers is_encap taken.2.1, taken.2.2)

end Mappers

/-! ## Attributes -/

section Attributes

variable (env : TunnelEnv) (tunnel_id : Oid)

/-- `dn_sai_tunnel_type_set` -/
def tunnelTypeSet (s32 : TunnelType) (tunnel : TunnelObj) : Status × TunnelObj :=
  match s32 with
  | .other _ => (.invalidAttrValue 0, tunnel)
  | s32 => (.success, { tunnel with tunnel_type := s32 })

/-- `dn_sai_tunnel_intf_set` -/
def tunnelIntfSet (is_underlay : Bool) (oid : Oid) (tunnel : TunnelObj) (fib : Fib) : Status × TunnelObj :=
  if oid.type ≠ .routerInterface then (.invalidObjectType, tunnel)
  else
    match fib.rif oid with
    | none => (.invalidObjectId, tunnel)
    | some rif =>
      (.success,
        if is_underlay = true then { tunnel with underlay_vrf := rif.vrf_id, underlay_rif := oid }
        else { tunnel with overlay_vrf := rif.vrf_id, overlay_rif := oid })

/-- `dn_sai_tunnel_encap_sip_set` -/
def tunnelEncapSipSet (ipaddr : IpAddress) (tunnel : TunnelObj) : Status × TunnelObj :=
  if ipaddr.familyValid = true then (.success, { tunnel with src_ip := ipaddr })
  else (.invalidAttrValue 0, tunnel)

def TunnelObj.setQos (is_encap : Bool) (f : TunnelQos → TunnelQos) (tunnel : TunnelObj) : TunnelObj :=
  if is_encap = true then { tunnel with encap := f tunnel.encap }
  else { tunnel with decap := f tunnel.decap }

/-- `dn_sai_tunnel_ttl_mode_set` -/
def tunnelTtlModeSet (is_encap : Bool) (s32 : TunnelMode) (tunnel : TunnelObj) : Status × TunnelObj :=
  match s32 with
  | .other _ => (.invalidAttrValue 0, tunnel)
  | s32 => (.success, tunnel.setQos is_encap fun qos => { qos with ttl_mode := s32 })

/-- `dn_sai_tunnel_dscp_mode_set` -/
def tunnelDscpModeSet (is_encap : Bool) (s32 : TunnelMode) (tunnel : TunnelObj) : Status × TunnelObj :=
  match s32 with
  | .other _ => (.invalidAttrValue 0, tunnel)
  | s32 => (.success, tunnel.setQos is_encap fun qos => { qos with dscp_mode := s32 })

/-- `dn_sai_tunnel_dscp_set` -/
def tunnelDscpSet (u8 : Nat) (tunnel : TunnelObj) : Status × TunnelObj :=
  if u8 > env.max_dscp_val then (.invalidAttrValue 0, tunnel)
  else (.success, tunnel.setQos true fun qos => { qos with dscp := u8 })

/-- `dn_sai_tunnel_ttl_set` -/
def tunnelTtlSet (u8 : Nat) (tunnel : TunnelObj) : Status × TunnelObj :=
  if u8 = 0 then (.invalidAttrValue 0, tunnel)
  else (.success, tunnel.setQos true fun qos => { qos with ttl := u8 })

/-- The switch of `dn_sai_tunnel_attr_set`. -/
def tunnelAttrStore (attr : TunnelAttr) (tunnel : TunnelObj) (db : TunnelDb) :
    Status × TunnelObj × TunnelDb :=
  let plain (x : Status × TunnelObj) : Status × TunnelObj × TunnelDb := (x.1, x.2, db)
  match attr with
  | .type s32 => plain (tunnelTypeSet s32 tunnel)
  | .underlayInterface oid => plain (tunnelIntfSet true oid tunnel db.fib)
  | .overlayInterface oid => plain (tunnelIntfSet false oid tunnel db.fib)
  | .encapSrcIp ipaddr => plain (tunnelEncapSipSet ipaddr tunnel)
  | .encapTtlMode s32 => plain (tunnelTtlModeSet true s32 tunnel)
  | .decapTtlMode s32 => plain (tunnelTtlModeSet false s32 tunnel)
  | .encapDscpMode s32 => plain (tunnelDscpModeSet true s32 tunnel)
  | .decapDscpMode s32 => plain (tunnelDscpModeSet false s32 tunnel)
  | .encapTtlVal u8 => plain (tunnelTtlSet u8 tunnel)
  | .encapDscpVal u8 => plain (tunnelDscpSet env u8 tunnel)
  | .encapMappers objlist => tunnelMapperSet env tunnel_id true objlist tunnel db
  | .decapMappers objlist => tunnelMapperSet env tunnel_id false objlist tunnel db
  | .unknown _ => plain (.unknownAttribute 0, tunnel)

/-- The loop of `dn_sai_tunnel_attr_set`. -/
def tunnelAttrWalk : Nat → List TunnelAttr → Status → TunnelObj → TunnelDb → Status × TunnelObj × TunnelDb
  | _, [], status, tunnel, db => (status, tunnel, db)
  | attr_idx, attr :: attr_list, _, tunnel, db =>
    let stored := tunnelAttrStore env tunnel_id attr tunnel db
    if stored.1 ≠ .success then (getIndexedRetVal stored.1 attr_idx, stored.2)
    else
      let valid := stored.2.2.call env (.tunnelObjAttrValidate attr)
      if valid.1 ≠ .success then (getIndexedRetVal valid.1 attr_idx, stored.2.1, valid.2)
      else tunnelAttrWalk (attr_idx + 1) attr_list .success stored.2.1 valid.2

def mappersPresent (is_encap : Bool) (attr_list : List TunnelAttr) : Bool :=
  attr_list.any fun attr =>
    match attr with
    | .encapMappers _ => is_encap
    | .decapMappers _ => !is_encap
    | _ => false

/-- Both lists of maps are given back. -/
def tunnelMappersClean (tunnel : TunnelObj) (db : TunnelDb) : TunnelObj × TunnelDb :=
  ((tunnel.setMappers true []).setMappers false [],
    tunnelMapperClean env tunnel_id tunnel.tunnel_decap_mapper_list
      (tunnelMapperClean env tunnel_id tunnel.tunnel_encap_mapper_list db))

def tunnelMappersCheck (attr_list : List TunnelAttr) (tunnel : TunnelObj) (status : Status) : Status :=
  if status = .success ∧ env.is_vxlan_tunnel tunnel = true ∧
      (mappersPresent true attr_list = false ∨ mappersPresent false attr_list = false) then
    .mandatoryAttributeMissing
  else status

/-- `dn_sai_tunnel_attr_set` -/
def tunnelAttrSet (attr_list : List TunnelAttr) (tunnel : TunnelObj) (db : TunnelDb) :
    Status × TunnelObj × TunnelDb :=
  let walked := tunnelAttrWalk env tunnel_id 0 attr_list .failure tunnel db
  let status := tunnelMappersCheck env attr_list walked.2.1 walked.1
  if status ≠ .success then (status, tunnelMappersClean env tunnel_id walked.2.1 walked.2.2)
  else (status, walked.2)

end Attributes

/-! ## Create and remove -/

section Create

variable (max_id : Nat) (env : TunnelEnv)

/-- `dn_sai_tunnel_attr_list_validate` -/
def tunnelAttrListValidate (duplicate : Option Nat) (validated : Status) : Status :=
  match duplicate with
  | some dup_index => getIndexedRetVal (.invalidAttribute 0) dup_index
  | none => validated

/-- `std_find_first_bit` of an id bitmap, from bit 1 on. -/
def tunnelIndexFind (bitmap : Nat → Bool) : Option Nat :=
  (List.range max_id).find? fun i => decide (1 ≤ i) && bitmap i

def tunnelId (index : Nat) : Oid := uoidCreate .tunnel index

/-- `dn_sai_tunnel_create` after its attributes are set. -/
def tunnelRegister (tunnel_index : Nat) (tunnel : TunnelObj) (db : TunnelDb) : Status × TunnelDb :=
  let made := db.call env (.tunnelObjCreate (tunnelId tunnel_index))
  if made.1 ≠ .success then made
  else
    let inserted := made.2.call env (.tunnelInsert (tunnelId tunnel_index))
    if inserted.1 ≠ .success ∨ (inserted.2.tunnelObjGet (tunnelId tunnel_index)).isSome = true then
      (.failure, inserted.2)
    else
      (.success, (((inserted.2.addTunnel (tunnelId tunnel_index) tunnel []).rifIncr
        tunnel.underlay_rif).rifIncr tunnel.overlay_rif).setTunnelIndex tunnel_index false)

/-- `dn_sai_tunnel_create`, with the id that it hands out. -/
def tunnelCreate (attr_list : List TunnelAttr) (db : TunnelDb) : Status × Oid × TunnelDb :=
  let valid := tunnelAttrListValidate (env.tunnel_duplicate attr_list) (env.tunnel_validate attr_list)
  if valid ≠ .success then (valid, .null, db)
  else
    let alloc := db.call env .nodeAlloc
    if alloc.1 ≠ .success then (.noMemory, .null, alloc.2)
    else
      match tunnelIndexFind max_id alloc.2.tunnel_id_bitmap with
      | none => (.insufficientResources, .null, alloc.2)
      | some tunnel_index =>
        let set := tunnelAttrSet env (tunnelId tunnel_index) attr_list .zero alloc.2
        let made := if set.1 ≠ .success then (set.1, set.2.2)
          else tunnelRegister env tunnel_index set.2.1 set.2.2
        if made.1 ≠ .success then
          (made.1, .null, (tunnelMappersClean env (tunnelId tunnel_index) set.2.1 made.2).2)
        else (.success, tunnelId tunnel_index, made.2)

/-- `dn_sai_tunnel_remove` -/
def tunnelRemove (tunnel_id : Oid) (db : TunnelDb) : Status × TunnelDb :=
  if tunnel_id.type ≠ .tunnel then (.invalidObjectType, db)
  else
    match db.tunnelObjGet tunnel_id with
    | none => (.invalidObjectId, db)
    | some tunnel =>
      let nhs := db.encapNhs tunnel_id
      if nhs ≠ [] ∨ tunnel.tunnel_term_entry_list ≠ [] then (.objectInUse, db)
      else
        let removed := (db.dropTunnel tunnel_id).call env (.tunnelObjRemove tunnel_id)
        if removed.1 ≠ .success then
          let inserted := removed.2.call env (.tunnelInsert tunnel_id)
          (removed.1, if inserted.1 = .success then inserted.2.addTunnel tunnel_id tunnel nhs else inserted.2)
        else
          (.success, (tunnelMappersClean env tunnel_id tunnel
            (((removed.2.setTunnelIndex tunnel_id.id true).rifDecr tunnel.underlay_rif).rifDecr
              tunnel.overlay_rif)).2)

end Create

end OpxSai
