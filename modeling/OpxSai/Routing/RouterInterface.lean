import OpxSai.Routing.VirtualRouter
import OpxSai.Routing.NextHopGroup

/-!
# Routing — router interfaces

A router interface is attached to a port, a LAG or a VLAN. For a LAG, a `sai_map`
entry leads from the LAG id to the router interface; it is written at the end of
the create call and deleted at the end of the remove call.

* `rifLagCallback` — a change of the ports of a LAG, handed on to its router interface.
-/

variable (env : Env)

namespace OpxSai

open Fib

/-! ## Attributes -/

/-- `SAI_FIB_RIF_MANDATORY_ATTR_COUNT` -/
def fibRifMandatoryAttrCount : Nat := 2

/-- `SAI_FIB_RIF_MAX_ATTR_COUNT` -/
def fibRifMaxAttrCount : Nat := 8

/-- `sai_fib_is_rif_type_valid`, together with the cast from the attribute's `s32`. -/
def rifTypeValidate : Int → Option RifType
  | 0 => some .port
  | 1 => some .vlan
  | 2 => some .loopback
  | _ => none

/-- `sai_fib_rif_attributes_init`, on the record after `memset`. -/
def rifAttributesInit : Rif where
  rif_id := .null
  vrf_id := .null
  type := .none
  attachment := .null
  src_mac := env.switch_mac
  v4_admin_state := env.dflt.v4_admin_state
  v6_admin_state := env.dflt.v6_admin_state
  mtu := env.dflt.mtu
  ip_options_pkt_action := env.dflt.ip_options_pkt_action
  ref_count := 0

/-- What the loop of `sai_fib_rif_attributes_parse` carries: the node, the three marks, the
local `type` and the attribute flags. -/
structure RifInfo where
  rif : Rif
  is_port_set : Bool
  is_vlan_set : Bool
  is_vrf_set : Bool
  type : RifType
  mac_flag : Bool
  v4_flag : Bool
  v6_flag : Bool
deriving DecidableEq

/-- `sai_fib_rif_create_attr_validate` and `sai_fib_rif_type_attr_set`, for the type
attribute. -/
def rifTypeAttrSet (s32 : Int) (info : RifInfo) : Except Status RifInfo :=
  match rifTypeValidate s32 with
  | none => .error (.invalidAttrValue 0)
  | some type =>
    if (info.is_port_set && type = .vlan) || (info.is_vlan_set && type = .port) ||
        ((info.is_port_set || info.is_vlan_set) && type = .loopback) then
      .error (.invalidAttribute 0)
    else if info.rif.src_mac ≠ 0 ∧ type = .loopback then .error (.invalidAttrValue 0)
    else .ok { info with rif := { info.rif with type := type }, type := type }

/-- The same for the port attribute, with `sai_fib_rif_port_id_set`. -/
def rifPortIdAttrSet (env : Env) (oid : Oid) (info : RifInfo) : Except Status RifInfo :=
  if info.is_vlan_set || info.rif.type = .vlan || info.rif.type = .loopback then
    .error (.invalidAttribute 0)
  else if oid.type ≠ .port ∧ oid.type ≠ .lag then .error (.invalidAttrValue 0)
  else if !env.port_valid oid then .error (.invalidAttrValue 0)
  else
    .ok { info with
      rif := { info.rif with attachment := oid }
      type := info.rif.type
      is_port_set := true }

/-- The same for the VLAN attribute, with `sai_fib_rif_vlan_id_set`. -/
def rifVlanIdAttrSet (env : Env) (oid : Oid) (info : RifInfo) : Except Status RifInfo :=
  if info.is_port_set || info.rif.type = .port || info.rif.type = .loopback then
    .error (.invalidAttribute 0)
  else if !env.vlan_created oid then .error (.invalidAttrValue 0)
  else
    .ok { info with
      rif := { info.rif with attachment := oid }
      type := info.rif.type
      is_vlan_set := true }

/-- The same for the virtual router, with `sai_fib_rif_vrf_attr_set`. -/
def rifVrfAttrSet (s : Fib) (vr_id : Oid) (info : RifInfo) : Except Status RifInfo :=
  if vr_id.type ≠ .virtualRouter then .error (.invalidAttrValue 0)
  else if (s.vrf vr_id).isNone then .error (.invalidAttrValue 0)
  else
    .ok { info with
      rif := { info.rif with vrf_id := vr_id }
      type := info.rif.type
      is_vrf_set := true }

/-- `sai_fib_rif_mac_attr_set` -/
def rifMacAttrSet (mac : Mac) (info : RifInfo) : Except Status RifInfo :=
  if mac = 0 ∨ info.rif.type = .loopback then .error (.invalidAttrValue 0)
  else .ok { info with rif := { info.rif with src_mac := mac }, mac_flag := true }

/-- `sai_fib_rif_create_attr_set` and `sai_fib_rif_optional_attr_set`. -/
def rifAttrFill (s : Fib) (info : RifInfo) (attr : RifAttr) : Except Status RifInfo :=
  match attr with
  | .virtualRouterId oid => rifVrfAttrSet s oid info
  | .type s32 => rifTypeAttrSet s32 info
  | .portId oid => rifPortIdAttrSet env oid info
  | .vlanId oid => rifVlanIdAttrSet env oid info
  | .srcMacAddress mac => rifMacAttrSet mac info
  | .adminV4State booldata =>
    .ok { info with rif := { info.rif with v4_admin_state := booldata }, v4_flag := true }
  | .adminV6State booldata =>
    .ok { info with rif := { info.rif with v6_admin_state := booldata }, v6_flag := true }
  | .mtu u32 => .ok { info with rif := { info.rif with mtu := u32 } }
  | .ingressAcl => .ok info
  | .egressAcl => .ok info
  | .v4McastEnable => .error (.attrNotImplemented 0)
  | .v6McastEnable => .error (.attrNotImplemented 0)
  | .other _ => .error (.unknownAttribute 0)

/-- The body of the loop of `sai_fib_rif_attributes_parse`. -/
def rifAttrSet (s : Fib) (info : RifInfo) (attr : RifAttr) : Except Status RifInfo :=
  match rifAttrFill env s info attr with
  | .error status => .error status
  | .ok info =>
    let rc := env.status (.rifAttrValidate info.rif.type attr)
    if rc ≠ .success then .error rc else .ok info

/-- `sai_fib_rif_inherit_vrf_attributes`; its failure is not looked at. -/
def rifInheritVrfAttributes (info : RifInfo) (s : Fib) : Rif :=
  match s.vrf info.rif.vrf_id with
  | none => info.rif
  | some vrf =>
    { info.rif with
      v4_admin_state := if info.v4_flag then info.rif.v4_admin_state else vrf.v4_admin_state
      v6_admin_state := if info.v6_flag then info.rif.v6_admin_state else vrf.v6_admin_state
      src_mac := if info.mac_flag then info.rif.src_mac else vrf.src_mac
      ip_options_pkt_action := vrf.ip_options_pkt_action }

/-- `sai_fib_rif_port_or_vlan_id_get` -/
def rifPortOrVlanIdGet (rif : Rif) : Oid :=
  match rif.type with
  | .port => rif.attachment
  | .vlan => rif.attachment
  | _ => .null

/-- `sai_fib_rif_is_duplicate`: one port or VLAN serves one VRF, and one router interface for
each MAC address. -/
def rifIsDuplicate (rif : Rif) (s : Fib) : Bool :=
  rif.type ≠ .loopback && s.router_interface_tree.any fun db =>
    rif.type = db.type && rifPortOrVlanIdGet rif = rifPortOrVlanIdGet db &&
      (rif.vrf_id ≠ db.vrf_id || rif.src_mac = db.src_mac)

/-- `sai_fib_rif_attributes_parse` -/
def rifAttributesParse (attr_list : List RifAttr) (rif : Rif) (s : Fib) : Except Status Rif :=
  match attrListParse (rifAttrSet env s) 0 attr_list
      ⟨rif, false, false, false, .none, false, false, false⟩ with
  | .error status => .error status
  | .ok info =>
    if (!info.is_port_set && !info.is_vlan_set && info.type ≠ .loopback) ||
        !info.is_vrf_set || info.type = .none then .error .mandatoryAttributeMissing
    else
      let rif := rifInheritVrfAttributes info s
      if rifIsDuplicate rif s then .error .itemAlreadyExists else .ok rif

/-! ## Routing mode of ports -/

/-- `sai_port_forward_mode_info`, for a write. -/
def portFwdModeWrite (port_id : Oid) (index : Nat) (mode : PortFwdMode)
    (clnup : Bool) (s : Fib) : Status × Fib :=
  let x := s.call env (.portForwardModeInfo port_id index (mode = .routing) true clnup)
  if x.1 = .success then
    (x.1, { x.2 with port_fwd_mode := fun p => if p = port_id then mode else s.port_fwd_mode p })
  else x

/-- `sai_port_routing_mode_set`; the status of the write is not looked at. -/
def portRoutingModeSet (index : Nat) (clnup : Bool) (port_id : Oid) (s : Fib) : Status × Fib :=
  andThen (s.call env (.portForwardModeInfo port_id index true false clnup)) fun s =>
    if s.port_fwd_mode port_id = .routing then (.success, s)
    else (.success, (portFwdModeWrite env port_id index .routing clnup s).2)

/-- `sai_port_routing_mode_reset` -/
def portRoutingModeReset (index : Nat) (clnup : Bool) (port_id : Oid) (s : Fib) : Status × Fib :=
  andThen (s.call env (.portForwardModeInfo port_id index false false clnup)) fun s =>
    if s.port_fwd_mode port_id = .unknown then (.success, s)
    else portFwdModeWrite env port_id index .unknown clnup s

def portRoutingModeUpdate (is_set : Bool) (index : Nat) (clnup : Bool)
    (port_id : Oid) (s : Fib) : Status × Fib :=
  if is_set then portRoutingModeSet env index clnup port_id s
  else portRoutingModeReset env index clnup port_id s

/-- The first loop of `sai_port_list_routing_mode_update`: the status, and the number of ports
that were done. -/
def portListUpdateFrom (env : Env) (is_set : Bool) : Nat → List Oid → Fib → Nat × Status × Fib
  | index, [], s => (index, .success, s)
  | index, port_id :: list, s =>
    match portRoutingModeUpdate env is_set index false port_id s with
    | (.success, s) => portListUpdateFrom env is_set (index + 1) list s
    | (status, s) => (index, status, s)

/-- `sai_port_list_routing_mode_update` -/
def portListRoutingModeUpdate (list : List Oid) (is_set : Bool) (s : Fib) : Status × Fib :=
  let x := portListUpdateFrom env is_set 0 list s
  if x.2.1 = .success then x.2
  else
    -- the ports that were done are put back, whatever comes of it
    (x.2.1, (list.take x.1).zipIdx.foldl
      (fun s p => (portRoutingModeUpdate env (!is_set) p.2 true p.1 s).2) x.2.2)

/-- `sai_fib_rif_routing_config_update` -/
def rifRoutingConfigUpdate (rif : Rif) (is_set : Bool) (s : Fib) : Status × Fib :=
  if rif.type = .vlan ∨ rif.type = .loopback then (.success, s)
  else if rif.attachment.type = .lag then
    andThen (s.call env (.lagPortCountGet rif.attachment is_set)) fun s =>
      if env.lag_ports rif.attachment = [] then (.success, s)
      else
        andThen (s.call env (.lagPortListGet rif.attachment is_set)) fun s =>
          portListRoutingModeUpdate env (env.lag_ports rif.attachment) is_set s
  else portListRoutingModeUpdate env [rif.attachment] is_set s

/-! ## The LAG map -/

def lagRifKey (lag_id : Oid) : MapKey := ⟨.lagRifInfo, lag_id⟩

/-- `sai_fib_lag_rif_mapping_insert` -/
def lagRifMappingInsert (lag_id rif_id : Oid) (s : Fib) : Status × Fib :=
  saiMapInsert env .lagRifMap (lagRifKey lag_id) ⟨rif_id, .null⟩ s

/-- `sai_fib_lag_rif_mapping_remove`: the whole entry of the LAG. -/
def lagRifMappingRemove (lag_id : Oid) (s : Fib) : Fib :=
  { s with sai_map := s.sai_map.delete (lagRifKey lag_id) }

/-- `sai_fib_get_rif_id_from_lag_id`, with a buffer for one value. -/
def getRifIdFromLagId (lag_id : Oid) (s : Fib) : Option Oid :=
  (s.sai_map.first (lagRifKey lag_id)).map MapData.val1

/-- `sai_fib_get_lag_id_from_attr`: the first port attribute decides. -/
def getLagIdFromAttr : List RifAttr → Option Oid
  | [] => none
  | .portId oid :: _ => if oid.type = .lag then some oid else none
  | _ :: attr_list => getLagIdFromAttr attr_list

/-- `sai_fib_rif_is_attachment_lag` -/
def rifIsAttachmentLag (rif : Rif) : Bool := rif.type = .port && rif.attachment.type = .lag

/-! ## Create and remove -/

/-- `std_rbtree_insert` into the tree of router interfaces: the key must be new. -/
def rifTreeInsert (rif : Rif) (s : Fib) : Option Fib :=
  if (s.rif rif.rif_id).isNone ∧ env.avail .rifTree then
    some { s with router_interface_tree := s.router_interface_tree ++ [rif] }
  else none

/-- `std_rbtree_remove` from the tree of router interfaces. -/
def rifTreeRemove (rif_id : Oid) (s : Fib) : Fib :=
  { s with router_interface_tree := s.router_interface_tree.filter fun r => r.rif_id ≠ rif_id }

/-- `sai_fib_rif_free_resources` -/
def rifFreeResources (rif : Rif) (in_npu in_vrf_list routing_cfg : Bool) (s : Fib) : Fib :=
  let s := if in_npu then (s.call env (.rifRemove rif)).2 else s
  let s := if in_vrf_list then (vrfRifListUpdate rif false s).2 else s
  if routing_cfg then (rifRoutingConfigUpdate env rif false s).2 else s

/-- `sai_fib_router_interface_create`, after the NPU call. -/
def rifCreateNode (rif : Rif) (s : Fib) : Status × Fib :=
  let x := vrfRifListUpdate rif true s
  if x.1 ≠ .success then (x.1, rifFreeResources env rif true false true x.2)
  else
    match rifTreeInsert env rif x.2 with
    | some s => (.success, s)
    | none => (.failure, rifFreeResources env rif true true true x.2)

/-- `sai_fib_router_interface_create`, up to the unlocking of the LAG, with the value of
`*rif_obj_id` at that point. -/
def rifCreateObject (rif_obj_id : Oid) (attr_list : List RifAttr) (s : Fib) : (Status × Fib) × Oid :=
  match rifAttributesParse env attr_list (rifAttributesInit env) s with
  | .error status => ((status, s), rif_obj_id)
  | .ok rif =>
    let x := rifRoutingConfigUpdate env rif true s
    if x.1 ≠ .success then (x, rif_obj_id)
    else
      let y := x.2.call env (.rifCreate rif)
      if y.1 ≠ .success then
        ((y.1, rifFreeResources env rif false false true y.2), rif_obj_id)
      else
        let rif_id := uoidCreate .routerInterface env.hw_id
        (rifCreateNode env { rif with rif_id := rif_id } y.2, rif_id)

/-- `sai_fib_router_interface_create`, with the value it leaves in `*rif_obj_id`. The mapping
is inserted whatever the status. -/
def routerInterfaceCreate (rif_obj_id : Oid) (attr_list : List RifAttr) (s : Fib) :
    (Status × Fib) × Oid :=
  if attr_list.length < fibRifMandatoryAttrCount ∨ fibRifMaxAttrCount < attr_list.length then
    ((.invalidParameter, s), rif_obj_id)
  else if !env.avail .rifNode then ((.noMemory, s), rif_obj_id)
  else
    let x := rifCreateObject env rif_obj_id attr_list s
    match getLagIdFromAttr attr_list with
    | none => x
    | some lag_id => ((x.1.1, (lagRifMappingInsert env lag_id x.2 x.1.2).2), x.2)

/-- `sai_fib_router_interface_remove`, on the node of the id. -/
def rifRemoveNode (rif : Rif) (s : Fib) : Status × Fib :=
  if rif.ref_count ≠ 0 then (.objectInUse, s)
  else
    andThen (s.call env (.rifRemove rif)) fun s =>
      let s := rifTreeRemove rif.rif_id (vrfRifListUpdate rif false s).2
      (.success, (rifRoutingConfigUpdate env rif false s).2)

/-- `sai_fib_router_interface_remove` -/
def routerInterfaceRemove (rif_id : Oid) (s : Fib) : Status × Fib :=
  if rif_id.type ≠ .routerInterface then (.invalidObjectType, s)
  else
    match s.rif rif_id with
    | none => (.invalidObjectId, s)
    | some rif =>
      andThen (rifRemoveNode env rif s) fun s =>
        (.success, if rifIsAttachmentLag rif then lagRifMappingRemove rif.attachment s else s)

/-! ## Set -/

/-- `sai_fib_rif_is_attr_mandatory_for_create` -/
def rifIsAttrMandatoryForCreate : RifAttr → Bool
  | .virtualRouterId _ => true
  | .type _ => true
  | .portId _ => true
  | .vlanId _ => true
  | _ => false

/-- `sai_fib_rif_optional_attr_set`, on a record of its own. -/
def rifOptionalAttrSet (s : Fib) (rif : Rif) (attr : RifAttr) : Except Status Rif :=
  (rifAttrFill env s ⟨rif, false, false, false, rif.type, false, false, false⟩ attr).map RifInfo.rif

/-- `sai_fib_router_interface_attribute_set`. Whether the new values clash with those of another
router interface is not looked at. -/
def routerInterfaceAttributeSet (rif_id : Oid) (attr : RifAttr) (s : Fib) : Status × Fib :=
  if rif_id.type ≠ .routerInterface then (.invalidObjectType, s)
  else
    match s.rif rif_id with
    | none => (.invalidObjectId, s)
    | some rif =>
      if rifIsAttrMandatoryForCreate attr then (.invalidAttribute 0, s)
      else if env.status (.rifAttrValidate rif.type attr) ≠ .success then
        (env.status (.rifAttrValidate rif.type attr), s)
      else
        match rifOptionalAttrSet env s rif attr with
        | .error status => (status, s)
        | .ok rif_node_in =>
          -- `sai_fib_rif_is_node_info_duplicate`
          if rif_node_in = rif then (.success, s)
          else
            andThen (s.call env (.rifAttrSet rif_node_in attr)) fun s =>
              (.success, s.modRif rif_id fun _ => rif_node_in)

/-! ## LAG members -/

/-- `sai_rif_lag_member_update` -/
def rifLagMemberUpdate (env : Env) (rif_id lag_id : Oid) (port_list : List Oid) (is_add : Bool)
    (s : Fib) : Status × Fib :=
  if port_list = [] then (.invalidParameter, s)
  else
    match s.rif rif_id with
    | none => (.invalidObjectId, s)
    | some rif =>
      if rif.attachment ≠ lag_id then (.failure, s)
      else
        andThen (s.call env (.rifLagMemberUpdate rif port_list is_add)) fun s =>
          (.success, (portListRoutingModeUpdate env port_list is_add s).2)

/-- `sai_rif_lag_callback`, for ports that are added to or deleted from the LAG. -/
def rifLagCallback (lag_id : Oid) (port_list : List Oid) (is_add : Bool) (s : Fib) : Status × Fib :=
  match getRifIdFromLagId lag_id s with
  | none => (.success, s)
  | some rif_id =>
    if rif_id = .null then (.success, s)
    else rifLagMemberUpdate env rif_id lag_id port_list is_add s

end OpxSai
