import OpxSai.Routing.EncapNextHop
import OpxSai.Routing.NextHopGroup

/-!
# Routing — routes

A route node is in the route tree of its VRF under the radix key of its prefix. The
default routes of a VRF are there from its creation as internal nodes; creating
the default route of a family works in place on that node, and removing it puts
the node back to DROP.
-/

variable (env : Env)

namespace OpxSai

open Fib

/-! ## Attributes -/

/-- `SAI_FIB_ROUTE_MAX_ATTR_COUNT` -/
def fibRouteMaxAttrCount : Nat := 4

/-- `sai_fib_route_input_params_validate` -/
def routeInputParamsValidate (entry : RouteEntry) (attr_count : Nat) : Status :=
  if !entry.destination.familyValid then .invalidParameter
  else if attr_count = 0 ∨ fibRouteMaxAttrCount < attr_count then .invalidParameter
  else .success

/-- `sai_fib_route_nh_id_attr_set`, `sai_fib_route_nh_grp_id_attr_set` and the choice between
them. -/
def routeNhIdAttrSet (oid : Oid) (route : Route) (s : Fib) : Except Status Route :=
  match oid.type with
  | .nextHop =>
    match s.nh_id_tree oid with
    | none => .error (.invalidAttrValue 0)
    | some nh => .ok { route with nh_type := .nextHop, nh_info := some nh }
  | .nextHopGroup =>
    match s.nh_group_tree oid with
    | none => .error (.invalidAttrValue 0)
    | some g => .ok { route with nh_type := .nextHopGroup, nh_info := some g }
  | _ => .error (.invalidAttrValue 0)

/-- The switch of `sai_fib_route_attributes_parse`. -/
def routeAttrSet (s : Fib) (route : Route) (attr : RouteAttr) : Except Status Route :=
  match attr with
  | .nextHopId oid => routeNhIdAttrSet oid route s
  | .packetAction s32 =>
    match packetActionValidate s32 with
    | none => .error (.invalidAttrValue 0)
    | some a => .ok { route with packet_action := a }
  | .trapPriority u8 => .ok { route with trap_priority := u8 }
  | .metaData u32 =>
    if env.status .getRouteMetaDataRange ≠ .success then
      .error (env.status .getRouteMetaDataRange)
    else
      let range := env.meta_range .getRouteMetaDataRange
      if u32 < range.1 ∨ range.2 < u32 then .error (.invalidAttrValue 0)
      else .ok { route with meta_data := u32 }
  | .other _ => .error (.unknownAttribute 0)

/-- `sai_fib_route_attributes_parse` -/
def routeAttributesParse (attr_list : List RouteAttr) (route : Route) (s : Fib) :
    Except Status Route :=
  match attrListParse (routeAttrSet env s) 0 attr_list route with
  | .error status => .error status
  | .ok route =>
    if route.packet_action.isForward ∧ route.nh_type = .none then
      .error .mandatoryAttributeMissing
    else .ok route

/-! ## The route tree -/

/-- `sai_fib_route_entry_ip_prefix_fill` and `sai_fib_route_key_len_get`: the radix key. -/
def RouteEntry.key (entry : RouteEntry) : List Bool :=
  routeKey entry.destination entry.prefix_len

/-- `sai_fib_route_node_get` -/
def routeNodeGet (entry : RouteEntry) (s : Fib) : Option Ptr :=
  (s.vrf entry.vr_id).bind fun vrf => Tree.find vrf.sai_route_tree entry.key

/-- `sai_fib_is_default_route_entry` -/
def isDefaultRouteEntry (entry : RouteEntry) : Bool :=
  entry.destination.isZero && entry.prefix_len = 0

/-- `sai_fib_route_node_init` -/
def routeNodeInit (entry : RouteEntry) : Route :=
  { Route.zero with
    vrf_id := entry.vr_id
    prefix_ip := entry.destination
    prefix_len := entry.prefix_len
    packet_action := .forward }

def Route.setPacketAction (a : PacketAction) (r : Route) : Route := { r with packet_action := a }

def Route.setHwInfo (hw_info : Option Nat) (r : Route) : Route := { r with hw_info := hw_info }

def Route.clearNhType (r : Route) : Route := { r with nh_type := .none }

/-- `sai_fib_route_node_alloc`, and the node written over what it returns. -/
def routeNodeAlloc (route : Route) (s : Fib) : Fib :=
  { s with routes := s.routes.alloc route }

/-- `sai_fib_route_node_free` -/
def routeNodeFree (r : Ptr) (s : Fib) : Fib := { s with routes := s.routes.free r }

/-- `std_radix_insert` into the route tree of a VRF. -/
def vrfRouteTreeInsert (vrf_id : Oid) (key : List Bool) (r : Ptr) (s : Fib) : Fib :=
  s.modVrf vrf_id fun v => { v with sai_route_tree := Tree.insert v.sai_route_tree key r }

/-- `std_radix_remove` from the route tree of a VRF. -/
def vrfRouteTreeRemove (vrf_id : Oid) (key : List Bool) (s : Fib) : Fib :=
  s.modVrf vrf_id fun v => { v with sai_route_tree := Tree.erase v.sai_route_tree key }

/-! ## Reference counts -/

/-- `sai_fib_route_nh_ref_count_incr` -/
def routeNhRefCountIncr (route : Route) (s : Fib) : Fib :=
  match route.nhObj with
  | .nextHop n => s.modNh n Nh.incrRef
  | .nextHopGroup g => s.modGroup g Group.incrRef
  | .none => s

/-- `sai_fib_route_nh_ref_count_decr` -/
def routeNhRefCountDecr (route : Route) (s : Fib) : Fib :=
  match route.nhObj with
  | .nextHop n => s.modNh n Nh.decrRef
  | .nextHopGroup g => s.modGroup g Group.decrRef
  | .none => s

/-! ## Create -/

/-- The NPU call for a route. When it succeeds it may leave a handle in the route. -/
def routeNpuCall (c : ExtCall) (route : Route) (s : Fib) : Status × Route × Fib :=
  let x := s.call env c
  if x.1 = .success then (x.1, route.setHwInfo (env.hw_info c route.hw_info), x.2)
  else (x.1, route, x.2)

/-- The end of `sai_fib_route_create`. -/
def routeCreateFinish (r : Ptr) (s : Fib) : Fib :=
  let s := routeAffectedEncapNhUpdate env r .create s
  encapNhDepRouteAdd r (routeNhRefCountIncr (s.route r) s)

/-- `sai_fib_route_create` for the default route that is in the tree as an internal node. On
an error the node is written back as it was. -/
def routeCreateDefault (attr_list : List RouteAttr) (r : Ptr) (s : Fib) : Status × Fib :=
  match routeAttributesParse env attr_list ((s.route r).setPacketAction .forward) s with
  | .error status => (status, s)
  | .ok route =>
    match routeNpuCall env (.routeCreate route) route s with
    | (.success, route, s) => (.success, routeCreateFinish env r (s.modRoute r fun _ => route))
    | (status, _, s) => (status, s)

/-- `sai_fib_route_create` for a route with a node of its own. When the tree insertion fails
the node is freed by `sai_fib_route_node_insert_to_tree`, and at the exit once more. -/
def routeCreateNew (entry : RouteEntry) (attr_list : List RouteAttr) (s : Fib) : Status × Fib :=
  if !env.avail .routeNode then (.noMemory, s)
  else
    let r := s.routes.next
    let s := routeNodeAlloc (routeNodeInit entry) s
    match routeAttributesParse env attr_list (routeNodeInit entry) s with
    | .error status => (status, routeNodeFree r s)
    | .ok route =>
      match routeNpuCall env (.routeCreate route) route s with
      | (.success, route, s) =>
        let s := s.modRoute r fun _ => route
        if env.avail .routeTree then
          (.success, routeCreateFinish env r (vrfRouteTreeInsert entry.vr_id entry.key r s))
        else (.failure, routeNodeFree r (routeNodeFree r s))
      | (status, _, s) => (status, routeNodeFree r s)

/-- `sai_fib_route_create` -/
def routeCreate (entry : RouteEntry) (attr_list : List RouteAttr) (s : Fib) : Status × Fib :=
  let rc := routeInputParamsValidate entry attr_list.length
  if rc ≠ .success then (rc, s)
  else
    match s.vrf entry.vr_id with
    | none => (.invalidObjectId, s)
    | some _ =>
      match routeNodeGet entry s with
      | none => routeCreateNew env entry attr_list s
      | some r =>
        if !isDefaultRouteEntry entry then (.itemAlreadyExists, s)
        else if (s.route r).hw_info.isSome then (.itemAlreadyExists, s)
        else routeCreateDefault env attr_list r s

/-! ## Remove and set -/

/-- `sai_fib_route_remove`, after the NPU call. What happens to the node goes by the entry of
the request: a default route stays in the tree and is put back to DROP. -/
def routeRemoveNode (entry : RouteEntry) (r : Ptr) (s : Fib) : Fib :=
  let s := if isDefaultRouteEntry entry then s.modRoute r (Route.setPacketAction .drop)
    else vrfRouteTreeRemove entry.vr_id entry.key s
  let s := routeAffectedEncapNhUpdate env r .remove s
  let s := encapNhDepRouteRemove env r s
  let s := routeNhRefCountDecr (s.route r) s
  let s := s.modRoute r Route.clearNhType
  if isDefaultRouteEntry entry then s else routeNodeFree r s

/-- `sai_fib_route_remove` -/
def routeRemove (env : Env) (entry : RouteEntry) (s : Fib) : Status × Fib :=
  if !entry.destination.familyValid then (.invalidParameter, s)
  else
    match s.vrf entry.vr_id with
    | none => (.invalidObjectId, s)
    | some _ =>
      match routeNodeGet entry s with
      | none => (.itemNotFound, s)
      | some r =>
        match routeNpuCall env (.routeRemove (s.route r)) (s.route r) s with
        | (.success, route, s) =>
          (.success, routeRemoveNode env entry r (s.modRoute r fun _ => route))
        | (status, _, s) => (status, s)

/-- `sai_fib_route_attribute_set`, after the NPU call: `route_node_in` is the copy with the
new values. -/
def routeAttributeCommit (r : Ptr) (route_node_in : Route) (s : Fib) : Fib :=
  let nh_info_set := !routeIsNhInfoMatch (s.route r) route_node_in
  let s := if nh_info_set then
      encapNhDepRouteRemove env r (routeNhRefCountDecr (s.route r) s)
    else s
  let s := routeAttrSetAffectedEncapNhUpdate env r route_node_in s
  let s := s.modRoute r fun _ => route_node_in
  if nh_info_set then encapNhDepRouteAdd r (routeNhRefCountIncr (s.route r) s) else s

/-- `sai_fib_route_attribute_set` -/
def routeAttributeSet (entry : RouteEntry) (attr : RouteAttr) (s : Fib) : Status × Fib :=
  let rc := routeInputParamsValidate entry 1
  if rc ≠ .success then (rc, s)
  else
    match s.vrf entry.vr_id with
    | none => (.invalidObjectId, s)
    | some _ =>
      match routeNodeGet entry s with
      | none => (.itemNotFound, s)
      | some r =>
        match routeAttributesParse env [attr] (s.route r) s with
        | .error status => (status, s)
        | .ok route_node_in =>
          match routeNpuCall env (.routeAttrSet route_node_in) route_node_in s with
          | (.success, route_node_in, s) => (.success, routeAttributeCommit env r route_node_in s)
          | (status, _, s) => (status, s)

/-! ## Internal default routes -/

def defaultRouteEntry (vr_id : Oid) (af : IpAddress) : RouteEntry := ⟨vr_id, af, 0⟩

def IpAddress.zero4 : IpAddress := .ip4 0

def IpAddress.zero6 : IpAddress := .ip6 0

/-- The node `sai_fib_internal_default_route_node_add` puts into the tree. -/
def internalDefaultRoute (vr_id : Oid) (af : IpAddress) : Route :=
  (routeNodeInit (defaultRouteEntry vr_id af)).setPacketAction .drop

/-- `sai_fib_internal_default_route_node_add`. The tree takes no second node for a key; it
hands back the one it has, which the code takes for success. -/
def internalDefaultRouteNodeAdd (env : Env) (vr_id : Oid) (af : IpAddress) (s : Fib) :
    Status × Fib :=
  if !env.avail (.defaultRouteNode af.family) then (.noMemory, s)
  else
    let r := s.routes.next
    let s := routeNodeAlloc (internalDefaultRoute vr_id af) s
    if !env.avail (.defaultRouteTree af.family) then (.failure, routeNodeFree r s)
    else
      match routeNodeGet (defaultRouteEntry vr_id af) s with
      | some _ => (.success, s)
      | none => (.success, vrfRouteTreeInsert vr_id (defaultRouteEntry vr_id af).key r s)

/-- `sai_fib_internal_default_route_node_del` -/
def internalDefaultRouteNodeDel (vr_id : Oid) (af : IpAddress) (s : Fib) : Status × Fib :=
  match routeNodeGet (defaultRouteEntry vr_id af) s with
  | none => (.itemNotFound, s)
  | some r =>
    (.success, routeNodeFree r (vrfRouteTreeRemove vr_id (defaultRouteEntry vr_id af).key s))

end OpxSai
