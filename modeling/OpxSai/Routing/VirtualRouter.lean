import OpxSai.Routing.Route

/-!
# Routing — virtual routers

A virtual router owns a next hop tree and a route tree. The route tree starts with
the two internal default routes; `virtualRouterRemove` takes them out before it
looks whether the virtual router is in use, and puts fresh ones in when it is.
-/

variable (env : Env)

namespace OpxSai

open Fib

/-! ## Attributes -/

/-- `SAI_FIB_VRF_MAX_ATTR_COUNT` -/
def fibVrfMaxAttrCount : Nat := 5

/-- `sai_fib_vrf_attributes_init`, on the record after `memset`. -/
def vrfAttributesInit : Vrf where
  vrf_id := .null
  v4_admin_state := env.dflt.v4_admin_state
  v6_admin_state := env.dflt.v6_admin_state
  src_mac := env.switch_mac
  ip_options_pkt_action := env.dflt.ip_options_pkt_action
  ttl0_1_pkt_action := env.dflt.ttl0_1_pkt_action
  num_rif := 0
  sai_nh_tree := []
  sai_route_tree := []

/-- The switch of `sai_fib_vrf_attributes_parse`, before the NPU validates the attribute. -/
def vrfAttrFill (vrf : Vrf) (attr : VrAttr) : Except Status Vrf :=
  match attr with
  | .srcMacAddress mac =>
    if mac = 0 then .error (.invalidAttrValue 0) else .ok { vrf with src_mac := mac }
  | .adminV4State booldata => .ok { vrf with v4_admin_state := booldata }
  | .adminV6State booldata => .ok { vrf with v6_admin_state := booldata }
  | .violationTtl1PacketAction s32 =>
    match packetActionValidate s32 with
    | none => .error (.invalidAttrValue 0)
    | some a => .ok { vrf with ttl0_1_pkt_action := a }
  | .violationIpOptionsPacketAction s32 =>
    match packetActionValidate s32 with
    | none => .error (.invalidAttrValue 0)
    | some a => .ok { vrf with ip_options_pkt_action := a }
  | .unknownL3MulticastPacketAction => .error (.attrNotImplemented 0)
  | .other _ => .error (.unknownAttribute 0)

/-- The body of the loop of `sai_fib_vrf_attributes_parse`. -/
def vrfAttrSet (vrf : Vrf) (attr : VrAttr) : Except Status Vrf :=
  match vrfAttrFill vrf attr with
  | .error status => .error status
  | .ok vrf =>
    if env.status (.vrAttrValidate attr) ≠ .success then .error (env.status (.vrAttrValidate attr))
    else .ok vrf

/-- `sai_fib_vrf_attributes_parse` -/
def vrfAttributesParse (attr_list : List VrAttr) (vrf : Vrf) : Except Status Vrf :=
  match attrListParse (vrfAttrSet env) 0 attr_list vrf with
  | .error status => .error status
  | .ok vrf => if vrf.src_mac = 0 then .error .addrNotFound else .ok vrf

/-! ## The trees -/

/-- The order of route keys in the radix tree: bit by bit, a prefix before what it covers. -/
def routeKeyRank (key : List Bool) : List Nat := key.map fun b => if b then 1 else 0

/-- `sai_fib_vrf_is_nh_tree_empty`: no next hop at the zeroed key or behind it. -/
def vrfIsNhTreeEmpty (vrf : Vrf) : Bool :=
  (Tree.find vrf.sai_nh_tree Nh.zero.key).isNone &&
    (Tree.getNext NhKey.rank vrf.sai_nh_tree Nh.zero.key).isNone

/-- `sai_fib_vrf_is_route_tree_empty`: no route at the zeroed key or behind it. -/
def vrfIsRouteTreeEmpty (vrf : Vrf) : Bool :=
  let key := routeKey (.ip4 0) 0
  (Tree.find vrf.sai_route_tree key).isNone &&
    (Tree.getNext routeKeyRank vrf.sai_route_tree key).isNone

/-- `sai_fib_vrf_default_route_add`; what becomes of the nodes is not looked at. -/
def vrfDefaultRouteAdd (vr_id : Oid) (s : Fib) : Fib :=
  (internalDefaultRouteNodeAdd env vr_id .zero6
    (internalDefaultRouteNodeAdd env vr_id .zero4 s).2).2

/-- `sai_fib_vrf_default_route_del` -/
def vrfDefaultRouteDel (vr_id : Oid) (s : Fib) : Fib :=
  (internalDefaultRouteNodeDel vr_id .zero6 (internalDefaultRouteNodeDel vr_id .zero4 s).2).2

/-- `std_rbtree_insert` and `std_rbtree_remove` on the tree of virtual routers. -/
def vrfTreeSet (vr_id : Oid) (vrf : Option Vrf) (s : Fib) : Fib :=
  { s with vrf_tree := fun v => if v = vr_id then vrf else s.vrf_tree v }

/-! ## Create and remove -/

/-- `sai_fib_virtual_router_create`, after the NPU call. -/
def virtualRouterCreateNode (vrf : Vrf) (s : Fib) : Status × Fib :=
  if !env.avail .vrfNhTreeRoot || !env.avail .vrfRouteTreeRoot then
    (.noMemory, (s.call env (.vrRemove vrf)).2)
  else if (s.vrf vrf.vrf_id).isSome || !env.avail .vrfTree then
    (.failure, (s.call env (.vrRemove vrf)).2)
  else (.success, vrfDefaultRouteAdd env vrf.vrf_id (vrfTreeSet vrf.vrf_id (some vrf) s))

/-- `sai_fib_virtual_router_create`, with the id it returns. -/
def virtualRouterCreate (attr_list : List VrAttr) (s : Fib) : (Status × Fib) × Option Oid :=
  if fibVrfMaxAttrCount < attr_list.length then ((.invalidParameter, s), none)
  else if !env.avail .vrfNode then ((.noMemory, s), none)
  else
    match vrfAttributesParse env attr_list (vrfAttributesInit env) with
    | .error status => ((status, s), none)
    | .ok vrf =>
      let x := s.call env (.vrCreate vrf)
      if x.1 ≠ .success then (x, none)
      else
        let vr_id := uoidCreate .virtualRouter env.hw_id
        (virtualRouterCreateNode env { vrf with vrf_id := vr_id } x.2, some vr_id)

/-- `sai_fib_virtual_router_remove`, after the default routes are gone: the checks, and the
removal when none of them objects. -/
def virtualRouterRemoveNode (vrf : Vrf) (s : Fib) : Status × Fib :=
  if vrf.num_rif ≠ 0 then (.objectInUse, s)
  else if !vrfIsNhTreeEmpty vrf then (.objectInUse, s)
  else if !vrfIsRouteTreeEmpty vrf then (.objectInUse, s)
  else
    andThen (s.call env (.vrRemove vrf)) fun s => (.success, vrfTreeSet vrf.vrf_id none s)

/-- `sai_fib_virtual_router_remove` -/
def virtualRouterRemove (vr_id : Oid) (s : Fib) : Status × Fib :=
  if vr_id.type ≠ .virtualRouter then (.invalidObjectType, s)
  else
    match s.vrf vr_id with
    | none => (.invalidObjectId, s)
    | some vrf =>
      let s := vrfDefaultRouteDel vr_id s
      -- the node is the same one, its tree has changed
      let x := virtualRouterRemoveNode env ((s.vrf vr_id).getD vrf) s
      if x.1 = .success ∨ x.1 = .invalidObjectId then x
      else (x.1, vrfDefaultRouteAdd env vr_id x.2)

/-- `sai_fib_vrf_rif_list_update` -/
def vrfRifListUpdate (rif : Rif) (is_add : Bool) (s : Fib) : Status × Fib :=
  match s.vrf rif.vrf_id with
  | none => (.failure, s)
  | some _ =>
    (.success, s.modVrf rif.vrf_id fun v =>
      { v with num_rif := if is_add then v.num_rif + 1 else v.num_rif - 1 })

end OpxSai
