import OpxSai.Routing.State

/-!
# Routing — tunnel encap next hops

A tunnel encap next hop is resolved in the underlay VRF of its tunnel, either
over a neighbor with its IP address or over the longest matching route. The
nodes it depends on carry it on their dependent lists, so that a change of a
route, a neighbor or a group member finds it.
-/

variable (env : Env)

namespace OpxSai

open Fib

/-- `dn_sai_operations_t`, as far as the routing module uses it. -/
inductive Operation where
  | create | remove
deriving DecidableEq

/-- `std_dll_remove` of the link of `x`. -/
def dllRemove (l : List Ptr) (x : Ptr) : List Ptr :=
  if x ∈ l then l.erase x else env.unlink_absent l x

/-! ## The fields that resolution writes -/

def Nh.addDepEncapNh (e : Ptr) (n : Nh) : Nh :=
  { n with dep_encap_nh_list := n.dep_encap_nh_list ++ [e] }

def Nh.removeDepEncapNh (e : Ptr) (n : Nh) : Nh :=
  { n with dep_encap_nh_list := n.dep_encap_nh_list.erase e }

def Nh.setPacketAction (a : PacketAction) (n : Nh) : Nh := { n with packet_action := a }

def Nh.setLpmRoute (r : Option Ptr) (n : Nh) : Nh := { n with lpm_route := r }

def Nh.setNeighbor (m : Option Ptr) (n : Nh) : Nh := { n with neighbor := m }

def Nh.addDepRoute (r : Ptr) (n : Nh) : Nh :=
  { n with dep_route_list := n.dep_route_list ++ [r] }

def Nh.removeDepRoute (r : Ptr) (n : Nh) : Nh :=
  { n with dep_route_list := dllRemove env n.dep_route_list r }

def Group.addDepEncapNh (e : Ptr) (g : Group) : Group :=
  { g with dep_encap_nh_list := g.dep_encap_nh_list ++ [e] }

def Group.removeDepEncapNh (e : Ptr) (g : Group) : Group :=
  { g with dep_encap_nh_list := dllRemove env g.dep_encap_nh_list e }

def Route.addDepEncapNh (e : Ptr) (r : Route) : Route :=
  { r with dep_encap_nh_list := r.dep_encap_nh_list ++ [e] }

def Route.removeDepEncapNh (e : Ptr) (r : Route) : Route :=
  { r with dep_encap_nh_list := dllRemove env r.dep_encap_nh_list e }

def Tunnel.addEncapNh (e : Ptr) (t : Tunnel) : Tunnel :=
  { t with tunnel_encap_nh_list := t.tunnel_encap_nh_list ++ [e] }

def Tunnel.removeEncapNh (e : Ptr) (t : Tunnel) : Tunnel :=
  { t with tunnel_encap_nh_list := dllRemove env t.tunnel_encap_nh_list e }

/-! ## Adding to and removing from the dependent lists of underlay objects -/

/-- `sai_fib_encap_next_hop_add_to_underlay_nh` -/
def encapNextHopAddToUnderlayNh (encap_nh underlay_nh : Ptr) (s : Fib) : Status × Fib :=
  if encap_nh ∈ (s.nh underlay_nh).dep_encap_nh_list then (.success, s)
  else if env.avail (.encapLink encap_nh underlay_nh) then
    (.success, s.modNh underlay_nh (Nh.addDepEncapNh encap_nh))
  else (.noMemory, s)

/-- `sai_fib_encap_next_hop_remove_from_underlay_nh`: the first link found, if any. -/
def encapNextHopRemoveFromUnderlayNh (encap_nh underlay_nh : Ptr) (s : Fib) : Fib :=
  s.modNh underlay_nh (Nh.removeDepEncapNh encap_nh)

/-- `sai_fib_encap_next_hop_add_to_underlay_nhg`. The status is that of the last next hop. -/
def encapNextHopAddToUnderlayNhg (encap_nh nh_group : Ptr) (s : Fib) : Status × Fib :=
  let s := s.modGroup nh_group (Group.addDepEncapNh encap_nh)
  ((s.group nh_group).nh_list.map WLink.self).foldl
    (fun x nh => encapNextHopAddToUnderlayNh env encap_nh nh x.2) (.success, s)

/-- `sai_fib_encap_next_hop_remove_from_underlay_nhg` -/
def encapNextHopRemoveFromUnderlayNhg (encap_nh nh_group : Ptr) (s : Fib) : Fib :=
  let s := s.modGroup nh_group (Group.removeDepEncapNh env encap_nh)
  ((s.group nh_group).nh_list.map WLink.self).foldl
    (fun s nh => encapNextHopRemoveFromUnderlayNh encap_nh nh s) s

/-- The node a route forwards to: none unless its action is FORWARD or LOG. -/
def Route.fwdObj (r : Route) : RouteNhObj :=
  if r.packet_action.isForward then r.nhObj else .none

/-- `sai_fib_encap_next_hop_add_to_underlay_route_nh` -/
def encapNextHopAddToUnderlayRouteNh (encap_nh : Ptr) (route : Route) (s : Fib) : Status × Fib :=
  match route.fwdObj with
  | .nextHopGroup g => encapNextHopAddToUnderlayNhg env encap_nh g s
  | .nextHop n => encapNextHopAddToUnderlayNh env encap_nh n s
  | .none => (.success, s)

/-- `sai_fib_encap_next_hop_remove_from_underlay_route_nh` -/
def encapNextHopRemoveFromUnderlayRouteNh (encap_nh : Ptr) (route : Route) (s : Fib) : Fib :=
  match route.fwdObj with
  | .nextHopGroup g => encapNextHopRemoveFromUnderlayNhg env encap_nh g s
  | .nextHop n => encapNextHopRemoveFromUnderlayNh encap_nh n s
  | .none => s

/-- The first half of `sai_fib_encap_next_hop_remove_from_underlay_obj`. -/
def encapNextHopRemoveFromNeighbor (encap_nh : Ptr) (s : Fib) : Fib :=
  match (s.nh encap_nh).neighbor with
  | none => s
  | some n => (encapNextHopRemoveFromUnderlayNh encap_nh n s).modNh encap_nh (Nh.setNeighbor none)

/-- The second half of `sai_fib_encap_next_hop_remove_from_underlay_obj`. -/
def encapNextHopRemoveFromLpmRoute (encap_nh : Ptr) (s : Fib) : Fib :=
  match (s.nh encap_nh).lpm_route with
  | none => s
  | some r =>
    ((encapNextHopRemoveFromUnderlayRouteNh env encap_nh (s.route r) s).modRoute r
      (Route.removeDepEncapNh env encap_nh)).modNh encap_nh (Nh.setLpmRoute none)

/-- `sai_fib_encap_next_hop_remove_from_underlay_obj` -/
def encapNextHopRemoveFromUnderlayObj (encap_nh : Ptr) (s : Fib) : Fib :=
  encapNextHopRemoveFromLpmRoute env encap_nh (encapNextHopRemoveFromNeighbor encap_nh s)

/-! ## Resolution -/

/-- `sai_fib_encap_nh_dep_routes_add_to_changelist` -/
def encapNhDepRoutesAddToChangelist (encap_nh : Ptr) (s : Fib) : Fib :=
  (s.nh encap_nh).dep_route_list.foldl
    (fun s r => (s.call env (.appendToChangelist (s.route r).vrf_id r)).2) s

/-- The part of `sai_fib_encap_nh_lpm_route_attr_set` after the NPU call: leave the next hop
objects of the old route, join those of the new one. -/
def encapNhUnderlaySwap (encap_nh : Ptr) (old_route : Option Ptr)
    (new_route_info : Route) (s : Fib) : Status × Fib :=
  let s := match old_route with
    | some r => encapNextHopRemoveFromUnderlayRouteNh env encap_nh (s.route r) s
    | none => s
  andThen (encapNextHopAddToUnderlayRouteNh env encap_nh new_route_info s) fun s =>
    (.success, encapNhDepRoutesAddToChangelist env encap_nh s)

/-- The test at the head of `sai_fib_encap_nh_lpm_route_attr_set`: nothing changes. -/
def encapNhRouteUnchanged (encap_nh : Ptr) (new_route_info : Route) (s : Fib) : Bool :=
  (s.nh encap_nh).packet_action = new_route_info.packet_action &&
    match (s.nh encap_nh).lpm_route with
    | some r => routeIsNhInfoMatch new_route_info (s.route r)
    | none => false

/-- `sai_fib_encap_nh_lpm_route_attr_set` -/
def encapNhLpmRouteAttrSet (encap_nh : Ptr) (new_route_info : Route) (s : Fib) : Status × Fib :=
  let old_route := (s.nh encap_nh).lpm_route
  if encapNhRouteUnchanged encap_nh new_route_info s then (.success, s)
  else
    let s := s.modNh encap_nh (Nh.setPacketAction new_route_info.packet_action)
    andThen (s.call env (.encapNhRouteResolve encap_nh new_route_info)) fun s =>
      encapNhUnderlaySwap env encap_nh old_route new_route_info s

def encapNhLpmRouteMove (encap_nh : Ptr) (old_route : Option Ptr) (new_route : Ptr) (s : Fib) : Fib :=
  let s := s.modNh encap_nh (Nh.setLpmRoute (some new_route))
  let s := match old_route with
    | some r => s.modRoute r (Route.removeDepEncapNh env encap_nh)
    | none => s
  s.modRoute new_route (Route.addDepEncapNh encap_nh)

/-- `sai_fib_encap_nh_lpm_route_resolve` -/
def encapNhLpmRouteResolve (vrf : Vrf) (encap_nh : Ptr) (s : Fib) : Status × Fib :=
  let old_route := (s.nh encap_nh).lpm_route
  match Tree.getBest vrf.sai_route_tree (s.nh encap_nh).key.ip_addr.bits with
  | none => (.failure, s)
  | some (_, new_route) =>
    if old_route = some new_route then (.success, s)
    else
      andThen (encapNhLpmRouteAttrSet env encap_nh (s.route new_route) s) fun s =>
        (.success, encapNhLpmRouteMove env encap_nh old_route new_route s)

/-- The next hops of type `nh_type` and later in the tree with the given address: the walk
with `std_radix_getnext` from the key that has zeros behind the address. -/
def nhTreeIpWalk (vrf : Vrf) (nh_type : NextHopType) (ip : IpAddress) : List Ptr :=
  (Tree.walk NhKey.rank (fun k => k.ip_addr = ip) vrf.sai_nh_tree
    ⟨nh_type, ip, .null, 0⟩).map Prod.snd

/-- `sai_fib_encap_nh_neighbor_find` -/
def encapNhNeighborFind (vrf : Vrf) (encap_nh : Ptr) (s : Fib) : Option Ptr :=
  (nhTreeIpWalk vrf .ip (s.nh encap_nh).key.ip_addr).find? fun n =>
    (s.nh n).owner_flag.neighbor

/-- `sai_fib_encap_nh_neighbor_resolve`. The status of the list insertion is not looked at. -/
def encapNhNeighborResolve (env : Env) (encap_nh neighbor : Ptr) (s : Fib) : Status × Fib :=
  let s := s.modNh encap_nh (Nh.setPacketAction (s.nh neighbor).packet_action)
  andThen (s.call env (.encapNhNeighborResolve encap_nh neighbor)) fun s =>
    let s := s.modNh encap_nh (Nh.setNeighbor (some neighbor))
    let s := (encapNextHopAddToUnderlayNh env encap_nh neighbor s).2
    (.success, encapNhDepRoutesAddToChangelist env encap_nh s)

/-- `sai_fib_encap_nh_underlay_obj_resolve` -/
def encapNhUnderlayObjResolve (encap_nh : Ptr) (s : Fib) : Status × Fib :=
  match s.vrf (s.tunnelUnderlayVr (s.nh encap_nh).tunnel_id) with
  | none => (.itemNotFound, s)
  | some vrf =>
    match encapNhNeighborFind vrf encap_nh s with
    | some neighbor => encapNhNeighborResolve env encap_nh neighbor s
    | none => encapNhLpmRouteResolve env vrf encap_nh s

/-! ## Routes over an encap next hop -/

def routeEncapNh (route : Route) (s : Fib) : Option Ptr :=
  match route.nhObj with
  | .nextHop n => if (s.nh n).isTunnelEncap then some n else none
  | _ => none

/-- `sai_fib_encap_nh_dep_route_add` -/
def encapNhDepRouteAdd (r : Ptr) (s : Fib) : Fib :=
  match routeEncapNh (s.route r) s with
  | some n => s.modNh n (Nh.addDepRoute r)
  | none => s

/-- `sai_fib_encap_nh_dep_route_remove` -/
def encapNhDepRouteRemove (r : Ptr) (s : Fib) : Fib :=
  match routeEncapNh (s.route r) s with
  | some n => s.modNh n (Nh.removeDepRoute env r)
  | none => s

/-! ## Updates after a change elsewhere -/

/-- `sai_fib_route_attr_set_affected_encap_nh_update`. The C loop takes the next element
before it works on the current one; the list does not change in it. -/
def routeAttrSetAffectedEncapNhUpdate (r : Ptr) (new_route_info : Route) (s : Fib) : Fib :=
  match s.vrf (s.route r).vrf_id with
  | none => s
  | some _ =>
    (s.route r).dep_encap_nh_list.foldl
      (fun s e => (encapNhLpmRouteAttrSet env e new_route_info s).2) s

/-- The inner loop of `sai_fib_route_create_affected_encap_nh_update`, over the list as it is
at the start: the body takes the current element off, and the next one was read before. -/
def lessSpecificEncapNhUpdate (vrf : Vrf) (new_route : Route) (less_specific : Ptr) (s : Fib) : Fib :=
  (s.route less_specific).dep_encap_nh_list.foldl
    (fun s e =>
      if fibIsIpAddrInPrefix new_route.prefix_ip new_route.prefix_len (s.nh e).key.ip_addr
      then (encapNhLpmRouteResolve env vrf e s).2 else s) s

/-- `sai_fib_route_create_affected_encap_nh_update` -/
def routeCreateAffectedEncapNhUpdate (new_route : Ptr) (s : Fib) : Fib :=
  let route := s.route new_route
  match s.vrf route.vrf_id with
  | none => s
  | some vrf =>
    ((Tree.lessSpecifics vrf.sai_route_tree
        (routeKey route.prefix_ip route.prefix_len)).map Prod.snd).foldl
      (fun s p => lessSpecificEncapNhUpdate env vrf route p s) s

/-- `sai_fib_route_del_affected_encap_nh_update` -/
def routeDelAffectedEncapNhUpdate (r : Ptr) (s : Fib) : Fib :=
  match s.vrf (s.route r).vrf_id with
  | none => s
  | some vrf =>
    (s.route r).dep_encap_nh_list.foldl
      (fun s e => (encapNhLpmRouteResolve env vrf e s).2) s

/-- `sai_fib_route_affected_encap_nh_update` -/
def routeAffectedEncapNhUpdate (r : Ptr) (op : Operation) (s : Fib) : Fib :=
  -- the default route stays in the tree, so its dependents only take over its new values
  if (s.route r).isDefault then routeAttrSetAffectedEncapNhUpdate env r (s.route r) s
  else match op with
    | .create => routeCreateAffectedEncapNhUpdate env r s
    | .remove => routeDelAffectedEncapNhUpdate env r s

/-- The body of the loop of `sai_fib_neighbor_affected_encap_nh_resolve`. -/
def neighborAffectedEncapNhStep (vrf : Vrf) (neighbor : Ptr) (op : Operation)
    (s : Fib) (encap_nh : Ptr) : Fib :=
  let s := encapNextHopRemoveFromUnderlayObj env encap_nh s
  match op with
  | .create => (encapNhNeighborResolve env encap_nh neighbor s).2
  | .remove =>
    let s := s.modNh encap_nh (Nh.setNeighbor none)
    (encapNhLpmRouteResolve env vrf encap_nh s).2

/-- `sai_fib_neighbor_affected_encap_nh_resolve` -/
def neighborAffectedEncapNhResolve (neighbor : Ptr) (op : Operation) (s : Fib) : Fib :=
  match s.vrf (s.nh neighbor).vrf_id with
  | none => s
  | some vrf =>
    (nhTreeIpWalk vrf .tunnelEncap (s.nh neighbor).key.ip_addr).foldl
      (neighborAffectedEncapNhStep env vrf neighbor op) s

/-- `sai_fib_neighbor_dep_encap_nh_list_update` -/
def neighborDepEncapNhListUpdate (neighbor : Ptr) (attr_info : Nh)
    (flags : NeighborFlags) (s : Fib) : Fib :=
  (s.nh neighbor).dep_encap_nh_list.foldl
    (fun s e => (s.call env (.encapNhNeighborAttrSet e neighbor attr_info flags)).2) s

/-- `sai_fib_nh_group_dep_encap_nh_update` -/
def nhGroupDepEncapNhUpdate (nh_group underlay_nh : Ptr) (is_add : Bool) (s : Fib) : Fib :=
  (s.group nh_group).dep_encap_nh_list.foldl
    (fun s e =>
      if is_add then (encapNextHopAddToUnderlayNh env e underlay_nh s).2
      else encapNextHopRemoveFromUnderlayNh e underlay_nh s) s

/-! ## Create and remove -/

/-- `dn_sai_tunnel_encap_nh_add_to_tunnel_list` -/
def tunnelEncapNhAddToTunnelList (encap_nh : Ptr) (s : Fib) : Fib :=
  s.modTunnel (s.nh encap_nh).tunnel_id (Tunnel.addEncapNh encap_nh)

/-- `dn_sai_tunnel_encap_nh_remove_from_tunnel_list` -/
def tunnelEncapNhRemoveFromTunnelList (encap_nh : Ptr) (s : Fib) : Fib :=
  s.modTunnel (s.nh encap_nh).tunnel_id (Tunnel.removeEncapNh env encap_nh)

/-- `sai_fib_encap_next_hop_create` -/
def encapNextHopCreate (encap_nh : Ptr) (s : Fib) : Status × Fib :=
  andThen (s.call env (.nexthopCreate (s.nh encap_nh))) fun s =>
    let x := encapNhUnderlayObjResolve env encap_nh s
    if x.1 = .success then (.success, tunnelEncapNhAddToTunnelList encap_nh x.2)
    else (x.1, (x.2.call env (.nexthopRemove (x.2.nh encap_nh))).2)

/-- `sai_fib_encap_next_hop_remove` -/
def encapNextHopRemove (encap_nh : Ptr) (s : Fib) : Status × Fib :=
  andThen (s.call env (.nexthopRemove (s.nh encap_nh))) fun s =>
    (.success, tunnelEncapNhRemoveFromTunnelList env encap_nh
      (encapNextHopRemoveFromUnderlayObj env encap_nh s))

end OpxSai
