import Mathlib.Data.List.OfFn
import OpxSai.Common.Object
import OpxSai.Lib.WeightedList

/-!
# Routing — data model

The records of the L3 module: next hop nodes (shared by next hops, neighbors
and tunnel encap next hops), next hop groups, routes, virtual routers and router
interfaces, with the attribute lists the API hands in.

`ExtCall` lists every call the module makes into the NPU library and into the
other SAI modules, with the data it passes. `Env` is what these calls answer
during one API call, together with the allocations and tree insertions that
succeed.
-/

namespace OpxSai
variable {Attr Info : Type} {set : Info → Attr → Except Status Info} {attr_list : List Attr}
variable {i : Nat} {info : Info}

/-! ## Status codes -/

/-- `sai_fib_attr_status_code_get`: put the list index into an attribute code. -/
def fibAttrStatusCodeGet : Status → Nat → Status
  | .invalidAttribute _, i => .invalidAttribute i
  | .invalidAttrValue _, i => .invalidAttrValue i
  | .attrNotImplemented _, i => .attrNotImplemented i
  | .unknownAttribute _, i => .unknownAttribute i
  | .attrNotSupported _, i => .attrNotSupported i
  | rc, _ => rc

/-! ## Addresses and prefixes -/

/-- `sai_mac_t` -/
abbrev Mac := BitVec 48

/-- `sai_ip_address_t`, the address in network byte order. `other` is an address
family that is neither IPv4 nor IPv6. -/
inductive IpAddress where
  | ip4 (addr : BitVec 32)
  | ip6 (addr : BitVec 128)
  | other (family : Nat)
deriving DecidableEq

namespace IpAddress

/-- The address as a radix key: a family mark, then the bits from the first to the last. -/
def bits : IpAddress → List Bool
  | ip4 a => false :: List.ofFn fun i : Fin 32 => a.getMsbD i
  | ip6 a => true :: List.ofFn fun i : Fin 128 => a.getMsbD i
  | other _ => []

/-- `sai_fib_is_ip_addr_zero` -/
def isZero : IpAddress → Bool
  | ip4 a => a = 0
  | ip6 a => a = 0
  | other _ => false

/-- `sai_fib_is_ip_addr_loopback`: 127.0.0.0/8 and ::1. -/
def isLoopback : IpAddress → Bool
  | ip4 a => a.toNat / 2 ^ 24 = 127
  | ip6 a => a = 1
  | other _ => false

def familyValid : IpAddress → Bool
  | other _ => false
  | _ => true

/-- A number for each address family, the order of keys in a radix tree. -/
def family : IpAddress → Nat
  | ip4 _ => 0
  | ip6 _ => 1
  | other f => f + 2

def toNat : IpAddress → Nat
  | ip4 a => a.toNat
  | ip6 a => a.toNat
  | other _ => 0

end IpAddress

/-- The radix key of a prefix: `sai_fib_route_key_len_get` counts the family and
the first `prefix_len` bits. -/
def routeKey (ip : IpAddress) (prefix_len : Nat) : List Bool :=
  ip.bits.take (prefix_len + 1)

/-- `sai_fib_is_ip_addr_in_prefix`, with the mask of `prefix_len`. -/
def fibIsIpAddrInPrefix ( prefix_ip : IpAddress) (prefix_len : Nat) (ip : IpAddress) : Bool :=
  decide (routeKey prefix_ip prefix_len = routeKey ip prefix_len)

/-! ## Packet actions -/

/-- `sai_packet_action_t` -/
inductive PacketAction where
  | drop | forward | copy | copyCancel | trap | log | deny | transit
deriving DecidableEq

/-- `sai_packet_action_validate`, together with the cast from the attribute's `s32`. -/
def packetActionValidate : Int → Option PacketAction
  | 0 => some .drop
  | 1 => some .forward
  | 2 => some .copy
  | 3 => some .copyCancel
  | 4 => some .trap
  | 5 => some .log
  | 6 => some .deny
  | 7 => some .transit
  | _ => none

/-- `sai_fib_is_neighbor_action_forward`; routes make the same test inline. -/
def PacketAction.isForward (a : PacketAction) : Bool :=
  a = .forward || a = .log

/-! ## Next hop nodes -/

/-- `sai_next_hop_type_t`, the two types the module accepts. -/
inductive NextHopType where
  | ip | tunnelEncap
deriving DecidableEq

/-- `SAI_FIB_TUNNEL_TYPE_NONE` -/
def fibTunnelTypeNone : Nat := 0

/-- `sai_fib_nh_key_t` -/
structure NhKey where
  nh_type : NextHopType
  ip_addr : IpAddress
  rif_id : Oid
  tunnel_type : Nat
deriving DecidableEq

def NhKey.rank (k : NhKey) : List Nat :=
  [match k.nh_type with | .ip => 0 | .tunnelEncap => 1, k.ip_addr.family, k.ip_addr.toNat,
    k.rif_id.type.toNat, k.rif_id.id, k.tunnel_type]

/-- `owner_flag`: one bit for each of the two owners of a node. -/
structure OwnerFlag where
  next_hop : Bool
  neighbor : Bool
deriving DecidableEq

def OwnerFlag.isZero (f : OwnerFlag) : Bool := !f.next_hop && !f.neighbor

/-- `sai_fib_nh_t` -/
structure Nh where
  key : NhKey
  vrf_id : Oid
  next_hop_id : Oid
  owner_flag : OwnerFlag
  mac_addr : Mac
  packet_action : PacketAction
  port_id : Oid
  port_unresolved : Bool
  no_host_route : Bool
  meta_data : Nat
  ref_count : Nat
  nh_group_list : List (WLink Ptr)
  dep_encap_nh_list : List Ptr
  dep_route_list : List Ptr
  tunnel_id : Oid
  lpm_route : Option Ptr
  neighbor : Option Ptr
deriving DecidableEq

/-- `sai_fib_is_tunnel_encap_next_hop` -/
def Nh.isTunnelEncap (n : Nh) : Bool := n.key.nh_type = .tunnelEncap

/-- A node after `memset (.., 0, ..)`. The zero of `packet_action` is DROP. -/
def Nh.zero : Nh where
  key := ⟨.ip, .ip4 0, .null, 0⟩
  vrf_id := .null
  next_hop_id := .null
  owner_flag := ⟨false, false⟩
  mac_addr := 0
  packet_action := .drop
  port_id := .null
  port_unresolved := false
  no_host_route := false
  meta_data := 0
  ref_count := 0
  nh_group_list := []
  dep_encap_nh_list := []
  dep_route_list := []
  tunnel_id := .null
  lpm_route := none
  neighbor := none

/-! ## Groups, routes, virtual routers, router interfaces -/

/-- `sai_next_hop_group_type_t`: ECMP is the one valid type. -/
inductive GroupType where
  | ecmp
deriving DecidableEq

/-- `sai_fib_nh_group_t` -/
structure Group where
  group_id : Oid
  type : GroupType
  nh_list : List (WLink Ptr)
  nh_count : Nat
  ref_count : Nat
  dep_encap_nh_list : List Ptr
deriving DecidableEq

/-- The node `sai_fib_next_hop_group_create` allocates. -/
def Group.zero : Group where
  group_id := .null
  type := .ecmp
  nh_list := []
  nh_count := 0
  ref_count := 0
  dep_encap_nh_list := []

/-- `nh_type` of a route: `SAI_FIB_ROUTE_NH_TYPE_NONE` or the type of its object. -/
inductive RouteNhType where
  | none | nextHop | nextHopGroup
deriving DecidableEq

/-- `sai_fib_route_t`. `nh_info` is the union of the two node pointers; it keeps its
old value when `nh_type` goes back to `none`. -/
structure Route where
  vrf_id : Oid
  prefix_ip : IpAddress
  prefix_len : Nat
  nh_type : RouteNhType
  nh_info : Option Ptr
  packet_action : PacketAction
  trap_priority : Nat
  meta_data : Nat
  hw_info : Option Nat
  dep_encap_nh_list : List Ptr
deriving DecidableEq

/-- The node that `nh_info` points to, read as `nh_type` says. -/
inductive RouteNhObj where
  | none | nextHop (nh : Ptr) | nextHopGroup (group : Ptr)
deriving DecidableEq

def Route.nhObj (r : Route) : RouteNhObj :=
  match r.nh_type, r.nh_info with
  | .nextHop, some p => .nextHop p
  | .nextHopGroup, some p => .nextHopGroup p
  | _, _ => .none

/-- `sai_fib_route_is_nh_info_match` -/
def routeIsNhInfoMatch (r q : Route) : Bool :=
  r.nh_type = q.nh_type && r.nh_info = q.nh_info

/-- A route node after `memset (.., 0, ..)`. -/
def Route.zero : Route where
  vrf_id := .null
  prefix_ip := .ip4 0
  prefix_len := 0
  nh_type := .none
  nh_info := none
  packet_action := .drop
  trap_priority := 0
  meta_data := 0
  hw_info := none
  dep_encap_nh_list := []

/-- `sai_fib_is_default_route_node` -/
def Route.isDefault (r : Route) : Bool := r.prefix_ip.isZero && r.prefix_len = 0

/-- `sai_fib_vrf_t`. The two trees hold the radix keys with the node pointers. Of the list of
router interfaces only the length is kept, which `num_rif` counts. -/
structure Vrf where
  vrf_id : Oid
  v4_admin_state : Bool
  v6_admin_state : Bool
  src_mac : Mac
  ip_options_pkt_action : PacketAction
  ttl0_1_pkt_action : PacketAction
  num_rif : Nat
  sai_nh_tree : List (NhKey × Ptr)
  sai_route_tree : List (List Bool × Ptr)
deriving DecidableEq

/-- `sai_router_interface_type_t`; `none` is `SAI_FIB_RIF_TYPE_NONE`. -/
inductive RifType where
  | port | vlan | loopback | none
deriving DecidableEq

/-- `sai_fib_router_interface_t`. `attachment` is the union of port id and VLAN id. -/
structure Rif where
  rif_id : Oid
  vrf_id : Oid
  type : RifType
  attachment : Oid
  src_mac : Mac
  v4_admin_state : Bool
  v6_admin_state : Bool
  mtu : Nat
  ip_options_pkt_action : PacketAction
  ref_count : Nat
deriving DecidableEq

/-- `sai_fib_neighbor_mac_entry_key_t` -/
@[ext]
structure MacKey where
  vlan_id : Oid
  mac_addr : Mac
deriving DecidableEq

/-- The fields of `dn_sai_tunnel_t` the routing module reads. -/
structure Tunnel where
  underlay_vrf : Oid
  tunnel_encap_nh_list : List Ptr
deriving DecidableEq

/-- `sai_port_fwd_mode_t` -/
inductive PortFwdMode where
  | unknown | routing | switching
deriving DecidableEq

/-! ## Requests -/

/-- `sai_route_entry_t`; `prefix_len` is the length of the contiguous mask. -/
structure RouteEntry where
  vr_id : Oid
  destination : IpAddress
  prefix_len : Nat
deriving DecidableEq

inductive RouteAttr where
  | nextHopId (oid : Oid)
  | packetAction (s32 : Int)
  | trapPriority (u8 : Nat)
  | metaData (u32 : Nat)
  | other (id : Nat)
deriving DecidableEq

inductive NextHopAttr where
  | type (s32 : Int)
  | ip (addr : IpAddress)
  | routerInterfaceId (oid : Oid)
  | tunnelId (oid : Oid)
  | other (id : Nat)
deriving DecidableEq

/-- `sai_neighbor_entry_t` -/
structure NeighborEntry where
  rif_id : Oid
  ip_address : IpAddress
deriving DecidableEq

inductive NeighborAttr where
  | dstMacAddress (mac : Mac)
  | packetAction (s32 : Int)
  | noHostRoute (booldata : Bool)
  | metaData (u32 : Nat)
  | other (id : Nat)
deriving DecidableEq

structure NeighborFlags where
  dest_mac : Bool
  pkt_action : Bool
  no_host_route : Bool
  meta_data : Bool
  port_id : Bool
deriving DecidableEq

inductive GroupAttr where
  | type (s32 : Int)
  | nextHopMemberList
  | nextHopCount
  | other (id : Nat)
deriving DecidableEq

inductive MemberAttr where
  | nextHopGroupId (oid : Oid)
  | nextHopId (oid : Oid)
  | weight
  | other (id : Nat)
deriving DecidableEq

inductive VrAttr where
  | srcMacAddress (mac : Mac)
  | adminV4State (booldata : Bool)
  | adminV6State (booldata : Bool)
  | violationTtl1PacketAction (s32 : Int)
  | violationIpOptionsPacketAction (s32 : Int)
  | unknownL3MulticastPacketAction
  | other (id : Nat)
deriving DecidableEq

inductive RifAttr where
  | virtualRouterId (oid : Oid)
  | type (s32 : Int)
  | portId (oid : Oid)
  | vlanId (oid : Oid)
  | srcMacAddress (mac : Mac)
  | adminV4State (booldata : Bool)
  | adminV6State (booldata : Bool)
  | mtu (u32 : Nat)
  | ingressAcl
  | egressAcl
  | v4McastEnable
  | v6McastEnable
  | other (id : Nat)
deriving DecidableEq

/-- The loop over an attribute list that every parser of the module runs: take the attributes
in order, stop at the first that fails and put its index into the status. -/
def attrListParse {Attr Info : Type} (set : Info → Attr → Except Status Info) :
    Nat → List Attr → Info → Except Status Info
  | _, [], info => .ok info
  | attr_index, attr :: attr_list, info =>
    match set info attr with
    | .ok info => attrListParse set (attr_index + 1) attr_list info
    | .error status => .error (fibAttrStatusCodeGet status attr_index)

theorem attrListParse_keeps
    {P : Info → Prop} (hset : ∀ info attr info', P info → set info attr = .ok info' → P info')
    {info' : Info} (hinfo : P info) (h : attrListParse set i attr_list info = .ok info') : P info' := by
  induction attr_list generalizing i info with
  | nil =>
    cases h
    exact hinfo
  | cons attr attr_list ih =>
    rw [attrListParse] at h
    split at h
    next next hnext => exact ih (hset info attr next hinfo hnext) h
    · simp at h

/-- A parser that fails gives a status other than SUCCESS when no attribute gives SUCCESS as
its failure. -/
theorem attrListParse_error (hset : ∀ info attr, set info attr ≠ .error .success) {status : Status}
    (h : attrListParse set i attr_list info = .error status) : status ≠ .success := by
  induction attr_list generalizing i info with
  | nil => simp [attrListParse] at h
  | cons attr attr_list ih =>
    rw [attrListParse] at h
    split at h
    · exact ih h
    rename_i rc hrc
    cases h
    have hne := hset info attr
    rw [hrc] at hne
    rintro heq
    cases rc <;> simp [fibAttrStatusCodeGet] at heq hne

/-! ## The outside -/

inductive ExtCall where
  | routeCreate (route : Route)
  | routeRemove (route : Route)
  | routeAttrSet (route : Route)
  | nexthopCreate (nh : Nh)
  | nexthopRemove (nh : Nh)
  | encapNhRouteResolve (encap_nh : Ptr) (route : Route)
  | encapNhNeighborResolve (encap_nh : Ptr) (neighbor : Ptr)
  | encapNhNeighborAttrSet (encap_nh : Ptr) (neighbor : Ptr) (attr_info : Nh)
      (flags : NeighborFlags)
  | neighborCreate (nh : Nh)
  | neighborRemove (nh : Nh)
  | neighborAttrSet (nh : Nh) (flags : NeighborFlags)
  | nhGroupCreate (group : Group)
  | nhGroupRemove (group : Group)
  | addNhToGroup (nh_group : Ptr) (next_hops : List Ptr)
  | removeNhFromGroup (nh_group : Ptr) (next_hops : List Ptr)
  | vrCreate (vrf : Vrf)
  | vrRemove (vrf : Vrf)
  | vrAttrValidate (attr : VrAttr)
  | rifCreate (rif : Rif)
  | rifRemove (rif : Rif)
  | rifAttrValidate (type : RifType) (attr : RifAttr)
  | rifAttrSet (rif : Rif) (attr : RifAttr)
  | rifLagMemberUpdate (rif : Rif) (port_list : List Oid) (is_add : Bool)
  | getNeighborMetaDataRange
  | getRouteMetaDataRange
  | getFdbEntryAttribute (vlan_id : Oid) (mac : Mac)
  | registerFdbEntry (key : MacKey)
  | deregisterFdbEntry (key : MacKey)
  /-- A read or a write of the mode of a port, for setting or for resetting the routing mode of
  the ports of a list, on the way or when it is undone. -/
  | portForwardModeInfo (port_id : Oid) (index : Nat) (is_set : Bool) (write : Bool)
      (clnup : Bool)
  | lagPortCountGet (lag_id : Oid) (is_set : Bool)
  | lagPortListGet (lag_id : Oid) (is_set : Bool)
  | tunnelObjectIdValidate (tunnel_id : Oid)
  | appendToChangelist (vrf_id : Oid) (route : Ptr)
deriving DecidableEq

/-- Memory, tree insertions and map insertions, each of which may fail. -/
inductive Resource where
  | nhNode | nhTree | nhIdTree
  | encapLink (encap_nh underlay_nh : Ptr)
  /-- The array of next hops; the link nodes for the next hop at `index` of it, one in the
  next hop's list of groups and one in the group's list of next hops. -/
  | nhList | groupLink (index : Nat) | nhLink (index : Nat)
  | groupNode | groupTree
  | memberListMap | memberInfoMap
  | routeNode | routeTree
  | defaultRouteNode (family : Nat) | defaultRouteTree (family : Nat)
  | macEntryNode | macTree
  | vrfNode | vrfNhTreeRoot | vrfRouteTreeRoot | vrfTree
  | rifNode | rifTree | lagRifMap
deriving DecidableEq

/-- The default values of virtual routers and router interfaces. -/
structure FibDefaults where
  v4_admin_state : Bool
  v6_admin_state : Bool
  ip_options_pkt_action : PacketAction
  ttl0_1_pkt_action : PacketAction
  mtu : Nat

/-- How the outside answers during one API call. -/
structure Env where
  status : ExtCall → Status
  avail : Resource → Bool
  /-- The hardware id a successful create call returns. -/
  hw_id : Nat
  /-- The handle a route call leaves in the route node, given the one it finds there. -/
  hw_info : ExtCall → Option Nat → Option Nat
  /-- `sai_acl_npu_api_get()->get_acl_attribute`: the meta data range. -/
  meta_range : ExtCall → Nat × Nat
  /-- The port of an L2 FDB entry, when the lookup succeeds. -/
  fdb_port : Oid → Mac → Oid
  /-- The generator of group member ids. -/
  member_id_gen : IdGen
  /-- What `std_dll_remove` makes of a list the link is not on: std_dll says nothing of it. -/
  unlink_absent : List Ptr → Ptr → List Ptr
  /-- `sai_switch_mac_address_get` -/
  switch_mac : Mac
  dflt : FibDefaults
  /-- `sai_fib_rif_is_port_valid`, `sai_is_lag_created`: is there such a port or LAG? -/
  port_valid : Oid → Bool
  /-- `sai_is_valid_vlan_id` and `sai_is_vlan_created`. -/
  vlan_created : Oid → Bool
  /-- `sai_lag_port_list_get` -/
  lag_ports : Oid → List Oid

structure Env.AllSucceed (env : Env) : Prop where
  status : ∀ c, env.status c = .success
  avail : ∀ r, env.avail r = true

def routeHwInfo (hw_id : Nat) : ExtCall → Option Nat → Option Nat
  | .routeCreate _, _ => some hw_id
  | .routeRemove _, _ => none
  | _, hw_info => hw_info

/-- An outside that does everything it is asked, and gives `hw_id` to what it creates. -/
def Env.good (hw_id : Nat) : Env where
  status := fun _ => .success
  avail := fun _ => true
  hw_id := hw_id
  hw_info := routeHwInfo hw_id
  meta_range := fun _ => (0, 0xffff)
  fdb_port := fun _ _ => .null
  member_id_gen := IdGen.below 64
  unlink_absent := fun l _ => l
  switch_mac := 1
  dflt := ⟨true, true, .trap, .trap, 1500⟩
  port_valid := fun _ => true
  vlan_created := fun _ => true
  lag_ports := fun _ => []

theorem Env.good_allSucceed {hw_id : Nat} : (Env.good hw_id).AllSucceed :=
  ⟨fun _ => rfl, fun _ => rfl⟩

end OpxSai
