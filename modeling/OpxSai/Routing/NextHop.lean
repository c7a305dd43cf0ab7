import OpxSai.Routing.NextHopGroup

/-!
# Routing — next hops

An IP next hop and the neighbor with the same address on the same router
interface share one node. Each owner sets its bit in `owner_flag`, the node is
created by whichever owner comes first and freed when the last bit goes
(`checkAndDeleteIpNextHopNode`). A node is in the next hop tree of its VRF under
its key and, while it is a next hop, in the id tree under its next hop id.
-/

variable (env : Env)

namespace OpxSai

open Fib

/-! ## Attributes -/

/-- `sai_fib_next_hop_ip_address_validate` -/
def nextHopIpAddressValidate (ip : IpAddress) : Status :=
  if !ip.familyValid then .invalidParameter
  else if ip.isZero || ip.isLoopback then .invalidParameter
  else .success

/-- `sai_fib_next_hop_type_set`, for a create request. -/
def nextHopTypeSet (s32 : Int) : Except Status NextHopType :=
  if s32 = 0 then .ok .ip
  else if s32 = 2 then .ok .tunnelEncap
  else .error (.invalidAttrValue 0)

/-- `sai_fib_next_hop_rif_validate` -/
def nextHopRifValidate (rif_id : Oid) (s : Fib) : Bool :=
  match s.rif rif_id with
  | some rif => rif.type ≠ .loopback
  | none => false

/-- `sai_fib_next_hop_rif_set`, for a create request. -/
def nextHopRifSet (oid : Oid) (nh_info : Nh) (s : Fib) : Except Status Nh :=
  if oid.type ≠ .routerInterface then .error (.invalidAttrValue 0)
  else if !nextHopRifValidate oid s then .error (.invalidAttrValue 0)
  else
    match s.vrfForRif oid with
    | none => .error .invalidObjectId
    | some vrf => .ok { nh_info with key := { nh_info.key with rif_id := oid }, vrf_id := vrf.vrf_id }

/-- `sai_fib_next_hop_ip_addr_set`, for a create request. -/
def nextHopIpAddrSet (ip : IpAddress) (nh_info : Nh) : Except Status Nh :=
  if nextHopIpAddressValidate ip ≠ .success then .error (.invalidAttrValue 0)
  else .ok { nh_info with key := { nh_info.key with ip_addr := ip } }

/-- `sai_fib_encap_next_hop_tunnel_id_set`, for a next hop of type tunnel encap. -/
def encapNextHopTunnelIdSet (attr_index : Nat) (oid : Oid) (nh_info : Nh) : Except Status Nh :=
  if oid = .null then .error .mandatoryAttributeMissing
  else if env.status (.tunnelObjectIdValidate oid) ≠ .success then
    .error (.invalidAttrValue attr_index)
  else .ok { nh_info with tunnel_id := oid }

/-- What the loop of `sai_fib_next_hop_info_fill` carries. -/
structure NextHopInfo where
  nh_info : Nh
  is_type_attr_set : Bool
  is_ip_attr_set : Bool
  is_rif_attr_set : Bool
  tunnel_id_attr : Option (Nat × Oid)
  attr_index : Nat

/-- The switch of `sai_fib_next_hop_info_fill`. -/
def nextHopAttrSet (s : Fib) (info : NextHopInfo) (attr : NextHopAttr) :
    Except Status NextHopInfo :=
  let info := { info with attr_index := info.attr_index + 1 }
  match attr with
  | .type s32 =>
    match nextHopTypeSet s32 with
    | .error status => .error status
    | .ok nh_type =>
      .ok { info with
        nh_info := { info.nh_info with key := { info.nh_info.key with nh_type := nh_type } }
        is_type_attr_set := true }
  | .ip addr =>
    match nextHopIpAddrSet addr info.nh_info with
    | .error status => .error status
    | .ok nh_info => .ok { info with nh_info := nh_info, is_ip_attr_set := true }
  | .routerInterfaceId oid =>
    match nextHopRifSet oid info.nh_info s with
    | .error status => .error status
    | .ok nh_info => .ok { info with nh_info := nh_info, is_rif_attr_set := true }
  | .tunnelId oid => .ok { info with tunnel_id_attr := some (info.attr_index - 1, oid) }
  | .other _ => .error (.unknownAttribute 0)

/-- `sai_fib_next_hop_info_fill`, with `is_create_req` set. -/
def nextHopInfoFill (attr_list : List NextHopAttr) (nh_info : Nh) (s : Fib) : Except Status Nh :=
  if attr_list = [] then .error .invalidParameter
  else
    match attrListParse (nextHopAttrSet s) 0 attr_list
        ⟨nh_info, false, false, false, none, 0⟩ with
    | .error status => .error status
    | .ok info =>
      if !info.is_type_attr_set || !info.is_rif_attr_set then .error .mandatoryAttributeMissing
      else if !info.is_ip_attr_set then .error .mandatoryAttributeMissing
      else if info.nh_info.key.nh_type = .tunnelEncap then
        match info.tunnel_id_attr with
        | none => .error .mandatoryAttributeMissing
        | some (index, oid) => encapNextHopTunnelIdSet env index oid info.nh_info
      else .ok info.nh_info

/-- `sai_fib_next_hop_default_attr_set`, on the record after `memset`. -/
def nextHopDefaultAttr : Nh := { Nh.zero with packet_action := .trap }

/-! ## The shared node -/

/-- `sai_fib_set_next_hop_owner (.., SAI_FIB_OWNER_NEXT_HOP)` -/
def Nh.setOwnerNextHop (n : Nh) : Nh :=
  { n with owner_flag := { n.owner_flag with next_hop := true } }

/-- `sai_fib_set_next_hop_owner (.., SAI_FIB_OWNER_NEIGHBOR)` -/
def Nh.setOwnerNeighbor (n : Nh) : Nh :=
  { n with owner_flag := { n.owner_flag with neighbor := true } }

def Nh.setNextHopId (id : Oid) (n : Nh) : Nh := { n with next_hop_id := id }

/-- `sai_fib_next_hop_info_reset` -/
def Nh.nextHopInfoReset (n : Nh) : Nh :=
  { n with owner_flag := { n.owner_flag with next_hop := false }, next_hop_id := .null }

/-- `sai_fib_ip_next_hop_node_get`: the tree is that of the VRF of the router interface. -/
def ipNextHopNodeGet (key : NhKey) (s : Fib) : Option Ptr :=
  (s.vrfForRif key.rif_id).bind fun vrf => Tree.find vrf.sai_nh_tree key

/-- `sai_fib_nh_rif_ref_count_incr` -/
def nhRifRefCountIncr (nh : Ptr) (s : Fib) : Fib :=
  s.modRif (s.nh nh).key.rif_id fun r => { r with ref_count := r.ref_count + 1 }

/-- `sai_fib_nh_rif_ref_count_decr`: the count stays at zero. -/
def nhRifRefCountDecr (nh : Ptr) (s : Fib) : Fib :=
  s.modRif (s.nh nh).key.rif_id fun r => { r with ref_count := r.ref_count - 1 }

/-- `sai_fib_nh_node_free` -/
def nhNodeFree (nh : Ptr) (s : Fib) : Fib := { s with nhs := s.nhs.free nh }

/-- A new node with a copy of the info. The three lists of the node are initialised. -/
def nhNodeAlloc (nh_info : Nh) (s : Fib) : Fib :=
  { s with nhs := s.nhs.alloc { nh_info with
      nh_group_list := [], dep_encap_nh_list := [], dep_route_list := [] } }

def vrfNhTreeInsert (vrf_id : Oid) (key : NhKey) (nh : Ptr) (s : Fib) : Fib :=
  s.modVrf vrf_id fun v => { v with sai_nh_tree := Tree.insert v.sai_nh_tree key nh }

/-- `sai_fib_remove_nh_node_from_vrf_database` -/
def vrfNhTreeRemove (vrf_id : Oid) (key : NhKey) (s : Fib) : Fib :=
  s.modVrf vrf_id fun v => { v with sai_nh_tree := Tree.erase v.sai_nh_tree key }

/-- `sai_fib_ip_next_hop_node_create` -/
def ipNextHopNodeCreate (env : Env) (vrf_id : Oid) (nh_info : Nh) (s : Fib) :
    Except Status Ptr × Fib :=
  match s.vrf vrf_id with
  | none => (.error .invalidObjectId, s)
  | some vrf =>
    if !env.avail .nhNode then (.error .noMemory, s)
    else
      let nh := s.nhs.next
      let s := nhNodeAlloc nh_info s
      if (Tree.find vrf.sai_nh_tree nh_info.key).isSome || !env.avail .nhTree then
        (.error .failure, nhNodeFree nh s)
      else (.ok nh, nhRifRefCountIncr nh (vrfNhTreeInsert vrf_id nh_info.key nh s))

/-- `sai_fib_check_and_delete_ip_next_hop_node` -/
def checkAndDeleteIpNextHopNode (vrf_id : Oid) (nh : Ptr) (s : Fib) : Status × Fib :=
  if (s.nh nh).owner_flag.isZero then
    match s.vrf vrf_id with
    | none => (.invalidObjectId, s)
    | some _ =>
      (.success, nhNodeFree nh (nhRifRefCountDecr nh
        (vrfNhTreeRemove vrf_id (s.nh nh).key s)))
  else (.success, s)

/-! ## The id tree -/

/-- `sai_fib_insert_nh_node_in_nh_id_database`: the id must be new. -/
def nhIdTreeInsert (nh : Ptr) (s : Fib) : Status × Fib :=
  let next_hop_id := (s.nh nh).next_hop_id
  if (s.nh_id_tree next_hop_id).isNone && env.avail .nhIdTree then
    (.success, { s with nh_id_tree := fun id =>
      if id = next_hop_id then some nh else s.nh_id_tree id })
  else (.failure, s)

/-- `sai_fib_remove_nh_node_from_nh_id_database`: what is under the id is removed, and must
have been the node. -/
def nhIdTreeRemove (nh : Ptr) (s : Fib) : Status × Fib :=
  let next_hop_id := (s.nh nh).next_hop_id
  let removed := s.nh_id_tree next_hop_id
  let s := { s with nh_id_tree := fun id =>
    if id = next_hop_id then none else s.nh_id_tree id }
  if removed = some nh then (.success, s) else (.failure, s)

/-! ## Create and remove -/

/-- The node for a next hop request: an existing node of the other owner, or a new one. -/
def nextHopNodeObtain (nh_info : Nh) (s : Fib) : Except Status Ptr × Fib :=
  match ipNextHopNodeGet nh_info.key s with
  | some nh =>
    if (s.nh nh).owner_flag.next_hop then (.error .itemAlreadyExists, s) else (.ok nh, s)
  | none => ipNextHopNodeCreate env nh_info.vrf_id nh_info s

def nextHopNpuCreate (nh : Ptr) (s : Fib) : Status × Fib :=
  if (s.nh nh).isTunnelEncap then encapNextHopCreate env nh s
  else s.call env (.nexthopCreate (s.nh nh))

/-- `sai_fib_ip_next_hop_create` -/
def ipNextHopCreate (nh_info : Nh) (s : Fib) : Except Status Ptr × Fib :=
  match nextHopNodeObtain env nh_info s with
  | (.error status, s) => (.error status, s)
  | (.ok nh, s) =>
    let x := nextHopNpuCreate env nh (s.modNh nh Nh.setOwnerNextHop)
    if x.1 = .success then
      (.ok nh, x.2.modNh nh (Nh.setNextHopId (uoidCreate .nextHop env.hw_id)))
    else
      let s := x.2.modNh nh Nh.nextHopInfoReset
      (.error x.1, (checkAndDeleteIpNextHopNode (s.nh nh).vrf_id nh s).2)

/-- The call into the NPU that takes the next hop away again. -/
def nextHopNpuRemove (nh : Ptr) (s : Fib) : Status × Fib :=
  if (s.nh nh).isTunnelEncap then encapNextHopRemove env nh s
  else s.call env (.nexthopRemove (s.nh nh))

/-- `sai_fib_ip_next_hop_remove` -/
def ipNextHopRemove (nh : Ptr) (s : Fib) : Status × Fib :=
  if (s.nh nh).nh_group_list ≠ [] then (.failure, s)
  else
    andThen (nextHopNpuRemove env nh s) fun s =>
      let s := s.modNh nh Nh.nextHopInfoReset
      (.success, (checkAndDeleteIpNextHopNode (s.nh nh).vrf_id nh s).2)

/-- `sai_fib_next_hop_create`, with the id it returns. -/
def nextHopCreate (attr_list : List NextHopAttr) (s : Fib) : (Status × Fib) × Option Oid :=
  match nextHopInfoFill env attr_list nextHopDefaultAttr s with
  | .error status => ((status, s), none)
  | .ok nh_info =>
    match ipNextHopCreate env nh_info s with
    | (.error status, s) => ((status, s), none)
    | (.ok nh, s) =>
      let x := nhIdTreeInsert env nh s
      if x.1 = .success then (x, some (x.2.nh nh).next_hop_id)
      else ((x.1, (ipNextHopRemove env nh x.2).2), none)

/-- `sai_fib_next_hop_remove`, from the point where the node is known to be unused. -/
def nextHopRemoveNode (nh : Ptr) (s : Fib) : Status × Fib :=
  let x := nhIdTreeRemove nh s
  if x.1 ≠ .success then (.failure, x.2)
  else
    let y := ipNextHopRemove env nh x.2
    if y.1 = .success then y else (y.1, (nhIdTreeInsert env nh y.2).2)

/-- `sai_fib_next_hop_remove` -/
def nextHopRemove (next_hop_id : Oid) (s : Fib) : Status × Fib :=
  if next_hop_id.type ≠ .nextHop then (.invalidObjectType, s)
  else
    match s.nh_id_tree next_hop_id with
    | none => (.invalidObjectId, s)
    | some nh =>
      if !(s.nh nh).owner_flag.next_hop then (.invalidObjectId, s)
      else if (s.nh nh).ref_count ≠ 0 then (.objectInUse, s)
      else nextHopRemoveNode env nh s

end OpxSai
