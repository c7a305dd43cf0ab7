import OpxSai.Routing.NextHop

/-!
# Routing — neighbors

A neighbor that is forwarded to over a VLAN router interface depends on the L2
FDB entry of its MAC address. `neighbor_mac_tree` holds, for each (VLAN, MAC),
the neighbors on it; membership is worked out from the node as it is at the
moment (`neighborMacEntryKey`), on insertion and on removal alike.
-/

variable (env : Env)

namespace OpxSai

open Fib

/-! ## Attributes -/

/-- `sai_fib_neighbor_default_attr_set`, on the record after `memset`. -/
def neighborDefaultAttr : Nh :=
  { Nh.zero with packet_action := .forward, no_host_route := false, port_id := .null }

/-- `sai_fib_neighbor_info_reset` -/
def Nh.neighborInfoReset (n : Nh) : Nh :=
  { n with
    packet_action := .trap
    mac_addr := 0
    meta_data := 0
    port_id := .null
    owner_flag := { n.owner_flag with neighbor := false } }

def NeighborFlags.none : NeighborFlags := ⟨false, false, false, false, false⟩

/-- The switch of `sai_fib_neighbor_info_fill`. -/
def neighborAttrSet (x : Nh × NeighborFlags) (attr : NeighborAttr) :
    Except Status (Nh × NeighborFlags) :=
  match attr with
  | .dstMacAddress mac =>
    if mac = 0 then .error (.invalidAttrValue 0)
    else .ok ({ x.1 with mac_addr := mac }, { x.2 with dest_mac := true })
  | .packetAction s32 =>
    match packetActionValidate s32 with
    | Option.none => .error (.invalidAttrValue 0)
    | some a => .ok ({ x.1 with packet_action := a }, { x.2 with pkt_action := true })
  | .noHostRoute booldata =>
    .ok ({ x.1 with no_host_route := booldata }, { x.2 with no_host_route := true })
  | .metaData u32 =>
    if env.status .getNeighborMetaDataRange ≠ .success then
      .error (env.status .getNeighborMetaDataRange)
    else
      let range := env.meta_range .getNeighborMetaDataRange
      if u32 < range.1 ∨ range.2 < u32 then .error (.invalidAttrValue 0)
      else .ok ({ x.1 with meta_data := u32 }, { x.2 with meta_data := true })
  | .other _ => .error (.unknownAttribute 0)

/-- `sai_fib_neighbor_info_fill` -/
def neighborInfoFill (attr_list : List NeighborAttr) (nh_info : Nh) :
    Except Status (Nh × NeighborFlags) :=
  if attr_list = [] then .error .invalidParameter
  else
    match attrListParse (neighborAttrSet env) 0 attr_list (nh_info, NeighborFlags.none) with
    | .error status => .error status
    | .ok x =>
      if x.1.packet_action.isForward ∧ x.1.mac_addr = 0 then .error .mandatoryAttributeMissing
      else .ok x

/-! ## Keys -/

/-- `sai_fib_neighbor_entry_validate` -/
def neighborEntryValidate (entry : NeighborEntry) (s : Fib) : Status :=
  match s.rif entry.rif_id with
  | none => .invalidObjectId
  | some rif =>
    if rif.type = .loopback then .invalidParameter
    else nextHopIpAddressValidate entry.ip_address

/-- `sai_fib_neighbor_ip_next_hop_node_key_fill` -/
def neighborIpNextHopNodeKey (entry : NeighborEntry) : NhKey :=
  ⟨.ip, entry.ip_address, entry.rif_id, fibTunnelTypeNone⟩

/-- `sai_fib_neighbor_key_validate_and_fill` -/
def neighborKeyValidateAndFill (entry : NeighborEntry) (nh_info : Nh) (s : Fib) :
    Except Status Nh :=
  if neighborEntryValidate entry s ≠ .success then .error (neighborEntryValidate entry s)
  else
    match s.vrfForRif entry.rif_id with
    | none => .error .itemNotFound
    | some vrf => .ok { nh_info with vrf_id := vrf.vrf_id, key := neighborIpNextHopNodeKey entry }

/-- The node of a neighbor entry, for `sai_fib_neighbor_remove` and
`sai_fib_neighbor_attribute_set`. -/
def neighborNodeGet (entry : NeighborEntry) (s : Fib) : Except Status Ptr :=
  if neighborEntryValidate entry s ≠ .success then .error (neighborEntryValidate entry s)
  else
    match ipNextHopNodeGet (neighborIpNextHopNodeKey entry) s with
    | none => .error .itemNotFound
    | some nh => if (s.nh nh).owner_flag.neighbor then .ok nh else .error .itemNotFound

/-! ## Ports and MAC entries -/

/-- `sai_fib_neighbor_port_id_resolve`, on a record: the node itself or a copy of it. -/
def neighborPortIdResolve (neighbor : Nh) (s : Fib) : Except Status Nh :=
  match s.rif neighbor.key.rif_id with
  | none => .error .invalidObjectId
  | some rif =>
    if !neighbor.packet_action.isForward then .ok neighbor
    else if rif.type = .port then .ok { neighbor with port_id := rif.attachment }
    else if env.status (.getFdbEntryAttribute rif.attachment neighbor.mac_addr) ≠ .success then
      .ok { neighbor with port_unresolved := true, port_id := .null }
    else
      .ok { neighbor with
        port_unresolved := false
        port_id := env.fdb_port rif.attachment neighbor.mac_addr }

/-- The MAC entry a neighbor belongs to: none unless it is forwarded to over a VLAN. -/
def neighborMacEntryKey (neighbor : Nh) (s : Fib) : Except Status (Option MacKey) :=
  match s.rif neighbor.key.rif_id with
  | none => .error .itemNotFound
  | some rif =>
    if rif.type ≠ .vlan then .ok none
    else if !neighbor.packet_action.isForward then .ok none
    else .ok (some ⟨rif.attachment, neighbor.mac_addr⟩)

def macTreeSet (key : MacKey) (neighbors : Option (List Ptr)) (s : Fib) : Fib :=
  { s with neighbor_mac_tree := fun k => if k = key then neighbors else s.neighbor_mac_tree k }

/-- `sai_fib_neighbor_mac_entry_remove` -/
def neighborMacEntryRemove (neighbor : Ptr) (s : Fib) : Status × Fib :=
  match neighborMacEntryKey (s.nh neighbor) s with
  | .error status => (status, s)
  | .ok none => (.success, s)
  | .ok (some key) =>
    match s.neighbor_mac_tree key with
    | none => (.itemNotFound, s)
    | some neighbors =>
      let neighbors := dllRemove env neighbors neighbor
      if neighbors = [] then
        (.success, ((macTreeSet key none s).call env (.deregisterFdbEntry key)).2)
      else (.success, macTreeSet key (some neighbors) s)

/-- `sai_fib_neighbor_mac_entry_insert` -/
def neighborMacEntryInsert (neighbor : Ptr) (s : Fib) : Status × Fib :=
  match neighborMacEntryKey (s.nh neighbor) s with
  | .error status => (status, s)
  | .ok none => (.success, s)
  | .ok (some key) =>
    match s.neighbor_mac_tree key with
    | some neighbors => (.success, macTreeSet key (some (neighbors ++ [neighbor])) s)
    | none =>
      if !env.avail .macEntryNode then (.noMemory, s)
      else if !env.avail .macTree then (.failure, s)
      else
        let x := (macTreeSet key (some [neighbor]) s).call env (.registerFdbEntry key)
        if x.1 = .success then x
        else (x.1, (neighborMacEntryRemove env neighbor x.2).2)

/-! ## Create, remove and set -/

/-- `sai_fib_neighbor_attr_copy` -/
def Nh.neighborAttrCopy (src : Nh) (dest : Nh) : Nh :=
  { dest with mac_addr := src.mac_addr, packet_action := src.packet_action }

/-- `sai_fib_neighbor_node_create` -/
def neighborNodeCreate (nh_info : Nh) (s : Fib) : Except Status Ptr × Fib :=
  match ipNextHopNodeGet ⟨.ip, nh_info.key.ip_addr, nh_info.key.rif_id, fibTunnelTypeNone⟩ s with
  | some nh =>
    if (s.nh nh).owner_flag.neighbor then (.error .itemAlreadyExists, s)
    else (.ok nh, (s.modNh nh nh_info.neighborAttrCopy).modNh nh Nh.setOwnerNeighbor)
  | none =>
    match ipNextHopNodeCreate env nh_info.vrf_id nh_info s with
    | (.error status, s) => (.error status, s)
    | (.ok nh, s) => (.ok nh, s.modNh nh Nh.setOwnerNeighbor)

/-- The exit of `sai_fib_neighbor_create` on an error with a node. -/
def neighborCreateUndo (nh : Ptr) (s : Fib) : Fib :=
  let s := s.modNh nh Nh.neighborInfoReset
  (checkAndDeleteIpNextHopNode (s.nh nh).vrf_id nh s).2

/-- `sai_fib_neighbor_create`, after the MAC entry insertion. -/
def neighborCreateProgram (nh : Ptr) (s : Fib) : Status × Fib :=
  match neighborPortIdResolve env (s.nh nh) s with
  | .error status => (status, neighborCreateUndo nh (neighborMacEntryRemove env nh s).2)
  | .ok info =>
    let s := s.modNh nh fun _ => info
    let x := s.call env (.neighborCreate info)
    if x.1 = .success then (.success, neighborAffectedEncapNhResolve env nh .create x.2)
    else (x.1, neighborCreateUndo nh (neighborMacEntryRemove env nh x.2).2)

/-- `sai_fib_neighbor_create` -/
def neighborCreate (entry : NeighborEntry) (attr_list : List NeighborAttr) (s : Fib) : Status × Fib :=
  match neighborKeyValidateAndFill entry neighborDefaultAttr s with
  | .error status => (status, s)
  | .ok nh_info =>
    match neighborInfoFill env attr_list nh_info with
    | .error status => (status, s)
    | .ok (nh_info, _) =>
      match neighborNodeCreate env nh_info s with
      | (.error status, s) => (status, s)
      | (.ok nh, s) =>
        let x := neighborMacEntryInsert env nh s
        if x.1 = .success then neighborCreateProgram env nh x.2
        else (x.1, neighborCreateUndo nh x.2)

/-- `sai_fib_neighbor_remove`, on the node of the entry. -/
def neighborRemoveNode (nh : Ptr) (s : Fib) : Status × Fib :=
  let nh_node_copy := s.nh nh
  andThen (neighborMacEntryRemove env nh s) fun s =>
    let s := s.modNh nh Nh.neighborInfoReset
    let x := s.call env (.neighborRemove (s.nh nh))
    if x.1 = .success then
      let s := neighborAffectedEncapNhResolve env nh .remove x.2
      (.success, (checkAndDeleteIpNextHopNode (s.nh nh).vrf_id nh s).2)
    else (x.1, (neighborMacEntryInsert env nh (x.2.modNh nh fun _ => nh_node_copy)).2)

/-- `sai_fib_neighbor_remove` -/
def neighborRemove (entry : NeighborEntry) (s : Fib) : Status × Fib :=
  match neighborNodeGet entry s with
  | .error status => (status, s)
  | .ok nh => neighborRemoveNode env nh s

/-- The test of `sai_fib_neighbor_attribute_set` for a new MAC entry. -/
def isMacEntryResolved (flags : NeighborFlags) (nh : Nh) : Bool :=
  flags.dest_mac || (flags.pkt_action && !nh.packet_action.isForward)

/-- The exit of `sai_fib_neighbor_attribute_set` on success: off the old MAC entry with the old
values, and on the new one with the new values. -/
def neighborAttributeCommit (nh : Ptr) (nh_node_copy : Nh)
    (is_mac_entry_resolved : Bool) (s : Fib) : Fib :=
  let s := if is_mac_entry_resolved then (neighborMacEntryRemove env nh s).2 else s
  let s := s.modNh nh fun _ => nh_node_copy
  if is_mac_entry_resolved then (neighborMacEntryInsert env nh s).2 else s

/-- `sai_fib_neighbor_attribute_set` -/
def neighborAttributeSet (entry : NeighborEntry) (attr : NeighborAttr) (s : Fib) : Status × Fib :=
  match neighborNodeGet entry s with
  | .error status => (status, s)
  | .ok nh =>
    match neighborInfoFill env [attr] (s.nh nh) with
    | .error status => (status, s)
    | .ok (nh_node_copy, flags) =>
      let is_mac_entry_resolved := isMacEntryResolved flags (s.nh nh)
      let resolved := if is_mac_entry_resolved then neighborPortIdResolve env nh_node_copy s
        else .ok nh_node_copy
      match resolved with
      | .error status => (status, s)
      | .ok nh_node_copy =>
        andThen (s.call env (.neighborAttrSet nh_node_copy flags)) fun s =>
          let s := neighborDepEncapNhListUpdate env nh nh_node_copy flags s
          (.success, neighborAttributeCommit env nh nh_node_copy is_mac_entry_resolved s)

end OpxSai
