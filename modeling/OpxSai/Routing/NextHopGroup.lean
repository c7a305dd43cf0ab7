import OpxSai.Routing.EncapNextHop

/-!
# Routing — next hop groups

A next hop in a group is linked from both sides: the group's `nh_list` names the
next hop and the next hop's `nh_group_list` names the group, each with the number
of times it was added. A member id is one copy of the next hop in the group; two
`sai_map` entries record it, the list of member ids of the group and the pair
(group id, next hop id) of the member id.
-/

variable (env : Env)

namespace OpxSai

open Fib

/-! ## The fields that membership writes -/

def Nh.bumpGroup (g : Ptr) (n : Nh) : Nh := { n with nh_group_list := WList.bump n.nh_group_list g }

def Nh.dropGroup (g : Ptr) (n : Nh) : Nh := { n with nh_group_list := WList.drop n.nh_group_list g }

def Nh.unlinkGroup (g : Ptr) (n : Nh) : Nh :=
  { n with nh_group_list := WList.unlink n.nh_group_list g }

/-- `sai_fib_incr_nh_ref_count` -/
def Nh.incrRef (n : Nh) : Nh := { n with ref_count := n.ref_count + 1 }

/-- `sai_fib_decr_nh_ref_count`: the count stays at zero. -/
def Nh.decrRef (n : Nh) : Nh := { n with ref_count := n.ref_count - 1 }

def Group.bumpNh (n : Ptr) (g : Group) : Group := { g with nh_list := WList.bump g.nh_list n }

def Group.dropNh (n : Ptr) (g : Group) : Group := { g with nh_list := WList.drop g.nh_list n }

def Group.unlinkNh (n : Ptr) (g : Group) : Group := { g with nh_list := WList.unlink g.nh_list n }

def Group.incrCount (g : Group) : Group := { g with nh_count := g.nh_count + 1 }

def Group.decrCount (g : Group) : Group := { g with nh_count := g.nh_count - 1 }

/-- `sai_fib_incr_nh_group_ref_count` -/
def Group.incrRef (g : Group) : Group := { g with ref_count := g.ref_count + 1 }

/-- `sai_fib_decr_nh_group_ref_count`: the count stays at zero. -/
def Group.decrRef (g : Group) : Group := { g with ref_count := g.ref_count - 1 }

/-! ## Links -/

/-- `sai_fib_nh_add_group_link_node`; `none` when no link node could be allocated. -/
def nhAddGroupLinkNode (index : Nat) (next_hop nh_group : Ptr) (s : Fib) : Option Fib :=
  if WList.has (s.nh next_hop).nh_group_list nh_group then
    some (s.modNh next_hop (Nh.bumpGroup nh_group))
  else if env.avail (.groupLink index) then
    some (s.modNh next_hop (Nh.bumpGroup nh_group))
  else none

/-- `sai_fib_nh_find_and_remove_group_node`, and `sai_fib_nh_remove_group_link_node` on the
link that is there. -/
def nhFindAndRemoveGroupNode (next_hop nh_group : Ptr) (s : Fib) : Fib :=
  s.modNh next_hop (Nh.dropGroup nh_group)

/-- `sai_fib_nh_group_add_nh_link_node`. Only the first link of a next hop concerns the encap
next hops over the group. -/
def nhGroupAddNhLinkNode (index : Nat) (nh_group next_hop : Ptr) (s : Fib) : Option Fib :=
  if WList.has (s.group nh_group).nh_list next_hop then
    some (s.modGroup nh_group (Group.bumpNh next_hop))
  else if env.avail (.nhLink index) then
    some (nhGroupDepEncapNhUpdate env nh_group next_hop true
      (s.modGroup nh_group (Group.bumpNh next_hop)))
  else none

/-- `sai_fib_nh_group_remove_nh_link_node`: only the last link concerns the encap next hops. -/
def nhGroupRemoveNhLinkNode (nh_group next_hop : Ptr) (s : Fib) : Fib :=
  let last := WList.weight (s.group nh_group).nh_list next_hop = 1
  let s := s.modGroup nh_group (Group.dropNh next_hop)
  if last then nhGroupDepEncapNhUpdate env nh_group next_hop false s else s

/-- `sai_fib_nh_group_find_and_remove_nh_node` -/
def nhGroupFindAndRemoveNhNode (nh_group next_hop : Ptr) (s : Fib) : Fib :=
  if WList.has (s.group nh_group).nh_list next_hop then
    (nhGroupRemoveNhLinkNode env nh_group next_hop s).modGroup nh_group Group.decrCount
  else s

/-- The body of the loop of `sai_fib_nh_group_remove_from_lists`. -/
def nhGroupRemoveOne (nh_group next_hop : Ptr) (s : Fib) : Fib :=
  let s := nhFindAndRemoveGroupNode next_hop nh_group s
  let s := nhGroupFindAndRemoveNhNode env nh_group next_hop s
  (s.modGroup nh_group Group.decrRef).modNh next_hop Nh.decrRef

/-- `sai_fib_nh_group_remove_from_lists` -/
def nhGroupRemoveFromLists (nh_group : Ptr) (next_hops : List Ptr) (s : Fib) : Fib :=
  next_hops.foldl (fun s n => nhGroupRemoveOne env nh_group n s) s

/-- The body of the loop of `sai_fib_nh_group_add_in_lists`: `ok` when both links were made,
`error` with the state in which the loop is left. -/
def nhGroupAddOne (nh_group : Ptr) (index : Nat) (next_hop : Ptr) (s : Fib) : Except Fib Fib :=
  match nhAddGroupLinkNode env index next_hop nh_group s with
  | none => .error s
  | some s =>
    match nhGroupAddNhLinkNode env index nh_group next_hop s with
    | none => .error (nhFindAndRemoveGroupNode next_hop nh_group s)
    | some s =>
      .ok (((s.modGroup nh_group Group.incrCount).modGroup nh_group Group.incrRef).modNh
        next_hop Nh.incrRef)

/-- The loop of `sai_fib_nh_group_add_in_lists`: the index at which it ends. -/
def nhGroupAddFrom (env : Env) (nh_group : Ptr) : Nat → List Ptr → Fib → Nat × Fib
  | index, [], s => (index, s)
  | index, n :: next_hops, s =>
    match nhGroupAddOne env nh_group index n s with
    | .ok s => nhGroupAddFrom env nh_group (index + 1) next_hops s
    | .error s => (index, s)

/-- `sai_fib_nh_group_add_in_lists`. The index decides: a loop left at index 0 counts as a
success. -/
def nhGroupAddInLists (nh_group : Ptr) (next_hops : List Ptr) (s : Fib) : Status × Fib :=
  let x := nhGroupAddFrom env nh_group 0 next_hops s
  if x.1 ≠ 0 ∧ x.1 ≠ next_hops.length then
    (.noMemory, nhGroupRemoveFromLists env nh_group (next_hops.take x.1) x.2)
  else (.success, x.2)

/-- The body of the loop of `sai_fib_nh_group_remove_all_nh`: both links go, whatever their
weight. -/
def nhGroupRemoveAllStep (nh_group : Ptr) (s : Fib) (next_hop : Ptr) : Fib :=
  (nhGroupDepEncapNhUpdate env nh_group next_hop false
    (s.modGroup nh_group (Group.unlinkNh next_hop))).modNh next_hop (Nh.unlinkGroup nh_group)

/-- `sai_fib_nh_group_remove_all_nh` -/
def nhGroupRemoveAllNh (nh_group : Ptr) (s : Fib) : Fib :=
  (((s.group nh_group).nh_list.map WLink.self).foldl
    (nhGroupRemoveAllStep env nh_group) s).modGroup nh_group fun g => { g with nh_count := 0 }

/-! ## Requests -/

/-- `sai_fib_next_hop_fill_from_nh_id_list` -/
def nextHopFillFromNhIdList (nh_group : Ptr) (next_hop_ids : List Oid) (is_remove : Bool)
    (s : Fib) : Except Status (List Ptr) :=
  if next_hop_ids = [] then .error .invalidParameter
  else next_hop_ids.mapM fun id =>
    if id.type ≠ .nextHop then .error .invalidObjectType
    else match s.nh_id_tree id with
      | none => .error .invalidObjectId
      | some n =>
        if is_remove ∧ WList.has (s.group nh_group).nh_list n = false then
          .error .invalidObjectId
        else .ok n

/-- `sai_fib_next_hop_group_type_set`: the enumeration has the one value 0. -/
def nextHopGroupTypeSet (s32 : Int) (is_create_req : Bool) : Except Status GroupType :=
  if !is_create_req then .error (.invalidAttribute 0)
  else if s32 = 0 then .ok .ecmp else .error (.invalidAttrValue 0)

/-- `sai_fib_next_hop_group_info_fill`, with `is_create` set. The flag in the result of the
loop says whether the type attribute was there. -/
def nextHopGroupInfoFill (attr_list : List GroupAttr) (nh_group : Group) :
    Except Status Group :=
  if attr_list = [] then .error .invalidParameter
  else
    let set : Group × Bool → GroupAttr → Except Status (Group × Bool)
      | x, .type s32 =>
        match nextHopGroupTypeSet s32 true with
        | .ok type => .ok ({ x.1 with type := type }, true)
        | .error status => .error status
      | _, .nextHopMemberList => .error (.invalidAttribute 0)
      | _, .nextHopCount => .error (.invalidAttribute 0)
      | _, .other _ => .error (.unknownAttribute 0)
    match attrListParse set 0 attr_list (nh_group, false) with
    | .error status => .error status
    | .ok (nh_group, true) => .ok nh_group
    | .ok (_, false) => .error .mandatoryAttributeMissing

/-- What `sai_fib_next_hop_group_member_get_info` has collected. -/
structure MemberInfo where
  nh_grp_id : Option Oid
  nh_ids : List Oid
deriving DecidableEq

/-- `sai_fib_next_hop_group_member_get_info`; `nh_id_count` is the room for next hop ids. -/
def nextHopGroupMemberGetInfo (nh_id_count : Nat) (attr_list : List MemberAttr) :
    Except Status (Oid × List Oid) :=
  if attr_list = [] then .error .invalidParameter
  else
    let set : MemberInfo → MemberAttr → Except Status MemberInfo
      | info, .nextHopGroupId oid =>
        if info.nh_grp_id.isSome ∧ info.nh_grp_id ≠ some oid then .error .invalidParameter
        else .ok { info with nh_grp_id := some oid }
      | info, .nextHopId oid =>
        if nh_id_count ≤ info.nh_ids.length then .error .bufferOverflow
        else .ok { info with nh_ids := info.nh_ids ++ [oid] }
      | _, .weight => .error .notSupported
      | _, .other _ => .error (.unknownAttribute 0)
    match attrListParse set 0 attr_list ⟨none, []⟩ with
    | .error status => .error status
    | .ok info =>
      match info.nh_grp_id, info.nh_ids with
      | some nh_grp_id, nh_id :: nh_ids => .ok (nh_grp_id, nh_id :: nh_ids)
      | _, _ => .error .mandatoryAttributeMissing

/-! ## Groups -/

/-- `std_rbtree_insert` into the tree of groups: the key must be new. -/
def nhGroupTreeInsert (id : Oid) (nh_group : Ptr) (s : Fib) : Option Fib :=
  if (s.nh_group_tree id).isNone ∧ env.avail .groupTree then
    some { s with nh_group_tree := fun i => if i = id then some nh_group else s.nh_group_tree i }
  else none

/-- `sai_fib_nh_group_node_free` -/
def nhGroupNodeFree (nh_group : Ptr) (s : Fib) : Fib :=
  { s with groups := s.groups.free nh_group }

/-- The exit of `sai_fib_next_hop_group_create` on an error. -/
def nhGroupCreateFail (status : Status) (nh_group : Ptr) (s : Fib) : Status × Fib :=
  let s := if (s.group nh_group).nh_count ≠ 0 then nhGroupRemoveAllNh env nh_group s else s
  (status, nhGroupNodeFree nh_group s)

/-- `sai_fib_next_hop_group_create`, with the id it returns. When the tree insertion fails the
status is still that of the NPU call. -/
def nextHopGroupCreate (attr_list : List GroupAttr) (s : Fib) : (Status × Fib) × Option Oid :=
  if !env.avail .groupNode then ((.noMemory, s), none)
  else
    let nh_group := s.groups.next
    let s := { s with groups := s.groups.alloc Group.zero }
    match nextHopGroupInfoFill attr_list Group.zero with
    | .error status => (nhGroupCreateFail env status nh_group s, none)
    | .ok info =>
      let s := s.modGroup nh_group fun _ => info
      let x := s.call env (.nhGroupCreate info)
      if x.1 ≠ .success then (nhGroupCreateFail env x.1 nh_group x.2, none)
      else
        let id := uoidCreate .nextHopGroup env.hw_id
        let s := x.2.modGroup nh_group fun g => { g with group_id := id }
        match nhGroupTreeInsert env id nh_group s with
        | some s => ((.success, s), some id)
        | none => ((.success, (s.call env (.nhGroupRemove (s.group nh_group))).2), some id)

/-- `sai_fib_next_hop_group_remove` -/
def nextHopGroupRemove (nh_group_id : Oid) (s : Fib) : Status × Fib :=
  if nh_group_id.type ≠ .nextHopGroup then (.invalidObjectType, s)
  else
    match s.nh_group_tree nh_group_id with
    | none => (.invalidObjectId, s)
    | some nh_group =>
      if (s.group nh_group).ref_count ≠ 0 then (.objectInUse, s)
      else
        andThen (s.call env (.nhGroupRemove (s.group nh_group))) fun s =>
          let s := if (s.group nh_group).nh_count ≠ 0 then nhGroupRemoveAllNh env nh_group s
            else s
          let s := { s with nh_group_tree := fun i =>
            if i = nh_group_id then none else s.nh_group_tree i }
          (.success, nhGroupNodeFree nh_group s)

/-- `sai_fib_is_nh_group_size_valid` -/
def isNhGroupSizeValid (nh_group : Ptr) (next_hop_count : Nat) (s : Fib) : Bool :=
  (s.group nh_group).nh_count + next_hop_count ≤ s.max_ecmp_paths

/-- `sai_fib_next_hop_add_to_group`, from the point where the next hops are known. -/
def nextHopAddNodes (nh_group : Ptr) (next_hops : List Ptr) (s : Fib) : Status × Fib :=
  andThen (nhGroupAddInLists env nh_group next_hops s) fun s =>
    let x := s.call env (.addNhToGroup nh_group next_hops)
    if x.1 = .success then x
    else (x.1, nhGroupRemoveFromLists env nh_group next_hops x.2)

/-- `sai_fib_next_hop_add_to_group` -/
def nextHopAddToGroup (nh_group_id : Oid) (next_hop_ids : List Oid) (s : Fib) : Status × Fib :=
  if nh_group_id.type ≠ .nextHopGroup then (.invalidObjectType, s)
  else if !env.avail .nhList then (.noMemory, s)
  else
    match s.nh_group_tree nh_group_id with
    | none => (.invalidObjectId, s)
    | some nh_group =>
      if !isNhGroupSizeValid nh_group next_hop_ids.length s then (.insufficientResources, s)
      else
        match nextHopFillFromNhIdList nh_group next_hop_ids false s with
        | .error status => (status, s)
        | .ok next_hops => nextHopAddNodes env nh_group next_hops s

/-- `sai_fib_next_hop_remove_from_group` -/
def nextHopRemoveFromGroup (nh_group_id : Oid) (next_hop_ids : List Oid) (s : Fib) : Status × Fib :=
  if nh_group_id.type ≠ .nextHopGroup then (.invalidObjectType, s)
  else if !env.avail .nhList then (.noMemory, s)
  else
    match s.nh_group_tree nh_group_id with
    | none => (.invalidObjectId, s)
    | some nh_group =>
      match nextHopFillFromNhIdList nh_group next_hop_ids true s with
      | .error status => (status, s)
      | .ok next_hops =>
        andThen (s.call env (.removeNhFromGroup nh_group next_hops)) fun s =>
          (.success, nhGroupRemoveFromLists env nh_group next_hops s)

/-! ## Member ids -/

/-- `sai_map_insert` of one value. -/
def saiMapInsert (resource : Resource) (key : MapKey) (data : MapData) (s : Fib) : Status × Fib :=
  if env.avail resource then (.success, { s with sai_map := s.sai_map.insert key data })
  else (.failure, s)

def memberListKey (nh_grp_id : Oid) : MapKey := ⟨.nhGrp2MemberList, nh_grp_id⟩

def memberInfoKey (member_id : Oid) : MapKey := ⟨.nhMember2GrpInfo, member_id⟩

/-- `sai_next_hop_map_insert` -/
def nextHopMapInsert (nh_grp_id nh_id member_id : Oid) (s : Fib) : Status × Fib :=
  andThen (saiMapInsert env .memberListMap (memberListKey nh_grp_id) ⟨member_id, .null⟩ s)
    fun s => saiMapInsert env .memberInfoMap (memberInfoKey member_id) ⟨nh_grp_id, nh_id⟩ s

/-- `sai_next_hop_map_remove` -/
def nextHopMapRemove (nh_grp_id member_id : Oid) (s : Fib) : Fib :=
  let m := s.sai_map.deleteElements (memberListKey nh_grp_id) fun d => d.val1 = member_id
  let m := if m (memberListKey nh_grp_id) = some [] then m.delete (memberListKey nh_grp_id)
    else m
  { s with sai_map := m.delete (memberInfoKey member_id) }

/-- `sai_next_hop_map_get_ids_from_member_id` -/
def nextHopMapGetIdsFromMemberId (member_id : Oid) (s : Fib) : Option (Oid × Oid) :=
  (s.sai_map (memberInfoKey member_id)).map fun l =>
    match l.head? with
    | some data => (data.val1, data.val2)
    | none => (.null, .null)

/-- `sai_fib_is_next_hop_grp_member_id_in_use` -/
def isNextHopGrpMemberIdInUse (s : Fib) (id : Nat) : Bool :=
  (nextHopMapGetIdsFromMemberId (uoidCreate .nextHopGroupMember id) s).isSome

/-- `sai_fib_generate_next_hop_grp_member_id`; `none` is `SAI_NULL_OBJECT_ID`. -/
def generateNextHopGrpMemberId (s : Fib) : Option Oid :=
  (env.member_id_gen.next (isNextHopGrpMemberIdInUse s)).map (uoidCreate .nextHopGroupMember)

/-- `sai_fib_next_hop_group_member_create`, with the member id it returns. -/
def nextHopGroupMemberCreate (attr_list : List MemberAttr) (s : Fib) : (Status × Fib) × Option Oid :=
  match nextHopGroupMemberGetInfo 1 attr_list with
  | .error status => ((status, s), none)
  | .ok (nh_grp_id, nh_ids) =>
    let x := nextHopAddToGroup env nh_grp_id nh_ids s
    if x.1 ≠ .success then (x, none)
    else
      match generateNextHopGrpMemberId env x.2 with
      | none => ((.failure, x.2), some .null)
      | some member_id =>
        (nextHopMapInsert env nh_grp_id (nh_ids.headD .null) member_id x.2, some member_id)

/-- `sai_fib_next_hop_group_member_remove` -/
def nextHopGroupMemberRemove (member_id : Oid) (s : Fib) : Status × Fib :=
  if member_id.type ≠ .nextHopGroupMember then (.invalidObjectType, s)
  else
    match nextHopMapGetIdsFromMemberId member_id s with
    | none => (.itemNotFound, s)
    | some (nh_grp_id, nh_id) =>
      andThen (nextHopRemoveFromGroup env nh_grp_id [nh_id] s) fun s =>
        (.success, nextHopMapRemove nh_grp_id member_id s)

/-- `sai_next_hop_get_member_list`, for a caller with room for `count` ids. -/
def nextHopGetMemberList (count : Nat) (nh_grp_id : Oid) (s : Fib) :
    Except Status (List Oid) :=
  match s.sai_map (memberListKey nh_grp_id) with
  | none => .error .itemNotFound
  | some members =>
    if count < members.length then .error .bufferOverflow
    else .ok (members.map MapData.val1)

end OpxSai
