import OpxSai.Common.Outside
import OpxSai.Routing.Types

/-!
# L2 multicast

Groups, their members, and the entries that name a group. The trees of groups, members and entries
are kept elsewhere, and so is the map from a bridge port to its members: here they are in the state,
and a tree refuses a key that it has. What the hardware has installed is in the state too: the NPU
calls for entries change it.

An entry is created in two halves. Its attributes are checked against the groups before the locks are
taken, and what was checked is then written under them; the other calls may come between the two.
-/

variable (env : L2mcEnv)

namespace OpxSai

/-! ## Attributes and nodes -/

/-- `sai_mcast_entry_type_t` -/
inductive McastEntryType where
  | sg | xg
deriving DecidableEq

/-- `dn_sai_mcast_entry_key_t` -/
structure McastKey where
  vrf_id : Oid
  vlan_id : Nat
  grp_addr : IpAddress
  src_addr : IpAddress
deriving DecidableEq

/-- `dn_sai_mcast_entry_node_t`; the owner of all of them here is L2MC. -/
structure McastEntry where
  mcast_key : McastKey
  entry_type : McastEntryType
  action : PacketAction
  mcast_group_id : Oid
  switch_id : Oid
deriving DecidableEq

/-- `sai_l2mc_entry_t` -/
structure L2mcEntry where
  switch_id : Oid
  vlan_id : Nat
  type : McastEntryType
  destination : IpAddress
  source : IpAddress
deriving DecidableEq

/-- `sai_attribute_t` of an entry. -/
inductive L2mcEntryAttr where
  | packetAction (s32 : Int)
  | outputGroupId (oid : Oid)
  | unknown (id : Nat)
deriving DecidableEq

/-- `dn_sai_l2mc_group_node_t` -/
structure L2mcGroup where
  l2mc_group_id : Oid
  port_count : Nat
deriving DecidableEq

/-- `dn_sai_l2mc_member_node_t` -/
structure L2mcMember where
  l2mc_member_id : Oid
  l2mc_group_id : Oid
  bridge_port_id : Oid
  switch_id : Oid
deriving DecidableEq

/-- `sai_attribute_t` of a group member. -/
inductive L2mcMemberAttr where
  | groupId (oid : Oid)
  | outputId (oid : Oid)
  | unknown (id : Nat)
deriving DecidableEq

/-- What a LAG change says: `sai_bridge_port_notif_t`. -/
structure LagChange where
  lag_id : Oid
  port_list : List Oid
  lag_add_port : Bool
deriving DecidableEq

/-! ## The state -/

inductive L2mcCall where
  | groupCreate | groupDelete (l2mc_group_id : Oid)
  | groupAdd (l2mc_group_id : Oid) | groupNodeRemove (l2mc_group_id : Oid)
  | memberCreate (node : L2mcMember) | memberRemove (node : L2mcMember)
  | memberAdd (node : L2mcMember) | memberNodeRemove (l2mc_member_id : Oid)
  | mapInsert (bridge_port_id l2mc_member_id : Oid)
  | mapRemove (bridge_port_id l2mc_member_id : Oid)
  | memberLagNotif (l2mc_member_id : Oid) (data : LagChange)
  | mcastEntryCreate (node : McastEntry) | mcastEntryRemove (key : McastKey)
  | mcastEntryInsert (node : McastEntry)
deriving DecidableEq

structure L2mcEnv where
  outside : Outside L2mcCall
  /-- The ids that the NPU hands out. -/
  npu_l2mc_group_id : Oid
  npu_l2mc_member_id : Oid
  /-- `calloc` gives memory when it is asked for none of it. -/
  calloc_none : Bool

def L2mcEnv.good (group member : Oid) : L2mcEnv where
  outside := fun _ _ => .success
  npu_l2mc_group_id := group
  npu_l2mc_member_id := member
  calloc_none := true

/-- The module: the trees, the map, what the hardware has, the entries whose attributes a caller has
checked, and the calls that left the module. -/
structure L2mcDb where
  groups : Oid → Option L2mcGroup
  members : List L2mcMember
  member_map : Oid → List Oid
  entries : McastKey → Option McastEntry
  hardware : McastKey → Bool
  checked : Nat → Option McastEntry
  outside_log : CallLog L2mcCall

namespace L2mcDb

def initial : L2mcDb where
  groups := fun _ => none
  members := []
  member_map := fun _ => []
  entries := fun _ => none
  hardware := fun _ => false
  checked := fun _ => none
  outside_log := []

/-- `sai_find_l2mc_member_node` -/
def member (l2mc_member_id : Oid) (db : L2mcDb) : Option L2mcMember :=
  db.members.find? fun m => m.l2mc_member_id = l2mc_member_id

/-- `sai_find_l2mc_member_node_from_port` -/
def memberFromPort (l2mc_group_id bridge_port_id : Oid) (db : L2mcDb) : Option L2mcMember :=
  db.members.find? fun m => m.l2mc_group_id = l2mc_group_id ∧ m.bridge_port_id = bridge_port_id

def takeUp (caller : Nat) (db : L2mcDb) : L2mcDb :=
  { db with checked := fun t => if t = caller then none else db.checked t }

def modGroup (l2mc_group_id : Oid) (f : L2mcGroup → L2mcGroup) (db : L2mcDb) : L2mcDb :=
  { db with groups := fun o => if o = l2mc_group_id then (db.groups o).map f else db.groups o }

def done (c : L2mcCall) (db : L2mcDb) : L2mcDb :=
  match c with
  | .groupAdd id => { db with groups := fun o => if o = id then some ⟨id, 0⟩ else db.groups o }
  | .groupNodeRemove id => { db with groups := fun o => if o = id then none else db.groups o }
  | .memberAdd node =>
    { db with members := db.members ++ [node] }.modGroup node.l2mc_group_id fun g =>
      { g with port_count := g.port_count + 1 }
  | .memberNodeRemove id =>
    match db.member id with
    | none => db
    | some node =>
      { db with members := db.members.filter fun m => m.l2mc_member_id ≠ id }.modGroup
        node.l2mc_group_id fun g => { g with port_count := g.port_count - 1 }
  | .mapInsert bridge_port_id member_id =>
    { db with member_map := fun o =>
        if o = bridge_port_id then db.member_map o ++ [member_id] else db.member_map o }
  | .mapRemove bridge_port_id member_id =>
    { db with member_map := fun o =>
        if o = bridge_port_id then (db.member_map o).filter fun m => m ≠ member_id
        else db.member_map o }
  | .mcastEntryCreate node =>
    { db with hardware := fun k => if k = node.mcast_key then true else db.hardware k }
  | .mcastEntryRemove key => { db with hardware := fun k => if k = key then false else db.hardware k }
  | .mcastEntryInsert node =>
    { db with entries := fun k => if k = node.mcast_key then some node else db.entries k }
  | _ => db

def logged (c : L2mcCall) (db : L2mcDb) : L2mcDb :=
  { db with outside_log := env.outside.log c db.outside_log }

def call (c : L2mcCall) (db : L2mcDb) : Status × L2mcDb :=
  let rc := env.outside db.outside_log c
  (rc, if rc = .success then (db.logged env c).done c else db.logged env c)

theorem call_cases {c : L2mcCall} {db : L2mcDb} :
    (db.call env c).1 = .success ∧ (db.call env c).2 = (db.logged env c).done c ∨
    (db.call env c).1 ≠ .success ∧ (db.call env c).2 = db.logged env c := by
  by_cases h : env.outside db.outside_log c = .success
  · exact .inl ⟨h, if_pos h⟩
  · exact .inr ⟨h, if_neg h⟩

end L2mcDb

open L2mcDb

/-! ## Groups -/

/-- `sai_add_l2mc_group_node`: the tree refuses a group that it has. -/
def addL2mcGroupNode (l2mc_group_id : Oid) (db : L2mcDb) : Status × L2mcDb :=
  match db.groups l2mc_group_id with
  | some _ => (.itemAlreadyExists, db)
  | none => db.call env (.groupAdd l2mc_group_id)

/-- `sai_l2mc_create_group` -/
def l2mcCreateGroup (attr_count : Nat) (db : L2mcDb) : Status × L2mcDb :=
  if attr_count > 0 then (.invalidParameter, db)
  else
    let a := db.call env .groupCreate
    if a.1 ≠ .success then a
    else
      let b := addL2mcGroupNode env env.npu_l2mc_group_id a.2
      if b.1 ≠ .success then (b.1, (b.2.call env (.groupDelete env.npu_l2mc_group_id)).2) else b

/-- `sai_l2mc_remove_group` -/
def l2mcRemoveGroup (l2mc_group_id : Oid) (db : L2mcDb) : Status × L2mcDb :=
  match db.groups l2mc_group_id with
  | none => (.itemNotFound, db)
  | some group =>
    if group.port_count > 0 then (.objectInUse, db)
    else
      let a := db.call env (.groupDelete l2mc_group_id)
      if a.1 ≠ .success then a else a.2.call env (.groupNodeRemove l2mc_group_id)

/-! ## Group members -/

/-- `sai_l2mc_check_if_attr_bridge_port_is_lag` -/
def l2mcCheckIfAttrBridgePortIsLag (is_lag : Oid → Bool) (attr_list : List L2mcMemberAttr) : Bool :=
  attr_list.any fun attr => match attr with
    | .outputId oid => is_lag oid
    | _ => false

/-- The loop of `sai_l2mc_create_group_member` over the attributes, with the group and the bridge port
that were found. -/
def l2mcMemberAttrs :
    List L2mcMemberAttr → Option Oid → Option Oid → Except Status (Option Oid × Option Oid)
  | [], group, port => .ok (group, port)
  | .groupId oid :: attr_list, _, port =>
    if oid.type ≠ .l2mcGroup then .error .invalidObjectId
    else l2mcMemberAttrs attr_list (some oid) port
  | .outputId oid :: attr_list, group, _ => l2mcMemberAttrs attr_list group (some oid)
  | .unknown _ :: _, _, _ => .error (.unknownAttribute 0)

/-- `sai_add_l2mc_member_node`: the tree refuses a member that it has. -/
def addL2mcMemberNode (node : L2mcMember) (db : L2mcDb) : Status × L2mcDb :=
  match db.member node.l2mc_member_id with
  | some _ => (.itemAlreadyExists, db)
  | none => db.call env (.memberAdd node)

/-- `sai_l2mc_create_group_member` under its locks. -/
def l2mcCreateGroupMemberLocked (is_lag : Bool) (node : L2mcMember) (db : L2mcDb) : Status × L2mcDb :=
  match db.groups node.l2mc_group_id with
  | none => (.itemNotFound, db)
  | some _ =>
    match db.memberFromPort node.l2mc_group_id node.bridge_port_id with
    | some _ => (.itemAlreadyExists, db)
    | none =>
      let a := db.call env (.memberCreate node)
      if a.1 ≠ .success then a
      else
        let b := addL2mcMemberNode env node a.2
        if b.1 ≠ .success then (b.1, (b.2.call env (.memberRemove node)).2)
        else if is_lag then
          -- what becomes of the map is not looked at
          (.success, (b.2.call env (.mapInsert node.bridge_port_id node.l2mc_member_id)).2)
        else b

/-- `sai_l2mc_create_group_member`; `is_lag` is `sai_is_bridge_port_obj_lag`. -/
def l2mcCreateGroupMember (is_lag : Oid → Bool) (switch_id : Oid)
    (attr_list : List L2mcMemberAttr) (db : L2mcDb) : Status × L2mcDb :=
  if attr_list = [] then (.mandatoryAttributeMissing, db)
  else
    match l2mcMemberAttrs attr_list none none with
    | .error rc => (rc, db)
    | .ok (some group, some port) =>
      l2mcCreateGroupMemberLocked env (l2mcCheckIfAttrBridgePortIsLag is_lag attr_list)
        ⟨env.npu_l2mc_member_id, group, port, switch_id⟩ db
    | .ok _ => (.mandatoryAttributeMissing, db)

/-- `sai_l2mc_remove_group_member` -/
def l2mcRemoveGroupMember (is_lag : Oid → Bool) (l2mc_member_id : Oid)
    (db : L2mcDb) : Status × L2mcDb :=
  if l2mc_member_id.type ≠ .l2mcGroupMember then (.invalidObjectId, db)
  else
    match db.member l2mc_member_id with
    | none => (.itemNotFound, db)
    | some node =>
      let a := db.call env (.memberRemove node)
      if a.1 ≠ .success then a
      else
        let b := if is_lag node.bridge_port_id then
            (a.2.call env (.mapRemove node.bridge_port_id l2mc_member_id)).2
          else a.2
        b.call env (.memberNodeRemove l2mc_member_id)

/-! ## Entries -/

/-- `sai_l2mc_entry_node_init`; the VRF and the group are zero, and so is the packet action. -/
def l2mcEntryNodeInit (entry : L2mcEntry) : McastEntry where
  mcast_key := ⟨.null, entry.vlan_id, entry.destination, entry.source⟩
  entry_type := entry.type
  action := .drop
  mcast_group_id := .null
  switch_id := entry.switch_id

/-- The loop of `sai_l2mc_entry_input_params_validate_fill`, with what has been found. -/
def l2mcEntryAttrs (db : L2mcDb) :
    List L2mcEntryAttr → Bool → Bool → McastEntry → Except Status McastEntry
  | [], pkt_action_present, l2mc_grp_attr_present, node =>
    if !pkt_action_present || !l2mc_grp_attr_present then .error .mandatoryAttributeMissing
    else .ok node
  | .packetAction s32 :: attr_list, _, grp, node =>
    if packetActionValidate s32 = some .forward then
      l2mcEntryAttrs db attr_list true grp { node with action := .forward }
    else .error .invalidParameter
  | .outputGroupId oid :: attr_list, action, _, node =>
    if oid.type ≠ .l2mcGroup then .error .invalidObjectId
    else
      match db.groups oid with
      | none => .error .itemNotFound
      | some _ => l2mcEntryAttrs db attr_list action true { node with mcast_group_id := oid }
  | .unknown _ :: _, _, _, _ => .error (.unknownAttribute 0)

/-- `sai_l2mc_create_entry` before its locks. -/
def l2mcEntryValidate (entry : L2mcEntry) (attr_list : List L2mcEntryAttr) (db : L2mcDb) :
    Except Status McastEntry :=
  if attr_list = [] then .error .mandatoryAttributeMissing
  else l2mcEntryAttrs db attr_list false false (l2mcEntryNodeInit entry)

/-- `sai_insert_mcast_entry_node`: the tree refuses an entry that it has. -/
def insertMcastEntryNode (node : McastEntry) (db : L2mcDb) : Status × L2mcDb :=
  match db.entries node.mcast_key with
  | some _ => (.itemAlreadyExists, db)
  | none => db.call env (.mcastEntryInsert node)

/-- `sai_l2mc_create_entry` under its locks. -/
def l2mcCreateEntryLocked (node : McastEntry) (db : L2mcDb) : Status × L2mcDb :=
  let a := db.call env (.mcastEntryCreate node)
  if a.1 ≠ .success then a
  else
    let b := insertMcastEntryNode env node a.2
    if b.1 ≠ .success then (b.1, (b.2.call env (.mcastEntryRemove node.mcast_key)).2) else b

/-- `sai_l2mc_create_entry` with nothing between its halves. -/
def l2mcCreateEntry (entry : L2mcEntry) (attr_list : List L2mcEntryAttr)
    (db : L2mcDb) : Status × L2mcDb :=
  match l2mcEntryValidate entry attr_list db with
  | .error rc => (rc, db)
  | .ok node => l2mcCreateEntryLocked env node db

/-- `sai_l2mc_remove_entry` -/
def l2mcRemoveEntry (entry : L2mcEntry) (db : L2mcDb) : Status × L2mcDb :=
  let key := (l2mcEntryNodeInit entry).mcast_key
  match db.entries key with
  | none => (.itemNotFound, db)
  | some _ =>
    let a := db.call env (.mcastEntryRemove key)
    if a.1 ≠ .success then a
    else (.success, { a.2 with entries := fun k => if k = key then none else a.2.entries k })

/-! ## LAG changes -/

/-- The loop of `sai_l2mc_handle_lag_change_notification` over the members it has read. -/
def l2mcNotifyMembers (env : L2mcEnv) (data : LagChange) : List Oid → Status × L2mcDb → Status × L2mcDb
  | [], x => x
  | l2mc_member_id :: members, x =>
    match x.2.member l2mc_member_id with
    | none => (.invalidObjectId, x.2)
    | some _ =>
      let a := x.2.call env (.memberLagNotif l2mc_member_id data)
      if a.1 ≠ .success then a else l2mcNotifyMembers env data members a

/-- What a notification does: its status and state, the elements it allocated, and the elements it
wrote to. -/
structure LagHandled where
  rc : Status
  db : L2mcDb
  allocated : Nat
  written : List Nat

/-- `sai_l2mc_handle_lag_change_notification`. The `calloc` is for no elements, of the size of all of
them. -/
def l2mcHandleLagChangeNotification (bridge_port_id : Oid) (data : LagChange)
    (db : L2mcDb) : LagHandled :=
  let l2mc_member_cnt := (db.member_map bridge_port_id).length
  if l2mc_member_cnt = 0 then ⟨.success, db, 0, []⟩
  else if !env.calloc_none then ⟨.noMemory, db, 0, []⟩
  else
    -- the list is written whole, and read from there
    let l2mc_member_list := db.member_map bridge_port_id
    let x := l2mcNotifyMembers env data l2mc_member_list (.success, db)
    ⟨x.1, x.2, 0, List.range l2mc_member_cnt⟩

/-! ## Calls -/

inductive L2mcOp where
  | createGroup (attr_count : Nat)
  | removeGroup (l2mc_group_id : Oid)
  | createGroupMember (switch_id : Oid) (attr_list : List L2mcMemberAttr)
  | removeGroupMember (l2mc_member_id : Oid)
  | checkEntry (caller : Nat) (entry : L2mcEntry) (attr_list : List L2mcEntryAttr)
  | createEntry (caller : Nat)
  | removeEntry (entry : L2mcEntry)
  | lagChange (bridge_port_id : Oid) (data : LagChange)

structure L2mcOpCall where
  env : L2mcEnv
  op : L2mcOp

/-- One call, or one half of one; `is_lag` says which bridge ports are on a LAG. -/
def l2mcExec (is_lag : Oid → Bool) (c : L2mcOpCall) (db : L2mcDb) : Status × L2mcDb :=
  match c.op with
  | .createGroup attr_count => l2mcCreateGroup c.env attr_count db
  | .removeGroup id => l2mcRemoveGroup c.env id db
  | .createGroupMember switch_id attr_list =>
    l2mcCreateGroupMember c.env is_lag switch_id attr_list db
  | .removeGroupMember id => l2mcRemoveGroupMember c.env is_lag id db
  | .checkEntry caller entry attr_list =>
    match l2mcEntryValidate entry attr_list db with
    | .error rc => (rc, db)
    | .ok node => (.success, { db with checked := fun t => if t = caller then some node else db.checked t })
  | .createEntry caller =>
    match db.checked caller with
    | none => (.success, db)
    | some node => l2mcCreateEntryLocked c.env node (db.takeUp caller)
  | .removeEntry entry => l2mcRemoveEntry c.env entry db
  | .lagChange bridge_port_id data =>
    let x := l2mcHandleLagChangeNotification c.env bridge_port_id data db
    (x.rc, x.db)

def l2mcStep (is_lag : Oid → Bool) (c : L2mcOpCall) (db : L2mcDb) : L2mcDb := (l2mcExec is_lag c db).2

theorem l2mcCreateEntry_halves (is_lag : Oid → Bool) (caller : Nat) (entry : L2mcEntry)
    (attr_list : List L2mcEntryAttr) (db : L2mcDb) (hidle : db.checked caller = none) :
    l2mcStep is_lag ⟨env, .createEntry caller⟩
        (l2mcStep is_lag ⟨env, .checkEntry caller entry attr_list⟩ db) =
      (l2mcCreateEntry env entry attr_list db).2 := by
  unfold l2mcStep l2mcCreateEntry
  cases hvalid : l2mcEntryValidate entry attr_list db with
  | error rc =>
    have hcheck : l2mcExec is_lag ⟨env, .checkEntry caller entry attr_list⟩ db = (rc, db) := by
      simp only [l2mcExec, hvalid]
    rw [hcheck]
    simp only [l2mcExec, hidle]
  | ok node =>
    have hcheck : l2mcExec is_lag ⟨env, .checkEntry caller entry attr_list⟩ db = (.success,
        { db with checked := fun t => if t = caller then some node else db.checked t }) := by
      simp only [l2mcExec, hvalid]
    have hchecked : (fun t => if t = caller then none else
        if t = caller then some node else db.checked t) = db.checked := by
      funext t
      by_cases ht : t = caller
      · rw [if_pos ht, ht, hidle]
      · rw [if_neg ht, if_neg ht]
    rw [hcheck]
    simp only [l2mcExec, if_true, takeUp, hchecked]

end OpxSai
