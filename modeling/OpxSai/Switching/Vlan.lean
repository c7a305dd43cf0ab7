import OpxSai.Common.Lock
import OpxSai.Switching.Stp

/-!
# VLANs

The VLAN calls. The list of VLANs and the cache of VLAN members are kept elsewhere; here they are the
VLANs that have been created and the members that are found by their ids.

* `vlanCreate` — the VLAN is created under the lock, and then its attributes are set one by one.
-/

variable (env : VlanEnv)

namespace OpxSai

/-! ## Attributes -/

/-- `sai_attribute_t` of a VLAN. `notImplemented` stands for the lookup key types and the output
groups of unknown multicast, `acl` for the two ACL attributes. -/
inductive VlanAttr where
  | vlanId (u16 : VlanId)
  | maxLearnedAddresses (u32 : BitVec 32)
  | stpInstance (oid : Oid)
  | memberList
  | learnDisable (booldata : Bool)
  | notImplemented (id : Nat)
  | metaData (u32 : BitVec 32)
  | acl (id : Nat)
  | unknown (id : Nat)
deriving DecidableEq

/-- `sai_attribute_t` of a VLAN member. -/
inductive VlanMemberAttr where
  | vlanId (oid : Oid)
  | portId (oid : Oid)
  | taggingMode (u32 : BitVec 32)
  | unknown (id : Nat)
deriving DecidableEq

/-- `sai_vlan_member_node_t` -/
structure VlanMember where
  vlan_id : Oid
  port_id : Oid
  tagging_mode : BitVec 32
deriving DecidableEq

/-! ## The state -/

inductive VlanCall where
  | insertList (vlan_id : VlanId)
  | vlanCreate (vlan_id : VlanId) | vlanDelete (vlan_id : VlanId)
  | setMaxLearnedAddress (vlan_id : VlanId) (u32 : BitVec 32)
  | setLearnDisable (vlan_id : VlanId) (booldata : Bool)
  | setMetaData (vlan_id : VlanId) (u32 : BitVec 32)
  | getAttribute (vlan_id : VlanId) (attr : VlanAttr)
  | memberCreate (member : VlanMember) | memberAdd (member_id : Oid)
  | memberRemove (member_id : Oid) | memberNodeRemove (member_id : Oid)
  | setTaggingMode (member_id : Oid) (tagging_mode : BitVec 32)
deriving DecidableEq

/-- How the outside answers during one call of the module. The VLAN cache refuses a VLAN that is in
its list. -/
structure VlanEnv where
  stp : StpEnv
  outside : Outside VlanCall
  insert_in_list : (VlanId → Bool) → CallLog VlanCall → VlanId → Status
  insert_once : ∀ list log vlan_id, insert_in_list list log vlan_id = .success →
    list vlan_id = false
  /-- `sai_is_valid_vlan_id` -/
  valid : VlanId → Bool
  /-- `sai_is_internal_vlan_id` -/
  internal : VlanId → Bool
  /-- `sai_is_vlan_obj_in_use` -/
  in_use : VlanId → Bool
  /-- `sai_is_port_valid` -/
  port_valid : Oid → Bool
  /-- `sai_is_valid_vlan_tagging_mode` -/
  tagging_valid : BitVec 32 → Bool
  /-- `sai_is_port_vlan_member` -/
  port_is_member : VlanId → Oid → Bool
  /-- The member id that `vlan_member_create` hands out. -/
  npu_member_id : Oid

def VlanEnv.good (npu_object_id : Nat) : VlanEnv where
  stp := .good npu_object_id
  outside := fun _ _ => .success
  insert_in_list := fun list _ vlan_id => if list vlan_id then .itemAlreadyExists else .success
  insert_once := by
    intro list _ vlan_id h
    split at h
    · cases h
    · simpa using ‹¬ list vlan_id = true›
  valid := fun vlan_id => decide (1 ≤ vlan_id.toNat ∧ vlan_id.toNat ≤ 4094)
  internal := fun _ => false
  in_use := fun _ => false
  port_valid := fun _ => true
  tagging_valid := fun _ => true
  port_is_member := fun _ _ => false
  npu_member_id := uoidCreate .vlanMember npu_object_id

/-- The module with the STP module: the VLANs that are created, the attributes that the VLAN cache
keeps of each, the members by their ids, and the lock. -/
structure VlanDb where
  stp : StpDb
  vlan_list : VlanId → Bool
  max_learned_address : VlanId → BitVec 32
  learn_disable : VlanId → Bool
  meta_data : VlanId → BitVec 32
  members : Oid → Option VlanMember
  vlan_lock : LockDepth
  outside_log : CallLog VlanCall

namespace VlanDb

def call (c : VlanCall) (db : VlanDb) : Status × VlanDb :=
  (env.outside db.outside_log c, { db with outside_log := env.outside.log c db.outside_log })

/-- `sai_vlan_lock` -/
def lock (db : VlanDb) : VlanDb := { db with vlan_lock := db.vlan_lock.lock }

/-- `sai_vlan_unlock` -/
def unlock (db : VlanDb) : VlanDb := { db with vlan_lock := db.vlan_lock.unlock }

/-- `sai_insert_vlan_in_list` -/
def insertInList (vlan_id : VlanId) (db : VlanDb) : Status × VlanDb :=
  let rc := env.insert_in_list db.vlan_list db.outside_log vlan_id
  let db := { db with outside_log := db.outside_log ++ [(.insertList vlan_id, rc)] }
  (rc, if rc ≠ .success then db
    else { db with vlan_list := fun v => if v = vlan_id then true else db.vlan_list v })

/-- `sai_remove_vlan_from_list` -/
def removeFromList (vlan_id : VlanId) (db : VlanDb) : VlanDb :=
  { db with vlan_list := fun v => if v = vlan_id then false else db.vlan_list v }

def setMember (member_id : Oid) (x : Option VlanMember) (db : VlanDb) : VlanDb :=
  { db with members := fun m => if m = member_id then x else db.members m }

end VlanDb

open VlanDb

/-- `sai_vlan_obj_id_to_vlan_id` -/
def vlanObjIdToVlanId (vlan_obj_id : Oid) : VlanId := BitVec.ofNat 16 vlan_obj_id.id

/-- `sai_vlan_id_to_vlan_obj_id` -/
def vlanIdToVlanObjId (vlan_id : VlanId) : Oid := uoidCreate .vlan vlan_id.toNat

/-! ## Checks -/

/-- `sai_is_vlan_id_available` -/
def isVlanIdAvailable (vlan_id : VlanId) : Status :=
  if !env.valid vlan_id then .invalidVlanId
  else if env.internal vlan_id then .notSupported
  else .success

/-- `sai_is_vlan_configurable` -/
def isVlanConfigurable (vlan_id : VlanId) (db : VlanDb) : Status :=
  if isVlanIdAvailable env vlan_id ≠ .success then isVlanIdAvailable env vlan_id
  else if !db.vlan_list vlan_id then .itemNotFound
  else .success

/-! ## Attributes of a VLAN -/

/-- The `switch` of `sai_l2_set_vlan_attribute`. -/
def vlanSetAttr (vlan_id : VlanId) (attr : VlanAttr) (db : VlanDb) : Status × VlanDb :=
  match attr with
  | .vlanId _ | .memberList => (.invalidAttribute 0, db)
  | .maxLearnedAddresses u32 =>
    let x := db.call env (.setMaxLearnedAddress vlan_id u32)
    (x.1, if x.1 ≠ .success then x.2
      else { x.2 with max_learned_address := fun v =>
        if v = vlan_id then u32 else x.2.max_learned_address v })
  | .stpInstance oid =>
    let x := stpVlanHandle env.stp vlan_id oid db.stp
    (x.1, { db with stp := x.2 })
  | .learnDisable booldata =>
    let x := db.call env (.setLearnDisable vlan_id booldata)
    (x.1, if x.1 ≠ .success then x.2
      else { x.2 with learn_disable := fun v =>
        if v = vlan_id then booldata else x.2.learn_disable v })
  | .notImplemented _ => (.attrNotImplemented 0, db)
  | .metaData u32 =>
    let x := db.call env (.setMetaData vlan_id u32)
    (x.1, if x.1 ≠ .success then x.2
      else { x.2 with meta_data := fun v => if v = vlan_id then u32 else x.2.meta_data v })
  | .acl _ => (.success, db)
  | .unknown _ => (.unknownAttribute 0, db)

/-- `sai_l2_set_vlan_attribute` -/
def vlanSetAttribute (vlan_obj_id : Oid) (attr : VlanAttr) (db : VlanDb) : Status × VlanDb :=
  if vlan_obj_id.type ≠ .vlan then (.invalidObjectId, db)
  else
    let vlan_id := vlanObjIdToVlanId vlan_obj_id
    if !env.valid vlan_id then (.invalidVlanId, db)
    else
      let db := db.lock
      if !db.vlan_list vlan_id then (.itemNotFound, db.unlock)
      else
        let x := vlanSetAttr env vlan_id attr db
        (x.1, x.2.unlock)

/-- The loop of `sai_l2_get_vlan_attribute`; the values are those of the NPU library. -/
def vlanGetAttrs (env : VlanEnv) (vlan_id : VlanId) :
    Nat → List VlanAttr → Status → VlanDb → Status × VlanDb
  | _, [], rc, db => (rc, db)
  | attr_idx, attr :: attr_list, _, db =>
    let x : Status × VlanDb := match attr with
      | .vlanId _ => (.success, db)
      | .maxLearnedAddresses _ | .stpInstance _ | .memberList | .learnDisable _ | .metaData _ =>
        db.call env (.getAttribute vlan_id attr)
      | .notImplemented _ | .acl _ => (.attrNotImplemented attr_idx, db)
      | .unknown _ => (.invalidAttribute 0, db)
    if x.1 ≠ .success then (getIndexedRetVal x.1 attr_idx, x.2)
    else vlanGetAttrs env vlan_id (attr_idx + 1) attr_list x.1 x.2

/-- `sai_l2_get_vlan_attribute` -/
def vlanGetAttribute (vlan_obj_id : Oid) (attr_list : List VlanAttr) (db : VlanDb) : Status × VlanDb :=
  if vlan_obj_id.type ≠ .vlan then (.invalidObjectId, db)
  else
    let vlan_id := vlanObjIdToVlanId vlan_obj_id
    if !env.valid vlan_id then (.invalidVlanId, db)
    else if attr_list = [] then (.invalidParameter, db)
    else
      let db := db.lock
      if !db.vlan_list vlan_id then (.itemNotFound, db.unlock)
      else
        let x := vlanGetAttrs env vlan_id 0 attr_list .failure db
        (x.1, x.2.unlock)

/-! ## Remove -/

/-- `sai_l2_delete_vlan`: the VLAN leaves its STP instance before the NPU is asked. -/
def vlanDelete (env : VlanEnv) (vlan_id : VlanId) (db : VlanDb) : Status × VlanDb :=
  let a := stpVlanDestroy env.stp vlan_id db.stp
  let db := { db with stp := a.2 }
  if a.1 ≠ .success then (a.1, db)
  else
    let b := db.call env (.vlanDelete vlan_id)
    if b.1 ≠ .success then b else (b.1, b.2.removeFromList vlan_id)

/-- `sai_l2_remove_vlan`. The lock is not given back when the VLAN is in use. -/
def vlanRemove (vlan_obj_id : Oid) (db : VlanDb) : Status × VlanDb :=
  if vlan_obj_id.type ≠ .vlan then (.invalidObjectId, db)
  else
    let vlan_id := vlanObjIdToVlanId vlan_obj_id
    let db := db.lock
    let rc := isVlanConfigurable env vlan_id db
    if rc ≠ .success then (rc, db.unlock)
    else if env.in_use vlan_id then (.objectInUse, db)
    else
      let x := vlanDelete env vlan_id db
      (x.1, x.2.unlock)

/-! ## Create -/

/-- `sai_l2_create_vlan` up to the end of its locked part. A VLAN that the NPU has already is as
good as created, and one that does not get into the default STP instance stays. -/
def vlanCreateLocked (vlan_id : VlanId) (db : VlanDb) : Status × VlanDb :=
  let db := db.lock
  let rc := isVlanIdAvailable env vlan_id
  if rc ≠ .success then (rc, db.unlock)
  else
    let a := db.insertInList env vlan_id
    if a.1 ≠ .success then (a.1, a.2.unlock)
    else
      let b := a.2.call env (.vlanCreate vlan_id)
      if b.1 ≠ .success ∧ b.1 ≠ .itemAlreadyExists then
        (b.1, (b.2.removeFromList vlan_id).unlock)
      else if vlan_id ≠ initDefaultVlan then
        let c := stpDefaultStpVlanUpdate env.stp vlan_id b.2.stp
        (c.1, { b.2 with stp := c.2 }.unlock)
      else (b.1, b.2.unlock)

/-- The loop of `sai_l2_create_vlan` over all attributes, the VLAN id among them: the status is that
of the last one, and each one that fails removes the VLAN. -/
def vlanCreateAttrs (env : VlanEnv) (vlan_id : VlanId) :
    List VlanAttr → Status → VlanDb → Status × VlanDb
  | [], rc, db => (rc, db)
  | attr :: attr_list, _, db =>
    let x := vlanSetAttribute env (vlanIdToVlanObjId vlan_id) attr db
    let db := if x.1 ≠ .success then (vlanRemove env (vlanIdToVlanObjId vlan_id) x.2).2 else x.2
    vlanCreateAttrs env vlan_id attr_list x.1 db

def vlanIdOf : List VlanAttr → Option VlanId
  | [] => none
  | .vlanId u16 :: _ => some u16
  | _ :: attr_list => vlanIdOf attr_list

/-- `sai_l2_create_vlan` -/
def vlanCreate (attr_list : List VlanAttr) (db : VlanDb) : Status × VlanDb :=
  match vlanIdOf attr_list with
  | none => (.mandatoryAttributeMissing, db)
  | some vlan_id =>
    let x := vlanCreateLocked env vlan_id db
    if 1 < attr_list.length then vlanCreateAttrs env vlan_id attr_list x.1 x.2 else x

/-! ## Members -/

/-- What the loop of `sai_l2_create_vlan_member` finds. -/
structure VlanMemberScan where
  vlan_id : Option Oid
  port_id : Option Oid
  tagging_mode : BitVec 32

/-- The loop of `sai_l2_create_vlan_member`. -/
def vlanMemberScan : List VlanMemberAttr → VlanMemberScan → Except Status VlanMemberScan
  | [], scan => .ok scan
  | .vlanId oid :: attr_list, scan =>
    if oid.type ≠ .vlan then .error .invalidObjectId
    else vlanMemberScan attr_list { scan with vlan_id := some oid }
  | .portId oid :: attr_list, scan => vlanMemberScan attr_list { scan with port_id := some oid }
  | .taggingMode u32 :: attr_list, scan => vlanMemberScan attr_list { scan with tagging_mode := u32 }
  | .unknown _ :: _, _ => .error (.unknownAttribute 0)

/-- `sai_validate_vlan_port` -/
def validateVlanPort (env : VlanEnv) (port_id : Oid) (tagging_mode : BitVec 32) : Status :=
  if port_id.type ≠ .port then .invalidObjectType
  else if !env.port_valid port_id then .invalidObjectId
  else if !env.tagging_valid tagging_mode then .invalidParameter
  else .success

/-- The locked part of `sai_l2_create_vlan_member`. -/
def vlanMemberCreateLocked (member : VlanMember) (db : VlanDb) : Status × VlanDb :=
  let vlan_id := vlanObjIdToVlanId member.vlan_id
  let rc := isVlanConfigurable env vlan_id db
  if rc ≠ .success then (rc, db)
  else
    let rc := validateVlanPort env member.port_id member.tagging_mode
    if rc ≠ .success then (rc, db)
    else if env.port_is_member vlan_id member.port_id then (.itemAlreadyExists, db)
    else
      let a := db.call env (.memberCreate member)
      if a.1 ≠ .success then a
      else
        let b := a.2.call env (.memberAdd env.npu_member_id)
        if b.1 ≠ .success then (b.1, (b.2.call env (.memberRemove env.npu_member_id)).2)
        else (b.1, b.2.setMember env.npu_member_id (some member))

/-- `sai_l2_create_vlan_member`. `SAI_VLAN_TAGGING_MODE_UNTAGGED` is 0. -/
def vlanMemberCreate (attr_list : List VlanMemberAttr) (db : VlanDb) : Status × VlanDb :=
  if attr_list = [] then (.mandatoryAttributeMissing, db)
  else
    match vlanMemberScan attr_list ⟨none, none, 0⟩ with
    | .error rc => (rc, db)
    | .ok ⟨some vlan_id, some port_id, tagging_mode⟩ =>
      let x := vlanMemberCreateLocked env ⟨vlan_id, port_id, tagging_mode⟩ db.lock
      (x.1, x.2.unlock)
    | .ok _ => (.mandatoryAttributeMissing, db)

/-- The `switch` of `sai_l2_set_vlan_member_attribute`; the old mode is put back when the NPU does
not take the new one. -/
def vlanMemberSetAttr (member_id : Oid) (member : VlanMember)
    (attr : VlanMemberAttr) (db : VlanDb) : Status × VlanDb :=
  match attr with
  | .vlanId _ | .portId _ => (.invalidAttribute 0, db)
  | .taggingMode u32 =>
    if member.tagging_mode ≠ u32 then
      let x := db.call env (.setTaggingMode member_id u32)
      (x.1, if x.1 ≠ .success then x.2
        else x.2.setMember member_id (some { member with tagging_mode := u32 }))
    else (.success, db)
  | .unknown _ => (.unknownAttribute 0, db)

/-- `sai_l2_set_vlan_member_attribute` -/
def vlanMemberSetAttribute (member_id : Oid) (attr : VlanMemberAttr) (db : VlanDb) : Status × VlanDb :=
  if member_id.type ≠ .vlanMember then (.invalidObjectId, db)
  else
    let db := db.lock
    match db.members member_id with
    | none => (.itemNotFound, db.unlock)
    | some member =>
      let x := vlanMemberSetAttr env member_id member attr db
      (x.1, x.2.unlock)

/-- The loop of `sai_l2_get_vlan_member_attribute`: the attributes with their values. -/
def vlanMemberGetAttrs (member : VlanMember) :
    Nat → List VlanMemberAttr → Status × List VlanMemberAttr
  | _, [] => (.success, [])
  | attr_idx, attr :: attr_list =>
    let x : Status × VlanMemberAttr := match attr with
      | .vlanId _ => (.success, .vlanId member.vlan_id)
      | .portId _ => (.success, .portId member.port_id)
      | .taggingMode _ => (.success, .taggingMode member.tagging_mode)
      | .unknown n => (.unknownAttribute attr_idx, .unknown n)
    if x.1 ≠ .success then (x.1, x.2 :: attr_list)
    else
      let y := vlanMemberGetAttrs member (attr_idx + 1) attr_list
      (y.1, x.2 :: y.2)

/-- `sai_l2_get_vlan_member_attribute` -/
def vlanMemberGetAttribute (member_id : Oid) (attr_list : List VlanMemberAttr) (db : VlanDb) :
    Status × List VlanMemberAttr × VlanDb :=
  if member_id.type ≠ .vlanMember then (.invalidObjectId, attr_list, db)
  else
    let db := db.lock
    match db.members member_id with
    | none => (.itemNotFound, attr_list, db.unlock)
    | some member =>
      let x := vlanMemberGetAttrs member 0 attr_list
      (x.1, x.2, db.unlock)

/-- `sai_l2_remove_vlan_member` -/
def vlanMemberRemove (member_id : Oid) (db : VlanDb) : Status × VlanDb :=
  if member_id.type ≠ .vlanMember then (.invalidObjectId, db)
  else
    let db := db.lock
    match db.members member_id with
    | none => (.itemNotFound, db.unlock)
    | some _ =>
      let a := db.call env (.memberRemove member_id)
      if a.1 ≠ .success then (a.1, a.2.unlock)
      else
        let b := a.2.call env (.memberNodeRemove member_id)
        (b.1, (if b.1 ≠ .success then b.2 else b.2.setMember member_id none).unlock)

/-! ## The system -/

inductive VlanOp where
  | create (attr_list : List VlanAttr)
  | remove (vlan_obj_id : Oid)
  | set (vlan_obj_id : Oid) (attr : VlanAttr)
  | get (vlan_obj_id : Oid) (attr_list : List VlanAttr)
  | memberCreate (attr_list : List VlanMemberAttr)
  | memberRemove (member_id : Oid)
  | memberSet (member_id : Oid) (attr : VlanMemberAttr)
  | memberGet (member_id : Oid) (attr_list : List VlanMemberAttr)
  | instanceCreate (attr_count : Nat)
  | instanceRemove (stp_inst_id : Oid)

structure VlanOpCall where
  env : VlanEnv
  op : VlanOp

def vlanExec (c : VlanOpCall) (db : VlanDb) : Status × VlanDb :=
  match c.op with
  | .create attr_list => vlanCreate c.env attr_list db
  | .remove vlan_obj_id => vlanRemove c.env vlan_obj_id db
  | .set vlan_obj_id attr => vlanSetAttribute c.env vlan_obj_id attr db
  | .get vlan_obj_id attr_list => vlanGetAttribute c.env vlan_obj_id attr_list db
  | .memberCreate attr_list => vlanMemberCreate c.env attr_list db
  | .memberRemove member_id => vlanMemberRemove c.env member_id db
  | .memberSet member_id attr => vlanMemberSetAttribute c.env member_id attr db
  | .memberGet member_id attr_list =>
    let x := vlanMemberGetAttribute member_id attr_list db
    (x.1, x.2.2)
  | .instanceCreate attr_count =>
    let x := stpInstanceCreate c.env.stp attr_count db.stp
    (x.1, { db with stp := x.2 })
  | .instanceRemove stp_inst_id =>
    let x := stpInstanceRemove c.env.stp stp_inst_id db.stp
    (x.1, { db with stp := x.2 })

def vlanStep (c : VlanOpCall) (db : VlanDb) : VlanDb := (vlanExec c db).2

/-- The modules after their initialisation, with the default VLAN and nobody in the lock. -/
def VlanDb.initial (stp : StpDb) : VlanDb where
  stp := stp
  vlan_list := fun v => v = initDefaultVlan
  max_learned_address := fun _ => 0
  learn_disable := fun _ => false
  meta_data := fun _ => 0
  members := fun _ => none
  vlan_lock := ⟨0, false⟩
  outside_log := []

end OpxSai
