import OpxSai.Common.Outside
import OpxSai.Lib.Heap

/-!
# STP

The STP module keeps a tree of instances. An instance has a tree of the VLANs that are in it and a
tree of its STP ports; a second tree has the STP ports of all instances, by their ids. Beside the
trees there is a map from each VLAN to the instance it is in.
-/

variable (env : StpEnv)

namespace OpxSai

/-- `sai_vlan_id_t` -/
abbrev VlanId := BitVec 16

/-! ## The state -/

/-- `sai_stp_port_state_t`; a value that is none of the three is `invalid`. -/
inductive StpPortState where
  | learning | forwarding | blocking
  | invalid (s32 : Int)
deriving DecidableEq

inductive StpCall where
  | infoNode | infoTree (stp_inst_id : Oid) | vlanTreeCreate | portTreeCreate
  | instanceCreate | instanceRemove (stp_inst_id : Oid)
  | vlanNode | vlanAdd (stp_inst_id : Oid) (vlan_id : VlanId)
  | vlanTree (stp_inst_id : Oid) (vlan_id : VlanId)
  | vlanRemove (stp_inst_id : Oid) (vlan_id : VlanId)
  | portNode | portTree (stp_inst_id port_id : Oid) | globalPortTree (stp_port_id : Oid)
  | portStateSet (stp_inst_id port_id : Oid) (port_state : StpPortState)
deriving DecidableEq

/-- `dn_sai_stp_info_t`, at the address `node`. The port tree has the address of each node by the
port it is for. -/
structure StpInfo where
  node : Ptr
  vlan_tree : List VlanId
  stp_port_tree : List (Oid × Ptr)
  num_ports : Nat
deriving DecidableEq

/-- `dn_sai_stp_port_info_t` -/
structure StpPort where
  stp_port_id : Oid
  stp_inst_id : Oid
  port_id : Oid
  port_state : StpPortState
deriving DecidableEq

/-- `dn_sai_id_gen_info_t` without its callback. -/
structure IdGenInfo where
  cur_id : Nat
  is_wrappped : Bool
  mask : Nat
deriving DecidableEq

/-- The next call gets behind the end of the id space, or one has before. -/
def IdGenInfo.wraps (info : IdGenInfo) : Prop := info.is_wrappped = true ∨ info.mask ≤ info.cur_id

instance (info : IdGenInfo) : Decidable info.wraps := inferInstanceAs (Decidable (_ ∨ _))

/-- `dn_sai_get_next_free_id`: it counts up to the end of the id space, and from then on it takes an
id for which `is_id_in_use` answers no. -/
structure NextFreeId where
  next : IdGenInfo → (Nat → Bool) → Option IdGenInfo
  counts : ∀ info is_id_in_use, ¬ info.wraps →
    next info is_id_in_use = some { info with cur_id := info.cur_id + 1 }
  unused : ∀ info is_id_in_use info', info.wraps → next info is_id_in_use = some info' →
    is_id_in_use info'.cur_id = false ∧ info'.wraps ∧ info'.mask = info.mask
  finds : ∀ info is_id_in_use, info.wraps → (∃ n, 0 < n ∧ n ≤ info.mask ∧ is_id_in_use n = false) →
    (next info is_id_in_use).isSome

/-- The generator that takes the smallest id that is not in use. -/
def NextFreeId.smallest : NextFreeId where
  next := fun info is_id_in_use =>
    if info.wraps then
      ((List.range info.mask).find? fun n => !is_id_in_use (n + 1)).map fun n =>
        ⟨n + 1, true, info.mask⟩
    else some { info with cur_id := info.cur_id + 1 }
  counts := by
    intro info is_id_in_use h
    rw [if_neg h]
  unused := by
    intro info is_id_in_use info' h hnext
    rw [if_pos h] at hnext
    obtain ⟨n, hn, rfl⟩ := Option.map_eq_some_iff.mp hnext
    exact ⟨by simpa using List.find?_some hn, .inl rfl, rfl⟩
  finds := by
    rintro info is_id_in_use h ⟨n, hpos, hle, hfree⟩
    rw [if_pos h, Option.isSome_map, List.find?_isSome]
    refine ⟨n - 1, List.mem_range.mpr (by omega), ?_⟩
    rw [Nat.sub_add_cancel hpos, hfree]
    rfl

structure StpEnv where
  outside : Outside StpCall
  /-- The id that `instance_create` hands out. -/
  npu_object_id : Nat
  /-- `sai_is_port_valid` -/
  port_valid : Oid → Bool
  next_free_id : NextFreeId

def StpEnv.good (npu_object_id : Nat) : StpEnv where
  outside := fun _ _ => .success
  npu_object_id := npu_object_id
  port_valid := fun _ => true
  next_free_id := .smallest

/-- The module: its trees, its map, its id generator, and the nodes of the port trees. `next_node` is
the address of the instance that is allocated next. -/
structure StpDb where
  stp_info_tree : Oid → Option StpInfo
  next_node : Ptr
  ports : Heap StpPort
  global_stp_port_tree : Oid → Option Ptr
  g_def_stp_id : Oid
  g_stp_vlan_map : VlanId → Oid
  sai_port_id_gen_info : IdGenInfo
  outside_log : CallLog StpCall

namespace StpDb

def call (c : StpCall) (db : StpDb) : Status × StpDb :=
  (env.outside db.outside_log c, { db with outside_log := env.outside.log c db.outside_log })

/-- `std_rbtree_insert`: a tree takes a key once. -/
def insert (c : StpCall) (taken : Bool) (db : StpDb) : Status × StpDb :=
  if taken then (.failure, db)
  else
    let x := db.call env c
    (if x.1 ≠ .success then .failure else .success, x.2)

def setInfo (stp_inst_id : Oid) (x : Option StpInfo) (db : StpDb) : StpDb :=
  { db with stp_info_tree := fun s => if s = stp_inst_id then x else db.stp_info_tree s }

def setVlanMap (vlan_id : VlanId) (stp_inst_id : Oid) (db : StpDb) : StpDb :=
  { db with g_stp_vlan_map := fun v => if v = vlan_id then stp_inst_id else db.g_stp_vlan_map v }

end StpDb

open StpDb

/-! ## Instances -/

/-- `sai_stp_instance_create`. An instance with the id of another one is not inserted, but the id is
taken back from the NPU. -/
def stpInstanceCreate (attr_count : Nat) (db : StpDb) : Status × StpDb :=
  if 0 < attr_count then (.failure, db)
  else
    let a := db.call env .infoNode
    if a.1 ≠ .success then (.noMemory, a.2)
    else
      let b := a.2.call env .instanceCreate
      if b.1 ≠ .success then b
      else
        let stp_inst_id := uoidCreate .stp env.npu_object_id
        let c := b.2.insert env (.infoTree stp_inst_id) (b.2.stp_info_tree stp_inst_id).isSome
        if c.1 ≠ .success then (.failure, (c.2.call env (.instanceRemove stp_inst_id)).2)
        else
          let d := c.2.call env .vlanTreeCreate
          if d.1 ≠ .success then (.failure, (d.2.call env (.instanceRemove stp_inst_id)).2)
          else
            let e := d.2.call env .portTreeCreate
            if e.1 ≠ .success then (.failure, (e.2.call env (.instanceRemove stp_inst_id)).2)
            else
              (.success, { e.2.setInfo stp_inst_id (some ⟨e.2.next_node, [], [], 0⟩) with
                next_node := e.2.next_node + 1 })

/-- `sai_stp_instance_remove` -/
def stpInstanceRemove (stp_inst_id : Oid) (db : StpDb) : Status × StpDb :=
  if stp_inst_id.type ≠ .stp then (.invalidObjectType, db)
  else
    match db.stp_info_tree stp_inst_id with
    | none => (.invalidObjectId, db)
    | some info =>
      if info.vlan_tree ≠ [] then (.objectInUse, db)
      else if info.num_ports ≠ 0 then (.objectInUse, db)
      else
        let a := db.call env (.instanceRemove stp_inst_id)
        if a.1 ≠ .success then a else (.success, a.2.setInfo stp_inst_id none)

/-! ## VLANs of an instance -/

/-- `sai_stp_vlan_add` -/
def stpVlanAdd (stp_inst_id : Oid) (vlan_id : VlanId) (db : StpDb) : Status × StpDb :=
  if stp_inst_id.type ≠ .stp then (.invalidObjectType, db)
  else
    match db.stp_info_tree stp_inst_id with
    | none => (.invalidObjectId, db)
    | some info =>
      if vlan_id ∈ info.vlan_tree then (.itemAlreadyExists, db)
      else
        let a := db.call env .vlanNode
        if a.1 ≠ .success then (.noMemory, a.2)
        else
          let b := a.2.call env (.vlanAdd stp_inst_id vlan_id)
          if b.1 ≠ .success then b
          else
            let c := b.2.insert env (.vlanTree stp_inst_id vlan_id) false
            if c.1 ≠ .success then
              (.failure, (c.2.call env (.vlanRemove stp_inst_id vlan_id)).2)
            else
              (.success, c.2.setInfo stp_inst_id
                (some { info with vlan_tree := vlan_id :: info.vlan_tree }))

/-- `sai_stp_vlan_remove` -/
def stpVlanRemove (stp_inst_id : Oid) (vlan_id : VlanId) (db : StpDb) : Status × StpDb :=
  if stp_inst_id.type ≠ .stp then (.invalidObjectType, db)
  else
    match db.stp_info_tree stp_inst_id with
    | none => (.invalidObjectId, db)
    | some info =>
      if vlan_id ∉ info.vlan_tree then (.itemNotFound, db)
      else
        let a := db.call env (.vlanRemove stp_inst_id vlan_id)
        if a.1 ≠ .success then a
        else
          (.success, a.2.setInfo stp_inst_id
            (some { info with vlan_tree := info.vlan_tree.filter (· ≠ vlan_id) }))

/-! ## VLANs and the map -/

/-- `sai_stp_vlan_destroy` -/
def stpVlanDestroy (vlan_id : VlanId) (db : StpDb) : Status × StpDb :=
  let a := stpVlanRemove env (db.g_stp_vlan_map vlan_id) vlan_id db
  if a.1 ≠ .success then a else (.success, a.2.setVlanMap vlan_id .null)

/-- `sai_stp_is_valid_stp_instance` -/
def stpIsValidStpInstance (stp_inst_id : Oid) (db : StpDb) : Bool :=
  (db.stp_info_tree stp_inst_id).isSome

/-- `sai_stp_vlan_handle`: the VLAN goes back when the new instance does not take it, if the old one
does. -/
def stpVlanHandle (vlan_id : VlanId) (stp_inst_id : Oid) (db : StpDb) : Status × StpDb :=
  if !stpIsValidStpInstance stp_inst_id db then (.invalidObjectId, db)
  else
    let a := stpVlanRemove env (db.g_stp_vlan_map vlan_id) vlan_id db
    if a.1 ≠ .success then a
    else
      let b := stpVlanAdd env stp_inst_id vlan_id a.2
      if b.1 ≠ .success then
        (b.1, (stpVlanAdd env (b.2.g_stp_vlan_map vlan_id) vlan_id b.2).2)
      else (.success, b.2.setVlanMap vlan_id stp_inst_id)

/-- `sai_stp_default_stp_vlan_update` -/
def stpDefaultStpVlanUpdate (vlan_id : VlanId) (db : StpDb) : Status × StpDb :=
  let a := if db.g_stp_vlan_map vlan_id ≠ .null then stpVlanDestroy env vlan_id db
    else (.success, db)
  if a.1 ≠ .success then a
  else
    let b := stpVlanAdd env a.2.g_def_stp_id vlan_id a.2
    if b.1 ≠ .success then b else (.success, b.2.setVlanMap vlan_id b.2.g_def_stp_id)

/-! ## Initialisation -/

/-- `SAI_INIT_DEFAULT_VLAN` -/
def initDefaultVlan : VlanId := 1

/-- The instances after `sai_stp_init`: the default one with the default VLAN, and if there is an
internal VLAN then one for L3 with that VLAN. -/
def StpDb.initial (g_def_stp_id : Oid) (l3 : Option (Oid × VlanId)) (mask : Nat) : StpDb :=
  let db : StpDb :=
    { stp_info_tree := fun s =>
        if s = g_def_stp_id then some ⟨1, [initDefaultVlan], [], 0⟩ else none
      next_node := 2
      ports := Heap.empty
      global_stp_port_tree := fun _ => none
      g_def_stp_id := g_def_stp_id
      g_stp_vlan_map := fun v => if v = initDefaultVlan then g_def_stp_id else .null
      sai_port_id_gen_info := ⟨0, false, mask⟩
      outside_log := [] }
  match l3 with
  | none => db
  | some (l3_stp_inst, internal_vlan) =>
    { (db.setInfo l3_stp_inst (some ⟨2, [internal_vlan], [], 0⟩)).setVlanMap internal_vlan
        l3_stp_inst with next_node := 3 }

end OpxSai
