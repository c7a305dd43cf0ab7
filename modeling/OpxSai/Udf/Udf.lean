import OpxSai.Common.Outside

/-!
# User defined fields

A UDF group has a type, a length and a list of its UDFs, which it counts. A UDF of a group for hashing has
a mask with one byte for each byte of the group's length.

A create that the tree refuses is answered with success, and so is every remove of a group that gets past
the check of its type. The copy that a set of a UDF works on shares the buffer of the mask with the node.
-/

namespace OpxSai

/-! ## Attributes and nodes -/

/-- `sai_udf_group_type_t` -/
inductive UdfGroupType where
  | generic | hash
  | other (s32 : Int)
deriving DecidableEq

/-- `sai_udf_base_t` -/
inductive UdfBase where
  | l2 | l3 | l4
  | other (s32 : Int)
deriving DecidableEq

/-- `sai_attribute_t` of a UDF group. -/
inductive UdfGroupAttr where
  | type (s32 : UdfGroupType)
  | length (u16 : Nat)
  | udfList
  | unknown (id : Nat)
deriving DecidableEq

/-- `sai_attribute_t` of a UDF. A mask without a pointer is `none`. -/
inductive UdfAttr where
  | matchId (oid : Oid)
  | groupId (oid : Oid)
  | base (s32 : UdfBase)
  | offset (u16 : Nat)
  | hashMask (u8list : Option (List UInt8))
  | unknown (id : Nat)
deriving DecidableEq

/-- What may be set later: the columns of `dn_sai_udf_attr`. -/
def UdfAttr.settable : UdfAttr → Bool
  | .base _ | .offset _ | .hashMask _ => true
  | _ => false

/-- `dn_sai_udf_group_t`. A pointer to a UDF is its id. -/
structure UdfGroup where
  type : UdfGroupType
  length : Nat
  udf_list : List Oid
  udf_count : Nat
deriving DecidableEq

/-- What `calloc` and `dn_sai_udf_group_init` leave. -/
def UdfGroup.zero : UdfGroup := ⟨.generic, 0, [], 0⟩

/-- `dn_sai_udf_t`. The pointer to the group is its id, and the mask is the buffer that it points to. -/
structure Udf where
  match_obj_id : Oid
  p_udf_group : Oid
  base : UdfBase
  offset : Nat
  hash_mask : Option (List UInt8)
deriving DecidableEq

/-- What `calloc` and `dn_sai_udf_node_init` leave. -/
def Udf.zero : Udf := ⟨.null, .null, .l2, 0, none⟩

/-! ## The state -/

/-- What leaves the module. A node that the NPU refused is removed without an id. -/
inductive UdfCall where
  | nodeAlloc | maskAlloc (count : Nat) | nodeRemove
  | groupCreate (udf_group_id : Oid) | groupRemove (udf_group_id : Oid)
  | groupInsert (udf_group_id : Oid)
  | udfCreate (udf_id : Oid) | udfRemove (udf_id : Oid)
  | udfAttributeSet (udf_id : Oid) (attr : UdfAttr)
  | udfInsert (udf_id : Oid)
deriving DecidableEq

structure UdfEnv where
  outside : Outside UdfCall
  /-- The id that the NPU writes for a new object, zero if it writes none. -/
  hw_id : Nat
  /-- `sai_attribute_validate` with the tables of the module. -/
  group_validate : List UdfGroupAttr → Status
  udf_validate : List UdfAttr → Status
  set_validate : UdfAttr → Status
  /-- A UDF is not created without a group, and only what the table lets be set is set. -/
  create_checks : ∀ attr_list, udf_validate attr_list = .success → ∃ oid, .groupId oid ∈ attr_list
  set_checks : ∀ attr, set_validate attr = .success → attr.settable = true

def UdfAttr.isGroup : UdfAttr → Bool
  | .groupId _ => true
  | _ => false

def UdfEnv.good (hw_id : Nat) : UdfEnv where
  outside := fun _ _ => .success
  hw_id := hw_id
  group_validate := fun _ => .success
  udf_validate := fun attr_list => if attr_list.any UdfAttr.isGroup then .success else .mandatoryAttributeMissing
  set_validate := fun attr => if attr.settable then .success else .invalidAttribute 0
  create_checks := by
    intro attr_list h
    split at h
    next hany =>
      obtain ⟨attr, hmem, hgroup⟩ := List.any_eq_true.mp hany
      cases attr with
      | groupId oid => exact ⟨oid, hmem⟩
      | _ => cases hgroup
    · cases h
  set_checks := by
    intro attr h
    split at h
    · assumption
    · cases h

/-- The two trees, and the groups and UDFs that the NPU holds. -/
structure UdfDb where
  groups : Oid → Option UdfGroup
  udfs : Oid → Option Udf
  npu_groups : Oid → Bool
  npu_udfs : Oid → Bool
  outside_log : CallLog UdfCall

namespace UdfDb

def initial : UdfDb := ⟨fun _ => none, fun _ => none, fun _ => false, fun _ => false, []⟩

def apply (db : UdfDb) : UdfCall → UdfDb
  | .groupCreate id => { db with npu_groups := fun o => if o = id then true else db.npu_groups o }
  | .groupRemove id => { db with npu_groups := fun o => if o = id then false else db.npu_groups o }
  | .udfCreate id => { db with npu_udfs := fun o => if o = id then true else db.npu_udfs o }
  | .udfRemove id => { db with npu_udfs := fun o => if o = id then false else db.npu_udfs o }
  | _ => db

def call (db : UdfDb) (env : UdfEnv) (c : UdfCall) : Status × UdfDb :=
  let answer := env.outside db.outside_log c
  let db := { db with outside_log := env.outside.log c db.outside_log }
  (answer, if answer = .success then db.apply c else db)

def putGroup (udf_group_id : Oid) (group : Option UdfGroup) (db : UdfDb) : UdfDb :=
  { db with groups := fun o => if o = udf_group_id then group else db.groups o }

def putUdf (udf_id : Oid) (udf : Option Udf) (db : UdfDb) : UdfDb :=
  { db with udfs := fun o => if o = udf_id then udf else db.udfs o }

def modGroup (udf_group_id : Oid) (f : UdfGroup → UdfGroup) (db : UdfDb) : UdfDb :=
  { db with groups := fun o => if o = udf_group_id then (db.groups o).map f else db.groups o }

end UdfDb

open UdfDb

/-- `dn_sai_udf_group_type_get` finds a group, and its type is that for hashing. -/
def udfGroupHash (db : UdfDb) (udf_group_id : Oid) : Bool :=
  decide (udf_group_id.type = .udfGroup ∧ ∃ group ∈ db.groups udf_group_id, group.type = .hash)

/-! ## Groups -/

section Groups

variable (env : UdfEnv)

/-- One attribute of `dn_sai_udf_group_attr_set`. -/
def udfGroupAttrStore (group : UdfGroup) : UdfGroupAttr → Status × UdfGroup
  | .type (.other _) => (.invalidAttrValue 0, group)
  | .type s32 => (.success, { group with type := s32 })
  | .length u16 => if u16 = 0 then (.invalidAttrValue 0, group) else (.success, { group with length := u16 })
  | .udfList => (.invalidAttribute 0, group)
  | .unknown _ => (.unknownAttribute 0, group)

/-- `dn_sai_udf_group_attr_set`, from an index on. -/
def udfGroupAttrSet : Nat → List UdfGroupAttr → UdfGroup → Status × UdfGroup
  | _, [], group => (.success, group)
  | attr_idx, attr :: attr_list, group =>
    let set := udfGroupAttrStore group attr
    if set.1 ≠ .success then (getIndexedRetVal set.1 attr_idx, set.2)
    else udfGroupAttrSet (attr_idx + 1) attr_list set.2

def udfCreateBack (db : UdfDb) : UdfDb := if env.hw_id ≠ 0 then (db.call env .nodeRemove).2 else db

/-- `dn_sai_udf_group_create`, with the id that it hands out. -/
def udfGroupCreate (attr_list : List UdfGroupAttr) (db : UdfDb) : Status × Oid × UdfDb :=
  if env.group_validate attr_list ≠ .success then (env.group_validate attr_list, .null, db)
  else
    let alloc := db.call env .nodeAlloc
    if alloc.1 ≠ .success then (.noMemory, .null, alloc.2)
    else
      let set := udfGroupAttrSet 0 attr_list .zero
      if set.1 ≠ .success then (set.1, .null, alloc.2)
      else
        let id := uoidCreate .udfGroup env.hw_id
        let made := alloc.2.call env (.groupCreate id)
        if made.1 ≠ .success then (made.1, .null, udfCreateBack env made.2)
        else
          let inserted := made.2.call env (.groupInsert id)
          -- a tree that refuses leaves the status as it is
          if inserted.1 ≠ .success ∨ (inserted.2.groups id).isSome = true then (.success, id, inserted.2)
          else (.success, id, inserted.2.putGroup id (some set.2))

/-- `dn_sai_udf_group_remove` -/
def udfGroupRemove (udf_group_id : Oid) (db : UdfDb) : Status × UdfDb :=
  if udf_group_id.type ≠ .udfGroup then (.invalidObjectType, db)
  else
    match db.groups udf_group_id with
    | none => (.success, db)
    | some group =>
      if group.udf_count ≠ 0 then (.success, db)
      else
        let removed := (db.putGroup udf_group_id none).call env (.groupRemove udf_group_id)
        if removed.1 ≠ .success then
          let inserted := removed.2.call env (.groupInsert udf_group_id)
          (.success, if inserted.1 = .success then inserted.2.putGroup udf_group_id (some group) else inserted.2)
        else (.success, removed.2)

end Groups

/-! ## UDFs -/

section Udfs

variable (env : UdfEnv)

/-- The group of a UDF. That of a UDF without one is never read. -/
def UdfDb.groupOf (db : UdfDb) (udf : Udf) : UdfGroup := (db.groups udf.p_udf_group).getD .zero

/-- One attribute of `dn_sai_udf_attr_set`; the mask is set after the others. -/
def udfAttrStore (db : UdfDb) (udf : Udf) : UdfAttr → Status × Udf
  | .matchId oid =>
    if oid.type ≠ .udfMatch then (.invalidAttrValue 0, udf) else (.success, { udf with match_obj_id := oid })
  | .groupId oid =>
    if oid.type ≠ .udfGroup then (.invalidAttrValue 0, udf)
    else if (db.groups oid).isSome = false then (.invalidObjectId, udf)
    else (.success, { udf with p_udf_group := oid })
  | .base (.other _) => (.invalidAttrValue 0, udf)
  | .base s32 => (.success, { udf with base := s32 })
  | .offset u16 => (.success, { udf with offset := u16 })
  | .hashMask _ => (.success, udf)
  | .unknown _ => (.unknownAttribute 0, udf)

/-- The loop of `dn_sai_udf_attr_set`, from an index on, with the mask that it finds last. -/
def udfAttrWalk (db : UdfDb) : Nat → List UdfAttr → Udf → Option (Nat × Option (List UInt8)) →
    Status × Udf × Option (Nat × Option (List UInt8))
  | _, [], udf, mask => (.success, udf, mask)
  | attr_idx, attr :: attr_list, udf, mask =>
    let set := udfAttrStore db udf attr
    if set.1 ≠ .success then (getIndexedRetVal set.1 attr_idx, set.2, mask)
    else
      udfAttrWalk db (attr_idx + 1) attr_list set.2
        (match attr with
         | .hashMask u8list => some (attr_idx, u8list)
         | _ => mask)

/-- `dn_sai_udf_hash_mask_set` -/
def udfHashMaskSet (udf : Udf) (hash_mask : Option (List UInt8)) (db : UdfDb) : Status × Udf × UdfDb :=
  let group := db.groupOf udf
  if group.type ≠ .hash then (.invalidAttribute 0, udf, db)
  else
    match hash_mask with
    | none => (.invalidAttrValue 0, udf, db)
    | some bytes =>
      if bytes = [] ∨ group.length ≠ bytes.length then (.invalidAttrValue 0, udf, db)
      else if udf.hash_mask = none then
        let alloc := db.call env (.maskAlloc bytes.length)
        if alloc.1 ≠ .success then (.noMemory, udf, alloc.2)
        else (.success, { udf with hash_mask := some bytes }, alloc.2)
      else (.success, { udf with hash_mask := some bytes }, db)

/-- `dn_sai_udf_default_hash_mask_fill` -/
def udfDefaultHashMaskFill (udf : Udf) (db : UdfDb) : Status × Udf × UdfDb :=
  let group := db.groupOf udf
  if group.type ≠ .hash then (.success, udf, db)
  else
    let alloc := db.call env (.maskAlloc group.length)
    if alloc.1 ≠ .success then (.noMemory, udf, alloc.2)
    else (.success, { udf with hash_mask := some (List.replicate group.length 0xFF) }, alloc.2)

/-- `dn_sai_udf_attr_set` -/
def udfAttrSet (is_create : Bool) (attr_list : List UdfAttr) (udf : Udf) (db : UdfDb) : Status × Udf × UdfDb :=
  let walked := udfAttrWalk db 0 attr_list udf none
  if walked.1 ≠ .success then (walked.1, walked.2.1, db)
  else
    match walked.2.2 with
    | some (hash_mask_attr_index, u8list) =>
      let set := udfHashMaskSet env walked.2.1 u8list db
      (getIndexedRetVal set.1 hash_mask_attr_index, set.2)
    | none => if is_create = true then udfDefaultHashMaskFill env walked.2.1 db else (.success, walked.2.1, db)

/-- `dn_sai_udf_group_udf_list_update`, when a UDF is added. -/
def udfGroupListAdd (udf_id : Oid) (group : UdfGroup) : UdfGroup :=
  { group with udf_list := group.udf_list ++ [udf_id], udf_count := group.udf_count + 1 }

/-- `dn_sai_udf_group_udf_list_update`, when a UDF is removed. -/
def udfGroupListRemove (udf_id : Oid) (group : UdfGroup) : UdfGroup :=
  { group with udf_list := group.udf_list.erase udf_id, udf_count := group.udf_count - 1 }

/-- `dn_sai_udf_create`, with the id that it hands out. -/
def udfCreate (attr_list : List UdfAttr) (db : UdfDb) : Status × Oid × UdfDb :=
  if env.udf_validate attr_list ≠ .success then (env.udf_validate attr_list, .null, db)
  else
    let alloc := db.call env .nodeAlloc
    if alloc.1 ≠ .success then (.noMemory, .null, alloc.2)
    else
      let set := udfAttrSet env true attr_list .zero alloc.2
      if set.1 ≠ .success then (set.1, .null, set.2.2)
      else
        let id := uoidCreate .udf env.hw_id
        let made := set.2.2.call env (.udfCreate id)
        if made.1 ≠ .success then (made.1, .null, udfCreateBack env made.2)
        else
          let inserted := made.2.call env (.udfInsert id)
          -- a tree that refuses leaves the status as it is
          if inserted.1 ≠ .success ∨ (inserted.2.udfs id).isSome = true then (.success, id, inserted.2)
          else
            (.success, id,
              (inserted.2.putUdf id (some set.2.1)).modGroup set.2.1.p_udf_group (udfGroupListAdd id))

/-- `dn_sai_udf_remove` -/
def udfRemove (udf_id : Oid) (db : UdfDb) : Status × UdfDb :=
  if udf_id.type ≠ .udf then (.invalidObjectType, db)
  else
    match db.udfs udf_id with
    | none => (.invalidObjectId, db)
    | some udf =>
      let removed := (db.putUdf udf_id none).call env (.udfRemove udf_id)
      if removed.1 ≠ .success then
        let inserted := removed.2.call env (.udfInsert udf_id)
        (removed.1, if inserted.1 = .success then inserted.2.putUdf udf_id (some udf) else inserted.2)
      else (.success, removed.2.modGroup udf.p_udf_group (udfGroupListRemove udf_id))

/-- `dn_sai_udf_set_attribute` -/
def udfSetAttribute (udf_id : Oid) (attr : UdfAttr) (db : UdfDb) : Status × UdfDb :=
  if udf_id.type ≠ .udf then (.invalidObjectType, db)
  else if env.set_validate attr ≠ .success then (env.set_validate attr, db)
  else
    match db.udfs udf_id with
    | none => (.invalidObjectId, db)
    | some udf =>
      let set := udfAttrSet env false [attr] udf db
      -- the copy has the buffer of the node
      let shared := if udf.hash_mask.isSome = true then
          set.2.2.putUdf udf_id (some { udf with hash_mask := set.2.1.hash_mask })
        else set.2.2
      if set.1 ≠ .success then (set.1, shared)
      else
        let applied := shared.call env (.udfAttributeSet udf_id attr)
        if applied.1 ≠ .success then (applied.1, applied.2)
        else (.success, applied.2.putUdf udf_id (some set.2.1))

end Udfs

end OpxSai
