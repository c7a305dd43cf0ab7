import OpxSai.Common.Outside

/-!
# Hash objects

A hash object has a list of native fields and a list of UDF groups. Each of the hash attributes of the
switch points to a hash object or to none, and the NPU is given the two lists of the object for it. An
object counts the attributes that point to it.

The index of a new object is chosen before the lock is taken, and it is marked as used after the lock was
given back. Two errors return with the lock taken: a call after that waits for ever, and is `none`.
-/

namespace OpxSai

/-! ## Attributes and nodes -/

/-- The attributes of the switch that take a hash object. Each has an entry of its own in
`hash_obj_types`. -/
inductive SwitchHashAttr where
  | ecmpHash | lagHash
  | ecmpHashIpv4 | ecmpHashIpv4InIpv4 | ecmpHashIpv6
  | lagHashIpv4 | lagHashIpv4InIpv4 | lagHashIpv6
deriving DecidableEq

/-- `dn_switch_hash_attr_id` -/
def SwitchHashAttr.all : List SwitchHashAttr :=
  [.ecmpHash, .lagHash, .ecmpHashIpv4, .ecmpHashIpv4InIpv4, .ecmpHashIpv6, .lagHashIpv4,
   .lagHashIpv4InIpv4, .lagHashIpv6]

/-- `sai_attribute_t` of a hash object. -/
inductive HashAttr where
  | nativeHashFieldList (s32list : List Int)
  | udfGroupList (objlist : List Oid)
  | unknown (id : Nat)
deriving DecidableEq

structure HashFields where
  native_fields_list : List Int
  udf_group_list : List Oid
deriving DecidableEq

def HashFields.empty : HashFields := ⟨[], []⟩

/-- `dn_sai_hash_object_t` -/
structure HashObject extends HashFields where
  ref_count : Nat
deriving DecidableEq

/-- What `calloc` leaves. -/
def HashObject.zero : HashObject := ⟨.empty, 0⟩

/-! ## The state -/

/-- What leaves the module. A set of fields is marked when it takes an earlier one back. -/
inductive HashCall where
  | nodeAlloc
  | insert (obj_id : Oid)
  | switchHashFieldsSet (attr_id : SwitchHashAttr) (fields : HashFields) (back : Bool)
deriving DecidableEq

structure HashEnv where
  outside : Outside HashCall
  /-- `sai_attribute_validate` -/
  validate : List HashAttr → Status
  /-- The allocators of the two lists, for so many entries. -/
  native_list_alloc : Nat → Bool
  udf_list_alloc : Nat → Bool
  /-- `dn_sai_udf_group_type_get` finds a group, and its type is that for hashing. -/
  udf_group_hash : Oid → Bool
  /-- What a status that is never written happens to be. -/
  unset_status : Status

def HashEnv.good : HashEnv where
  outside := fun _ _ => .success
  validate := fun _ => .success
  native_list_alloc := fun _ => true
  udf_list_alloc := fun _ => true
  udf_group_hash := fun _ => true
  unset_status := .success

/-- The tree of hash objects, the free indexes, the object of each attribute of the switch, the fields that
the NPU was given last, the lock, and the calls that left the module. A pointer to a node is its id. -/
structure HashDb where
  hash_objs : Oid → Option HashObject
  hash_index_bitmap : Nat → Bool
  hash_obj_types : SwitchHashAttr → Option Oid
  hw_fields : SwitchHashAttr → Option HashFields
  locked : Bool
  outside_log : CallLog HashCall

namespace HashDb

def initial : HashDb where
  hash_objs := fun _ => none
  hash_index_bitmap := fun _ => true
  hash_obj_types := fun _ => none
  hw_fields := fun _ => none
  locked := false
  outside_log := []

def call (db : HashDb) (env : HashEnv) (c : HashCall) : Status × HashDb :=
  let answer := env.outside db.outside_log c
  let db := { db with outside_log := env.outside.log c db.outside_log }
  (answer,
    match c with
    | .switchHashFieldsSet attr_id fields _ =>
      if answer = .success then
        { db with hw_fields := fun a => if a = attr_id then some fields else db.hw_fields a }
      else db
    | _ => db)

def setObj (obj_id : Oid) (f : HashObject → HashObject) (db : HashDb) : HashDb :=
  { db with hash_objs := fun o =>
      if o = obj_id then (db.hash_objs o).map f else db.hash_objs o }

def putObj (obj_id : Oid) (node : Option HashObject) (db : HashDb) : HashDb :=
  { db with hash_objs := fun o => if o = obj_id then node else db.hash_objs o }

def setIndex (index : Nat) (free : Bool) (db : HashDb) : HashDb :=
  { db with hash_index_bitmap := fun i => if i = index then free else db.hash_index_bitmap i }

/-- `dn_sai_switch_attr_hash_obj_set` -/
def setHashObj (attr_id : SwitchHashAttr) (obj_id : Option Oid) (db : HashDb) : HashDb :=
  { db with hash_obj_types := fun a => if a = attr_id then obj_id else db.hash_obj_types a }

end HashDb

open HashDb

/-! ## Attributes -/

section Attributes

variable (env : HashEnv)

/-- `dn_sai_hash_native_field_list_set` -/
def hashNativeFieldListSet (field_list : List Int) (obj : HashObject) : Status × HashObject :=
  if field_list ≠ [] ∧ env.native_list_alloc field_list.length = false then (.noMemory, obj)
  else (.success, { obj with native_fields_list := field_list })

/-- `dn_sai_hash_udf_group_list_validate` -/
def hashUdfGroupListValidate (obj_list : List Oid) : Bool :=
  obj_list.all fun o => o.type == .udfGroup && env.udf_group_hash o

/-- `dn_sai_hash_udf_group_list_set` -/
def hashUdfGroupListSet (obj_list : List Oid) (obj : HashObject) : Status × HashObject :=
  if obj_list ≠ [] ∧ hashUdfGroupListValidate env obj_list = false then (.invalidAttrValue 0, obj)
  else if obj_list ≠ [] ∧ env.udf_list_alloc obj_list.length = false then (.noMemory, obj)
  else (.success, { obj with udf_group_list := obj_list })

/-- One attribute of `dn_sai_hash_attr_set`. -/
def hashAttrStore (obj : HashObject) : HashAttr → Status × HashObject
  | .nativeHashFieldList s32list => hashNativeFieldListSet env s32list obj
  | .udfGroupList objlist => hashUdfGroupListSet env objlist obj
  | .unknown _ => (.success, obj)

/-- `dn_sai_hash_attr_set`, from an index on. -/
def hashAttrSet : Nat → List HashAttr → HashObject → Status × HashObject
  | _, [], obj => (.success, obj)
  | attr_idx, attr :: attr_list, obj =>
    let set := hashAttrStore env obj attr
    if set.1 ≠ .success then (getIndexedRetVal set.1 attr_idx, set.2)
    else hashAttrSet (attr_idx + 1) attr_list set.2

end Attributes

/-! ## Create and remove -/

section Create

variable (max_hash_index : Nat) (env : HashEnv) (attr_list : List HashAttr)

/-- `sai_uoid_create` of an index. -/
def hashObjId (hash_index : Nat) : Oid := uoidCreate .hash hash_index

/-- `std_find_first_bit`, from the first bit on. -/
def hashIndexFind (db : HashDb) : Option Nat := (List.range max_hash_index).find? db.hash_index_bitmap

/-- The part of `dn_sai_hash_obj_create` before the lock: an index is chosen. -/
def hashObjChoose (db : HashDb) : Except Status Nat × HashDb :=
  if env.validate attr_list ≠ .success then (.error (env.validate attr_list), db)
  else
    match hashIndexFind max_hash_index db with
    | none => (.error .insufficientResources, db)
    | some hash_index =>
      let alloc := db.call env .nodeAlloc
      if alloc.1 ≠ .success then (.error .noMemory, alloc.2) else (.ok hash_index, alloc.2)

/-- The part under the lock: a node that can not be inserted leaves the status as it is. -/
def hashObjFill (hash_index : Nat) (db : HashDb) : Status × HashDb :=
  let set := hashAttrSet env 0 attr_list .zero
  if set.1 ≠ .success then (set.1, db)
  else
    let inserted := db.call env (.insert (hashObjId hash_index))
    if inserted.1 ≠ .success ∨ (inserted.2.hash_objs (hashObjId hash_index)).isSome = true then
      (.success, inserted.2)
    else (.success, inserted.2.putObj (hashObjId hash_index) (some set.2))

def hashObjMark (hash_index : Nat) (db : HashDb) : HashDb := db.setIndex hash_index false

/-- `dn_sai_hash_obj_create`, with the id that it hands out. -/
def hashObjCreate (db : HashDb) : Option (Status × Oid × HashDb) :=
  match hashObjChoose max_hash_index env attr_list db with
  | (.error rc, db) => some (rc, .null, db)
  | (.ok hash_index, db) =>
    if db.locked = true then none
    else
      let filled := hashObjFill env attr_list hash_index db
      if filled.1 ≠ .success then some (filled.1, .null, filled.2)
      else some (filled.1, hashObjId hash_index, hashObjMark hash_index filled.2)

/-- `dn_sai_hash_obj_remove` -/
def hashObjRemove (hash_obj_id : Oid) (db : HashDb) : Option (Status × HashDb) :=
  if hash_obj_id.type ≠ .hash then some (.invalidObjectType, db)
  else if db.locked = true then none
  else
    match db.hash_objs hash_obj_id with
    | none => some (.invalidObjectId, db)
    | some obj =>
      if obj.ref_count > 0 then some (.objectInUse, db)
      else some (.success, (db.putObj hash_obj_id none).setIndex hash_obj_id.id true)

end Create

/-! ## Set -/

section Set

variable (env : HashEnv)

/-- What the loop of `dn_sai_hash_obj_set_in_hw` leaves: the status, whether fields were set, the
attributes before the one at which it stopped, and the state. -/
structure HashApplied where
  rc : Status
  is_set : Bool
  walked : List SwitchHashAttr
  db : HashDb

def hashFieldsApply (obj_id : Oid) (fields : HashFields) :
    List SwitchHashAttr → Status → HashDb → HashApplied
  | [], rc, db => ⟨rc, false, [], db⟩
  | a :: attrs, rc, db =>
    if db.hash_obj_types a = some obj_id then
      let set := db.call env (.switchHashFieldsSet a fields false)
      if set.1 ≠ .success then ⟨set.1, false, [], set.2⟩
      else
        let rest := hashFieldsApply obj_id fields attrs set.1 set.2
        { rest with is_set := true, walked := a :: rest.walked }
    else
      let rest := hashFieldsApply obj_id fields attrs rc db
      { rest with walked := a :: rest.walked }

/-- The old fields are given to the attributes again; what the NPU answers is dropped. -/
def hashFieldsReset (obj_id : Oid) (fields : HashFields) : List SwitchHashAttr → HashDb → HashDb
  | [], db => db
  | a :: attrs, db =>
    hashFieldsReset obj_id fields attrs
      (if db.hash_obj_types a = some obj_id then
        (db.call env (.switchHashFieldsSet a fields true)).2
      else db)

/-- The fields of an object with a new list. -/
def hashFieldsWith (obj : HashObject) : HashAttr → Option HashFields
  | .nativeHashFieldList s32list => some { obj.toHashFields with native_fields_list := s32list }
  | .udfGroupList objlist => some { obj.toHashFields with udf_group_list := objlist }
  | .unknown _ => none

/-- `dn_sai_hash_obj_set_in_hw` -/
def hashObjSetInHw (obj_id : Oid) (obj : HashObject) (attr : HashAttr) (db : HashDb) :
    Status × HashDb :=
  match hashFieldsWith obj attr with
  | none => (.unknownAttribute 0, db)
  | some fields =>
    let applied := hashFieldsApply env obj_id fields SwitchHashAttr.all env.unset_status db
    if applied.rc = .success then (applied.rc, applied.db)
    else
      (applied.rc,
        if applied.is_set = true then
          hashFieldsReset env obj_id obj.toHashFields applied.walked applied.db
        else applied.db)

def hashUdfListInvalid (attr : HashAttr) : Bool :=
  match attr with
  | .udfGroupList objlist => !hashUdfGroupListValidate env objlist
  | _ => false

/-- `dn_sai_hash_obj_set_attr` -/
def hashObjSetAttr (hash_obj_id : Oid) (attr : HashAttr) (db : HashDb) : Option (Status × HashDb) :=
  if hash_obj_id.type ≠ .hash then some (.invalidObjectType, db)
  else if env.validate [attr] ≠ .success then some (env.validate [attr], db)
  else if db.locked = true then none
  else
    match db.hash_objs hash_obj_id with
    | none => some (.invalidObjectId, db)
    | some obj =>
      -- This error keeps the lock.
      if hashUdfListInvalid env attr = true then some (.invalidAttrValue 0, { db with locked := true })
      else
        let set := if obj.ref_count > 0 then hashObjSetInHw env hash_obj_id obj attr db
          else (.success, db)
        if set.1 ≠ .success then some set
        else
          let stored := hashAttrSet env 0 [attr] obj
          some (stored.1, set.2.setObj hash_obj_id fun _ => stored.2)

def switchHashObjLeave (attr_id : SwitchHashAttr) (db : HashDb) : HashDb :=
  match db.hash_obj_types attr_id with
  | none => db
  | some old => db.setObj old fun obj => { obj with ref_count := obj.ref_count - 1 }

/-- `dn_sai_switch_hash_attr_set` -/
def switchHashAttrSet (attr_id : SwitchHashAttr) (hash_obj_id : Oid) (db : HashDb) :
    Option (Status × HashDb) :=
  if db.locked = true then none
  -- This error keeps the lock.
  else if hash_obj_id ≠ .null ∧ hash_obj_id.type ≠ .hash then
    some (.invalidObjectType, { db with locked := true })
  else if hash_obj_id ≠ .null ∧ (db.hash_objs hash_obj_id).isSome = false then
    some (.invalidObjectId, db)
  else
    let fields := if hash_obj_id ≠ .null then
        (db.hash_objs hash_obj_id).elim HashFields.empty HashObject.toHashFields
      else .empty
    let set := db.call env (.switchHashFieldsSet attr_id fields false)
    if set.1 ≠ .success then some set
    else
      let pointed := (switchHashObjLeave attr_id set.2).setHashObj attr_id (if hash_obj_id ≠ .null then some hash_obj_id else none)
      some (.success,
        if hash_obj_id ≠ .null then
          pointed.setObj hash_obj_id fun obj => { obj with ref_count := obj.ref_count + 1 }
        else pointed)

end Set

end OpxSai
