import OpxSai.Tunnel.Tunnel

/-!
# Tunnel maps and their entries

A tunnel map has entries between bridges and VNIs. A map for the way in maps bridges to VNIs, one for the
way out VNIs to bridges; the type of an entry is that of its map. An entry is in a tree, on the list of its
map and in the NPU. The map counts its entries, and the tunnels that have it on one of their lists; the
bridge of an entry counts the entry.

An entry needs its map and its bridge, and nobody asks whether they were given. A call that reads through
such a pointer is `none`.
-/

namespace OpxSai

open TunnelDb

/-- `sai_attribute_t` of a tunnel map. -/
inductive TunnelMapAttr where
  | type (s32 : TunnelMapType)
  | unknown (id : Nat)
deriving DecidableEq

/-- `sai_attribute_t` of an entry of a tunnel map. -/
inductive TunnelMapEntryAttr where
  | tunnelMapType (s32 : TunnelMapType)
  | tunnelMap (oid : Oid)
  | bridgeIdKey (oid : Oid)
  | bridgeIdValue (oid : Oid)
  | vniIdKey (u32 : Nat)
  | vniIdValue (u32 : Nat)
  | unknown (id : Nat)
deriving DecidableEq

/-- How the outside answers during a call on maps and their entries. -/
structure TunnelMapEnv extends TunnelEnv where
  /-- `dn_sai_check_duplicate_attr` -/
  map_duplicate : List TunnelMapAttr → Option Nat
  entry_duplicate : List TunnelMapEntryAttr → Option Nat
  /-- `sai_attribute_validate` with the table of the NPU. -/
  map_validate : List TunnelMapAttr → Status
  entry_validate : List TunnelMapEntryAttr → Status
  entry_set_validate : TunnelMapEntryAttr → Status
  map_id_gen : IdGen
  entry_id_gen : IdGen
  /-- `SAI_TUNNEL_VNID_MAX_VALUE` -/
  vnid_max_value : Nat
  /-- `dn_sai_tunnel_find_tunnel_entry_by_bridge`, given the entries of the map. -/
  entry_by_bridge : List TunnelMapEntry → Oid → Bool
  /-- `dn_sai_tunnel_find_tunnel_entry_by_vnid` -/
  entry_by_vnid : List TunnelMapEntry → Nat → Bool
  /-- `dn_sai_tunnel_map_dep_tunnel_count_get` -/
  dep_tunnel_count : Option TunnelMap → Status × Nat
  /-- `dn_sai_tunnel_map_dep_tunnel_get_at_index` -/
  dep_tunnel_at : Option TunnelMap → Nat → Status × Oid
  /-- `dn_sai_tunnel_decap_tunnel_map_bridge_count_get` -/
  decap_bridge_count : List TunnelMapEntry → Oid → Status × Nat
  /-- `sai_bridge_is_bridge_connected_to_tunnel` -/
  connected : Oid → Oid → Bool

def TunnelMapEnv.good : TunnelMapEnv where
  toTunnelEnv := .good
  map_duplicate := fun _ => none
  entry_duplicate := fun _ => none
  map_validate := fun _ => .success
  entry_validate := fun _ => .success
  entry_set_validate := fun _ => .success
  map_id_gen := .below 64
  entry_id_gen := .below 64
  vnid_max_value := 0xffffff
  entry_by_bridge := fun entries bridge_oid => entries.any fun e => decide (e.key.bridge_oid = bridge_oid)
  entry_by_vnid := fun entries vnid => entries.any fun e => decide (e.key.vnid = vnid)
  dep_tunnel_count := fun map => (.success, map.elim 0 fun m => m.dep_tunnels.length)
  dep_tunnel_at := fun map i => (.success, map.elim .null fun m => m.dep_tunnels.getD i .null)
  decap_bridge_count := fun entries bridge_oid =>
    (.success, entries.countP fun e => decide (e.value.bridge_oid = bridge_oid))
  connected := fun _ _ => false

namespace TunnelDb

/-- `dn_sai_tunnel_map_entry_get` -/
def entryGet (db : TunnelDb) (entry_id : Oid) : Option TunnelMapEntry := Tree.find db.entries entry_id

def mapEntries (db : TunnelDb) (map_id : Oid) : List TunnelMapEntry :=
  ((db.maps map_id).elim [] TunnelMap.tunnel_map_entry_list).filterMap db.entryGet

def setMap (map_id : Oid) (m : Option TunnelMap) (db : TunnelDb) : TunnelDb :=
  { db with maps := fun o => if o = map_id then m else db.maps o }

def modBridge (bridge_oid : Oid) (f : Nat → Nat) (db : TunnelDb) : TunnelDb :=
  { db with bridges := fun b => if b = bridge_oid then (db.bridges b).map f else db.bridges b }

end TunnelDb

/-! ## Maps -/

section Maps

variable (env : TunnelMapEnv)

/-- `dn_sai_tunnel_map_validate_type` -/
def tunnelMapValidateType : TunnelMapType → Status
  | .bridgeIfToVni | .vniToBridgeIf => .success
  | .other _ => .notSupported

/-- What `calloc` leaves of a map. -/
def TunnelMap.zero : TunnelMap := ⟨.other 0, 0, [], []⟩

/-- The loop of `dn_sai_tunnel_map_fill_attr`, with the status that it carries. -/
def tunnelMapFillAttr : Nat → List TunnelMapAttr → Status → TunnelMap → Status × TunnelMap
  | _, [], sai_rc, m => (sai_rc, m)
  | idx, .type s32 :: attr_list, _, m =>
    if tunnelMapValidateType s32 ≠ .success then (.invalidAttrValue idx, m)
    else tunnelMapFillAttr (idx + 1) attr_list .success { m with type := s32 }
  | idx, .unknown _ :: _, _, m => (.unknownAttribute idx, m)

/-- `dn_sai_tunnel_map_id_generate` -/
def tunnelMapIdGenerate (db : TunnelDb) : Option Oid :=
  (env.map_id_gen.next fun id => (db.maps (uoidCreate .tunnelMap id)).isSome).map (uoidCreate .tunnelMap)

/-- The loop body of `dn_sai_create_tunnel_map`: the status, and the id if it was handed out. -/
def tunnelMapFill (attr_list : List TunnelMapAttr) (db : TunnelDb) : Status × Option Oid × TunnelDb :=
  let filled := tunnelMapFillAttr 0 attr_list .failure .zero
  if filled.1 ≠ .success then (filled.1, none, db)
  else
    match tunnelMapIdGenerate env db with
    | none => (.tableFull, none, db)
    | some map_id =>
      let inserted := db.call env.toTunnelEnv (.mapInsert map_id)
      if inserted.1 ≠ .success ∨ (inserted.2.maps map_id).isSome = true then (.failure, none, inserted.2)
      else (.success, some map_id, inserted.2.setMap map_id (some filled.2))

/-- `dn_sai_create_tunnel_map`, with what is in the variable for the id before the call and after it. -/
def tunnelMapCreate (attr_list : List TunnelMapAttr) (tunnel_map_id : Oid) (db : TunnelDb) :
    Status × Oid × TunnelDb :=
  let valid := tunnelAttrListValidate (env.map_duplicate attr_list) (env.map_validate attr_list)
  if valid ≠ .success then (valid, tunnel_map_id, db)
  else
    let alloc := db.call env.toTunnelEnv .nodeAlloc
    if alloc.1 ≠ .success then (.noMemory, tunnel_map_id, alloc.2)
    else
      -- the status of the loop is not what is returned
      let filled := tunnelMapFill env attr_list alloc.2
      (.success, filled.2.1.getD tunnel_map_id, filled.2.2)

/-- `dn_sai_remove_tunnel_map` -/
def tunnelMapRemove (tunnel_map_id : Oid) (db : TunnelDb) : Status × TunnelDb :=
  match db.maps tunnel_map_id with
  | none => (.invalidObjectId, db)
  | some m => if m.ref_count > 0 then (.objectInUse, db) else (.success, db.setMap tunnel_map_id none)

end Maps

/-! ## Entries come -/

section EntryCreate

variable (env : TunnelMapEnv)

/-- What `calloc` leaves of an entry. -/
def TunnelMapEntry.zero : TunnelMapEntry := ⟨.other 0, .null, ⟨.null, 0⟩, ⟨.null, 0⟩⟩

def TunnelMapEntry.bridge (e : TunnelMapEntry) : Oid :=
  if e.type = .bridgeIfToVni then e.key.bridge_oid else e.value.bridge_oid

/-- The switch of `dn_sai_tunnel_map_entry_fill_attr`. -/
def mapEntryAttrStore (db : TunnelDb) (idx : Nat) (attr : TunnelMapEntryAttr) (e : TunnelMapEntry) :
    Except Status TunnelMapEntry :=
  match attr with
  | .tunnelMapType s32 =>
    if tunnelMapValidateType s32 ≠ .success then .error (.invalidAttrValue idx) else .ok { e with type := s32 }
  | .tunnelMap oid =>
    if (db.maps oid).isNone = true then .error (.invalidAttrValue idx) else .ok { e with tunnel_map_id := oid }
  | .bridgeIdKey oid =>
    if (db.bridges oid).isNone = true then .error (.invalidAttrValue idx)
    else .ok { e with key := { e.key with bridge_oid := oid } }
  | .bridgeIdValue oid =>
    if (db.bridges oid).isNone = true then .error (.invalidAttrValue idx)
    else .ok { e with value := { e.value with bridge_oid := oid } }
  | .vniIdKey u32 =>
    if u32 > env.vnid_max_value then .error (.invalidAttrValue idx)
    else .ok { e with key := { e.key with vnid := u32 } }
  | .vniIdValue u32 =>
    if u32 > env.vnid_max_value then .error (.invalidAttrValue idx)
    else .ok { e with value := { e.value with vnid := u32 } }
  | .unknown _ => .error (.unknownAttribute idx)

/-- The loop of `dn_sai_tunnel_map_entry_fill_attr`. -/
def mapEntryAttrWalk (db : TunnelDb) : Nat → List TunnelMapEntryAttr → TunnelMapEntry → Except Status TunnelMapEntry
  | _, [], e => .ok e
  | idx, attr :: attr_list, e =>
    match mapEntryAttrStore env db idx attr e with
    | .error status => .error status
    | .ok e => mapEntryAttrWalk db (idx + 1) attr_list e

/-- `dn_sai_tunnel_map_entry_validate` -/
def mapEntryValidate (e : TunnelMapEntry) (db : TunnelDb) : Status :=
  if e.type = .bridgeIfToVni then
    if env.entry_by_bridge (db.mapEntries e.tunnel_map_id) e.key.bridge_oid = true then .failure else .success
  else if env.entry_by_vnid (db.mapEntries e.tunnel_map_id) e.key.vnid = true then .failure
  else .success

/-- `dn_sai_tunnel_map_entry_fill_attr`. The pointer to the map is null if no attribute gave one. -/
def mapEntryFillAttr (attr_list : List TunnelMapEntryAttr) (db : TunnelDb) : Option (Status × TunnelMapEntry) :=
  match mapEntryAttrWalk env db 0 attr_list .zero with
  | .error status => some (status, .zero)
  | .ok e =>
    if attr_list.any (fun attr => match attr with | .tunnelMap _ => true | _ => false) = true then
      (db.maps e.tunnel_map_id).map fun m =>
        (if m.type ≠ e.type then .invalidParameter else mapEntryValidate env e db, e)
    else none

/-- `dn_sai_tunnel_map_entry_id_generate` -/
def mapEntryIdGenerate (db : TunnelDb) : Option Oid :=
  (env.entry_id_gen.next fun id => (db.entryGet (uoidCreate .tunnelMapEntry id)).isSome).map
    (uoidCreate .tunnelMapEntry)

def TunnelDb.addEntry (entry_id : Oid) (e : TunnelMapEntry) (db : TunnelDb) : TunnelDb :=
  ({ db with entries := Tree.insert db.entries entry_id e }.modMap e.tunnel_map_id fun m =>
    { m with
      tunnel_map_entry_list := m.tunnel_map_entry_list ++ [entry_id]
      ref_count := m.ref_count + 1 }).modBridge e.bridge fun n => n + 1

/-- `dn_sai_create_tunnel_map_entry` from the NPU on. -/
def mapEntryRegister (entry_id : Oid) (e : TunnelMapEntry) (db : TunnelDb) : Option (Status × Oid × TunnelDb) :=
  let made := db.call env.toTunnelEnv (.mapEntryCreate entry_id)
  if made.1 ≠ .success then some (made.1, .null, made.2)
  else
    let inserted := made.2.call env.toTunnelEnv (.mapEntryInsert entry_id)
    if inserted.1 ≠ .success ∨ (inserted.2.entryGet entry_id).isSome = true then some (.failure, .null, inserted.2)
    else if (inserted.2.bridges e.bridge).isNone = true then none
    else some (.success, entry_id, inserted.2.addEntry entry_id e)

/-- `dn_sai_create_tunnel_map_entry`, with the id that it hands out. -/
def mapEntryCreate (attr_list : List TunnelMapEntryAttr) (db : TunnelDb) : Option (Status × Oid × TunnelDb) :=
  let valid := tunnelAttrListValidate (env.entry_duplicate attr_list) (env.entry_validate attr_list)
  if valid ≠ .success then some (valid, .null, db)
  else
    let alloc := db.call env.toTunnelEnv .nodeAlloc
    if alloc.1 ≠ .success then some (.noMemory, .null, alloc.2)
    else
      match mapEntryFillAttr env attr_list alloc.2 with
      | none => none
      | some filled =>
        if filled.1 ≠ .success then some (filled.1, .null, alloc.2)
        else
          match mapEntryIdGenerate env alloc.2 with
          | none => some (.tableFull, .null, alloc.2)
          | some entry_id => mapEntryRegister env entry_id filled.2 alloc.2

end EntryCreate

/-! ## Entries go and change -/

section EntryChange

variable (env : TunnelMapEnv)

/-- The loop of `dn_sai_is_tunnel_map_entry_in_use`: is a tunnel of the map connected to a bridge? -/
def mapEntryConnected (m : Option TunnelMap) (tunnel_count : Nat) (bridge_oid : Oid) (alternative : Bool) : Bool :=
  (List.range tunnel_count).any fun tunnel_idx =>
    let dep := env.dep_tunnel_at m tunnel_idx
    decide (dep.1 = .success) && env.connected bridge_oid dep.2 && !alternative

/-- `dn_sai_is_tunnel_map_entry_in_use` -/
def mapEntryInUse (e : TunnelMapEntry) (db : TunnelDb) : Bool :=
  let m := db.maps e.tunnel_map_id
  let tunnels := env.dep_tunnel_count m
  if tunnels.1 ≠ .success then false
  else if e.type = .bridgeIfToVni then mapEntryConnected env m tunnels.2 e.key.bridge_oid false
  else
    let bridges := env.decap_bridge_count (db.mapEntries e.tunnel_map_id) e.value.bridge_oid
    if bridges.1 ≠ .success then true
    else mapEntryConnected env m tunnels.2 e.value.bridge_oid (decide (bridges.2 > 1))

def TunnelDb.dropEntry (entry_id : Oid) (e : TunnelMapEntry) (db : TunnelDb) : TunnelDb :=
  ({ db with entries := Tree.erase db.entries entry_id }.modMap e.tunnel_map_id fun m =>
    { m with
      tunnel_map_entry_list := m.tunnel_map_entry_list.erase entry_id
      ref_count := m.ref_count - 1 }).modBridge e.bridge fun n => n - 1

/-- `dn_sai_remove_tunnel_map_entry` -/
def mapEntryRemove (entry_id : Oid) (db : TunnelDb) : Option (Status × TunnelDb) :=
  match db.entryGet entry_id with
  | none => some (.invalidObjectId, db)
  | some e =>
    if mapEntryInUse env e db = true then some (.objectInUse, db)
    else
      let removed := db.call env.toTunnelEnv (.mapEntryRemove entry_id)
      if removed.1 ≠ .success then some removed
      else if (removed.2.maps e.tunnel_map_id).isNone = true ∨ (removed.2.bridges e.bridge).isNone = true then none
      else some (.success, removed.2.dropEntry entry_id e)

/-- `dn_sai_validate_and_fill_tunnel_map_entry_set`, of the old entry and of the attribute. -/
def mapEntrySetValidate (e : TunnelMapEntry) (attr : TunnelMapEntryAttr) (db : TunnelDb) : Status :=
  match attr with
  | .bridgeIdValue oid =>
    if e.type ≠ .vniToBridgeIf then .invalidAttribute 0
    else if (db.bridges oid).isNone = true then .invalidAttrValue 0
    else if mapEntryInUse env e db = true then .objectInUse
    else .success
  | .vniIdValue u32 =>
    if e.type ≠ .bridgeIfToVni then .invalidAttribute 0
    else if u32 > env.vnid_max_value then .invalidAttrValue 0
    else .success
  | _ => .success

def TunnelDb.modEntry (entry_id : Oid) (f : TunnelMapEntry → TunnelMapEntry) (db : TunnelDb) : TunnelDb :=
  { db with entries := Tree.modify db.entries entry_id f }

/-- The end of `dn_sai_set_tunnel_map_entry_attr`: the new values. -/
def mapEntryUpdate (entry_id : Oid) (e : TunnelMapEntry) (attr : TunnelMapEntryAttr) (db : TunnelDb) : TunnelDb :=
  match attr with
  | .bridgeIdValue oid =>
    ((db.modBridge e.value.bridge_oid fun n => n - 1).modEntry entry_id fun e =>
      { e with value := { e.value with bridge_oid := oid } }).modBridge oid fun n => n + 1
  | .vniIdValue u32 => db.modEntry entry_id fun e => { e with value := { e.value with vnid := u32 } }
  | _ => db

/-- The bridges of a set are looked up once more: that of the old value, then that of the new one. -/
def mapEntrySetBridges (e : TunnelMapEntry) (attr : TunnelMapEntryAttr) (db : TunnelDb) : Bool :=
  match attr with
  | .bridgeIdValue oid => (db.bridges e.value.bridge_oid).isSome && (db.bridges oid).isSome
  | _ => true

/-- `dn_sai_set_tunnel_map_entry_attr` -/
def mapEntrySet (entry_id : Oid) (attr : TunnelMapEntryAttr) (db : TunnelDb) : Status × TunnelDb :=
  let valid := tunnelAttrListValidate (env.entry_duplicate [attr]) (env.entry_set_validate attr)
  if valid ≠ .success then (valid, db)
  else
    match db.entryGet entry_id with
    | none => (.invalidObjectId, db)
    | some e =>
      let filled := mapEntrySetValidate env e attr db
      if filled ≠ .success then (filled, db)
      else if mapEntrySetBridges e attr db = false then (.itemNotFound, db)
      else
        let set := db.call env.toTunnelEnv (.mapEntrySet entry_id)
        if set.1 ≠ .success then set else (.success, mapEntryUpdate entry_id e attr set.2)

end EntryChange

end OpxSai
