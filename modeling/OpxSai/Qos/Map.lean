import OpxSai.Common.Outside

/-!
# QoS maps

A map takes a key of a packet to a value: a priority to a traffic class, a traffic class to a queue.
Its table has a cell for each key, and the attribute of a map is a list of entries that are written to
their cells one by one. A set works on a copy of the node, and the copy has the table of the node.

A map is bound to ports, for one type of map at a time. The list of a map is made of the glue of its
ports: a port has one for each type.
-/

namespace OpxSai

/-! ## Nodes -/

/-- `sai_qos_map_type_t`, the types that a map can have. -/
inductive QosMapType where
  | dot1pToTc | dot1pToColor | dot1pToTcAndColor
  | dscpToTc | dscpToColor | dscpToTcAndColor
  | tcToQueue | tcAndColorToDscp | tcAndColorToDot1p
  | tcToPriorityGroup | pfcPriorityToQueue
deriving DecidableEq

def QosMapType.all : List QosMapType :=
  [.dot1pToTc, .dot1pToColor, .dot1pToTcAndColor, .dscpToTc, .dscpToColor, .dscpToTcAndColor,
   .tcToQueue, .tcAndColorToDscp, .tcAndColorToDot1p, .tcToPriorityGroup, .pfcPriorityToQueue]

/-- `sai_qos_map_params_t` -/
structure MapParams where
  tc : Nat
  dscp : Nat
  dot1p : Nat
  prio : Nat
  pg : Nat
  queue_index : Nat
  color : Nat
deriving DecidableEq

/-- Fields that `calloc` leaves. -/
def MapParams.zero : MapParams := ⟨0, 0, 0, 0, 0, 0, 0⟩

/-- `sai_qos_map_t` -/
structure MapEntry where
  key : MapParams
  value : MapParams
deriving DecidableEq

/-- `map_to_value`: the list, and the indexes to which entries of a caller were written. -/
structure MapTable where
  list : List MapEntry
  writes : List Nat
deriving DecidableEq

/-- A write to a cell. A cell that is not there is not there after it. -/
def MapTable.write (table : MapTable) (index : Nat) (f : MapEntry → MapEntry) : MapTable where
  list := table.list.modify index f
  writes := table.writes ++ [index]

theorem MapTable.write_getElem? (table : MapTable) (index : Nat) (f : MapEntry → MapEntry) :
    (table.write index f).list[index]? = (table.list[index]?).map f := by
  simp [MapTable.write]

theorem MapTable.write_getElem?_ne (table : MapTable) {index i : Nat} (f : MapEntry → MapEntry)
    (h : i ≠ index) : (table.write index f).list[i]? = table.list[i]? := by
  have h' : index ≠ i := fun heq => h heq.symm
  simp [MapTable.write, List.getElem?_modify, h']

/-- `dn_sai_qos_map_t`: `ports` is the list of the glue on it, of a port for a type. -/
structure QosMap where
  map_type : QosMapType
  map_to_value : Option MapTable
  ports : List (Oid × QosMapType)
deriving DecidableEq

/-- `sai_attribute_t` of a map; a number that is no type of a map is `none`. -/
inductive MapAttr where
  | type (s32 : Option QosMapType)
  | mapToValueList (qosmap : List MapEntry)
  | unknown (id : Nat)
deriving DecidableEq

inductive MapOp where
  | create | set | get
deriving DecidableEq

/-! ## What is outside -/

/-- The numbers of the switch, and `sai_qos_maps_attr_value_validate` of a dot1p, a traffic class, a
color and a dscp. -/
structure MapLimits where
  max_tc : Nat
  max_dot1p : Nat
  max_dscp : Nat
  max_pfc_pri : Nat
  max_packet_colors : Nat
  max_queues : Nat
  max_uc_queues : Nat
  num_pg : Nat
  default_tc : Nat
  default_dot1p : Nat
  default_dscp : Nat
  default_pg : Nat
  default_queue_index : Nat
  color_green : Nat
  attr_value_validate : Nat → Nat → Nat → Nat → Status

def MapLimits.small : MapLimits where
  max_tc := 2
  max_dot1p := 2
  max_dscp := 2
  max_pfc_pri := 2
  max_packet_colors := 3
  max_queues := 4
  max_uc_queues := 2
  num_pg := 2
  default_tc := 0
  default_dot1p := 0
  default_dscp := 0
  default_pg := 0
  default_queue_index := 0
  color_green := 0
  attr_value_validate := fun dot1p tc color dscp =>
    if dot1p < 2 ∧ tc < 2 ∧ color < 3 ∧ dscp < 2 then .success else .invalidAttrValue 0

inductive MapCall where
  | mapCreate (map_type : QosMapType) (table : Option MapTable)
  | mapInsert (map_id : Oid)
  | mapRemove (map_id : Oid)
  | mapAttrSet (map_id : Oid) (map_type : QosMapType) (table : Option MapTable)
  | portMapSet (port_id map_id : Oid) (map_type : QosMapType) (add : Bool)
deriving DecidableEq

structure MapEnv where
  outside : Outside MapCall
  /-- The id of the NPU, with the type of the map in it. -/
  hw_map_id : Nat
  /-- `calloc`, of a node and of so many entries -/
  node_alloc : Bool
  list_alloc : Nat → Bool
  /-- `attribute_table_get`, and `sai_attribute_validate` against the table -/
  attribute_table : Bool
  validate : MapOp → List MapAttr → Status
  is_map_supported : QosMapType → Bool
  map_is_hw_object : QosMapType → Bool

def MapEnv.good (hw_id : Nat) : MapEnv where
  outside := fun _ _ => .success
  hw_map_id := hw_id
  node_alloc := true
  list_alloc := fun _ => true
  attribute_table := true
  validate := fun _ _ => .success
  is_map_supported := fun _ => true
  map_is_hw_object := fun _ => true

def MapEnv.answers (outside : Outside MapCall) (hw_id : Nat) : MapEnv :=
  { MapEnv.good hw_id with outside := outside }

/-! ## State -/

/-- The tree of maps, `maps_id` of the ports, the map that the NPU has on a port for a type, and the
calls that left the module. -/
structure MapDb where
  maps : Oid → Option QosMap
  ports : Oid → Option (QosMapType → Oid)
  hw_map : Oid → QosMapType → Oid
  outside_log : CallLog MapCall

namespace MapDb

def initial : MapDb where
  maps := fun _ => none
  ports := fun _ => none
  hw_map := fun _ _ => .null
  outside_log := []

def done (db : MapDb) : MapCall → MapDb
  | .portMapSet port_id map_id map_type add =>
    { db with hw_map := fun p t =>
        if p = port_id ∧ t = map_type then (if add = true then map_id else .null)
        else db.hw_map p t }
  | _ => db

def call (db : MapDb) (env : MapEnv) (c : MapCall) : Status × MapDb :=
  let answer := env.outside db.outside_log c
  let logged : MapDb := { db with outside_log := env.outside.log c db.outside_log }
  (answer, if answer = .success then logged.done c else logged)

def setMap (db : MapDb) (map_id : Oid) (node : Option QosMap) : MapDb :=
  { db with maps := fun o => if o = map_id then node else db.maps o }

/-- `maps_id` of a port is written. -/
def setMapsId (db : MapDb) (port_id : Oid) (maps_id : QosMapType → Oid) : MapDb :=
  { db with ports := fun p => if p = port_id then some maps_id else db.ports p }

/-! ## What a call leaves -/

section Call

variable (db : MapDb) (env : MapEnv) (c : MapCall)

variable (port_id map_id : Oid) (node : Option QosMap) (maps_id : QosMapType → Oid)

theorem done_nodes : (db.done c).maps = db.maps ∧ (db.done c).ports = db.ports := by
  cases c <;> exact ⟨rfl, rfl⟩

@[simp] theorem call_maps : (db.call env c).2.maps = db.maps := by
  simp only [call]
  split
  · exact (done_nodes _ c).1
  · rfl

@[simp] theorem call_ports : (db.call env c).2.ports = db.ports := by
  simp only [call]
  split
  · exact (done_nodes _ c).2
  · rfl

@[simp] theorem setMap_maps (o) :
    (db.setMap map_id node).maps o = if o = map_id then node else db.maps o := rfl

@[simp] theorem setMap_ports : (db.setMap map_id node).ports = db.ports := rfl

@[simp] theorem setMapsId_maps : (db.setMapsId port_id maps_id).maps = db.maps := rfl

@[simp] theorem setMapsId_ports (p) :
    (db.setMapsId port_id maps_id).ports p = if p = port_id then some maps_id else db.ports p := rfl

end Call

end MapDb

open MapDb

/-! ## Tables -/

section Tables

variable (lim : MapLimits)

/-- `sai_qos_maps_get_index` -/
def mapsGetIndex (value tc : Nat) : Nat := value * lim.max_tc + tc

/-- `sai_qos_maps_get_max_queue_idx`: `SAI_QOS_MAX_QUEUE_IDX_SEPARATE` -/
def mapsGetMaxQueueIdx : Nat := 2

/-- What one type of map makes of an entry of a list: if it is valid, how it is left in the list of the
caller, which cell it goes to and what it puts there. -/
structure EntryUpdate where
  check : MapEntry → Status
  taken : MapEntry → MapEntry
  index : MapEntry → Nat
  put : MapEntry → MapEntry → MapEntry

/-- `sai_qos_map_dot1p_to_tc_and_color_list_update` -/
def dot1pToTcAndColorListUpdate : EntryUpdate where
  check e := lim.attr_value_validate e.key.dot1p e.value.tc e.value.color 0
  taken e := e
  index e := e.key.dot1p
  put e cell :=
    { key := { cell.key with dot1p := e.key.dot1p },
      value := { cell.value with tc := e.value.tc, color := e.value.color } }

/-- `sai_qos_map_dscp_to_tc_and_color_list_update` -/
def dscpToTcAndColorListUpdate : EntryUpdate where
  check e := lim.attr_value_validate 0 e.value.tc e.value.color e.key.dscp
  taken e := e
  index e := e.key.dscp
  put e cell :=
    { key := { cell.key with dscp := e.key.dscp },
      value := { cell.value with tc := e.value.tc, color := e.value.color } }

/-- A queue index from the unicast queues on is one of a multicast queue, and is counted from there:
in the list of the caller too. -/
def splitQueueIndex (e : MapEntry) : MapEntry :=
  if e.value.queue_index ≥ lim.max_uc_queues then
    { e with value := { e.value with queue_index := e.value.queue_index - lim.max_uc_queues } }
  else e

/-- `sai_qos_map_tc_to_queue_list_update` -/
def tcToQueueListUpdate : EntryUpdate where
  check e :=
    let rc := lim.attr_value_validate 0 e.key.tc 0 0
    if rc ≠ .success then rc
    else if e.value.queue_index ≥ lim.max_queues then .invalidAttrValue 0
    else .success
  taken := splitQueueIndex lim
  index e := if e.value.queue_index ≥ lim.max_uc_queues then lim.max_tc + e.key.tc else e.key.tc
  put e cell :=
    { key := { cell.key with tc := e.key.tc },
      value := { cell.value with queue_index := (splitQueueIndex lim e).value.queue_index } }

/-- `sai_qos_map_tc_and_color_to_dot1p_list_update` -/
def tcAndColorToDot1pListUpdate : EntryUpdate where
  check e := lim.attr_value_validate e.value.dot1p e.key.tc e.key.color 0
  taken e := e
  index e := mapsGetIndex lim e.key.color e.key.tc
  put e cell :=
    { key := { cell.key with tc := e.key.tc, color := e.key.color },
      value := { cell.value with dot1p := e.value.dot1p } }

/-- `sai_qos_map_tc_and_color_to_dscp_list_update` -/
def tcAndColorToDscpListUpdate : EntryUpdate where
  check e := lim.attr_value_validate 0 e.key.tc e.key.color e.value.dscp
  taken e := e
  index e := mapsGetIndex lim e.key.color e.key.tc
  put e cell :=
    { key := { cell.key with tc := e.key.tc, color := e.key.color },
      value := { cell.value with dscp := e.value.dscp } }

/-- `sai_qos_map_tc_to_pg_list_update` -/
def tcToPgListUpdate : EntryUpdate where
  check e :=
    let rc := lim.attr_value_validate 0 e.key.tc 0 0
    if rc ≠ .success then rc
    else if e.value.pg ≥ lim.num_pg then .invalidAttrValue 0
    else .success
  taken e := e
  index e := e.key.tc
  put e cell :=
    { key := { cell.key with tc := e.key.tc },
      value := { cell.value with pg := e.value.pg } }

/-- `sai_qos_map_pfc_pri_to_queue_list_update`: the queue index is compared the other way than for
traffic classes, and the priority is not looked at. -/
def pfcPriToQueueListUpdate : EntryUpdate where
  check e := if e.value.queue_index > lim.max_queues then .invalidAttrValue 0 else .success
  taken := splitQueueIndex lim
  index e :=
    if e.value.queue_index ≥ lim.max_uc_queues then lim.max_pfc_pri + e.key.prio else e.key.prio
  put e cell :=
    { key := { cell.key with prio := e.key.prio },
      value := { cell.value with queue_index := (splitQueueIndex lim e).value.queue_index } }

/-- The update of a type, as `sai_qos_map_list_attr_set` selects it. -/
def listUpdateOf : QosMapType → EntryUpdate
  | .tcToQueue => tcToQueueListUpdate lim
  | .dot1pToTc | .dot1pToColor | .dot1pToTcAndColor => dot1pToTcAndColorListUpdate lim
  | .dscpToTc | .dscpToColor | .dscpToTcAndColor => dscpToTcAndColorListUpdate lim
  | .tcAndColorToDscp => tcAndColorToDscpListUpdate lim
  | .tcAndColorToDot1p => tcAndColorToDot1pListUpdate lim
  | .tcToPriorityGroup => tcToPgListUpdate lim
  | .pfcPriorityToQueue => pfcPriToQueueListUpdate lim

/-- What the loop over a list leaves: the status, the table and the list of the caller. -/
structure ListUpdated where
  rc : Status
  table : MapTable
  qosmap : List MapEntry

/-- The loop of the list updates. It stops at an entry that is not valid; the entries before it are in
the table. -/
def mapListUpdate (update : EntryUpdate) : List MapEntry → MapTable → ListUpdated
  | [], table => ⟨.success, table, []⟩
  | e :: rest, table =>
    if update.check e ≠ .success then ⟨update.check e, table, e :: rest⟩
    else
      let updated := mapListUpdate update rest (table.write (update.index e) (update.put e))
      ⟨updated.rc, updated.table, update.taken e :: updated.qosmap⟩

/-! ## Defaults -/

/-- `sai_qos_map_dot1p_to_tc_and_color_default_set` -/
def dot1pToTcAndColorDefault : List MapEntry :=
  (List.range lim.max_dot1p).map fun dot1p =>
    ⟨{ MapParams.zero with dot1p := dot1p },
     { MapParams.zero with tc := lim.default_tc, color := lim.color_green }⟩

/-- `sai_qos_map_dscp_to_tc_and_color_default_set` -/
def dscpToTcAndColorDefault : List MapEntry :=
  (List.range lim.max_dscp).map fun dscp =>
    ⟨{ MapParams.zero with dscp := dscp },
     { MapParams.zero with tc := lim.default_tc, color := lim.color_green }⟩

/-- `sai_qos_map_tc_and_color_to_dot1p_default_set` -/
def tcAndColorToDot1pDefault : List MapEntry :=
  (List.range (lim.max_tc * lim.max_packet_colors)).map fun index =>
    ⟨{ MapParams.zero with tc := index % lim.max_tc, color := index / lim.max_tc },
     { MapParams.zero with dot1p := lim.default_dot1p }⟩

/-- `sai_qos_map_tc_and_color_to_dscp_default_set` -/
def tcAndColorToDscpDefault : List MapEntry :=
  (List.range (lim.max_tc * lim.max_packet_colors)).map fun index =>
    ⟨{ MapParams.zero with tc := index % lim.max_tc, color := index / lim.max_tc },
     { MapParams.zero with dscp := lim.default_dscp }⟩

/-- `sai_qos_map_tc_to_queue_default_set`: a half for the unicast queues and one for the multicast
queues. -/
def tcToQueueDefault : List MapEntry :=
  (List.range (mapsGetMaxQueueIdx * lim.max_tc)).map fun index =>
    ⟨{ MapParams.zero with tc := index % lim.max_tc },
     { MapParams.zero with queue_index := lim.default_queue_index }⟩

/-- `sai_qos_map_tc_to_pg_default_set` -/
def tcToPgDefault : List MapEntry :=
  (List.range lim.max_tc).map fun tc =>
    ⟨{ MapParams.zero with tc := tc }, { MapParams.zero with pg := lim.default_pg }⟩

/-- `sai_qos_map_pfc_pri_to_queue_default_set` -/
def pfcPriToQueueDefault : List MapEntry :=
  (List.range (mapsGetMaxQueueIdx * lim.max_pfc_pri)).map fun index =>
    ⟨{ MapParams.zero with prio := index % lim.max_pfc_pri },
     { MapParams.zero with queue_index := lim.max_queues }⟩

/-- The table of a type, as `sai_qos_map_list_default_set` selects it. -/
def defaultOf : QosMapType → List MapEntry
  | .tcToQueue => tcToQueueDefault lim
  | .dot1pToTc | .dot1pToColor | .dot1pToTcAndColor => dot1pToTcAndColorDefault lim
  | .dscpToTc | .dscpToColor | .dscpToTcAndColor => dscpToTcAndColorDefault lim
  | .tcAndColorToDscp => tcAndColorToDscpDefault lim
  | .tcAndColorToDot1p => tcAndColorToDot1pDefault lim
  | .tcToPriorityGroup => tcToPgDefault lim
  | .pfcPriorityToQueue => pfcPriToQueueDefault lim

/-- A `default_set`, with the allocation of its list. -/
def mapDefaultSet (env : MapEnv) (node : QosMap) : Status × QosMap :=
  if env.list_alloc (defaultOf lim node.map_type).length = true then
    (.success, { node with map_to_value := some ⟨defaultOf lim node.map_type, []⟩ })
  else (.noMemory, node)

/-- `sai_qos_map_list_default_set` -/
def mapListDefaultSet (env : MapEnv) (node : QosMap) : Status × QosMap :=
  if env.is_map_supported node.map_type = false then (.notSupported, node)
  else mapDefaultSet lim env node

end Tables

/-! ## Attributes -/

section Parse

variable (lim : MapLimits) (env : MapEnv)

/-- What an attribute leaves: the status, the node and the attribute of the caller. -/
structure AttrSet where
  rc : Status
  node : QosMap
  attr : MapAttr

/-- A `map_value_set`: a create, and a set on a node without a table, start from the default. -/
def mapValueSet (op_type : MapOp) (qosmap : List MapEntry) (node : QosMap) : AttrSet :=
  let start :=
    if op_type = .create ∨ (op_type = .set ∧ node.map_to_value = none) then
      mapDefaultSet lim env node
    else (.success, node)
  if start.1 ≠ .success then ⟨start.1, start.2, .mapToValueList qosmap⟩
  else
    match start.2.map_to_value with
    | none => ⟨.success, start.2, .mapToValueList qosmap⟩
    | some table =>
      let updated := mapListUpdate (listUpdateOf lim node.map_type) qosmap table
      ⟨updated.rc, { start.2 with map_to_value := some updated.table },
       .mapToValueList updated.qosmap⟩

/-- `sai_qos_map_list_attr_set` -/
def mapListAttrSet (op_type : MapOp) (qosmap : List MapEntry) (node : QosMap) : AttrSet :=
  if env.is_map_supported node.map_type = false then ⟨.notSupported, node, .mapToValueList qosmap⟩
  else mapValueSet lim env op_type qosmap node

/-- `sai_qos_maps_attr_set`, with `sai_qos_map_type_attr_set` -/
def mapsAttrSet (op_type : MapOp) (attr : MapAttr) (node : QosMap) : AttrSet :=
  match attr with
  | .type none => ⟨.notSupported, node, attr⟩
  | .type (some map_type) => ⟨.success, { node with map_type := map_type }, attr⟩
  | .mapToValueList qosmap => mapListAttrSet lim env op_type qosmap node
  | .unknown _ => ⟨.unknownAttribute 0, node, attr⟩

structure MapParsed where
  rc : Status
  node : QosMap
  attr_list : List MapAttr

/-- The first loop of `sai_qos_parse_update_attributes`: the first attribute that is the type. -/
def parseType (list_idx : Nat) : List MapAttr → QosMap → Status × QosMap
  | [], node => (.success, node)
  | attr :: rest, node =>
    match attr with
    | .type none => (getIndexedRetVal .notSupported list_idx, node)
    | .type (some map_type) => (.success, { node with map_type := map_type })
    | _ => parseType (list_idx + 1) rest node

/-- The second loop: the attributes that are not the type. -/
def parseOthers (op_type : MapOp) (list_idx : Nat) : List MapAttr → QosMap → MapParsed
  | [], node => ⟨.success, node, []⟩
  | attr :: rest, node =>
    match attr with
    | .type s32 =>
      let parsed := parseOthers op_type (list_idx + 1) rest node
      { parsed with attr_list := .type s32 :: parsed.attr_list }
    | attr =>
      let set := mapsAttrSet lim env op_type attr node
      if set.rc ≠ .success then ⟨getIndexedRetVal set.rc list_idx, set.node, set.attr :: rest⟩
      else
        let parsed := parseOthers op_type (list_idx + 1) rest set.node
        { parsed with attr_list := set.attr :: parsed.attr_list }

/-- `sai_qos_parse_update_attributes` -/
def mapParseUpdateAttributes (op_type : MapOp) (attr_list : List MapAttr) (node : QosMap) :
    MapParsed :=
  if env.attribute_table = false then ⟨.invalidObjectId, node, attr_list⟩
  else if env.validate op_type attr_list ≠ .success then
    ⟨env.validate op_type attr_list, node, attr_list⟩
  else if op_type ≠ .get then
    let typed := parseType 0 attr_list node
    if typed.1 ≠ .success then ⟨typed.1, typed.2, attr_list⟩
    else parseOthers lim env op_type 0 attr_list typed.2
  else ⟨.success, node, attr_list⟩

end Parse

/-! ## Create, remove and set -/

section Api

variable (lim : MapLimits) (env : MapEnv)

/-- A node as `sai_qos_maps_node_alloc` gives it. -/
def QosMap.zero : QosMap := ⟨.dot1pToTc, none, []⟩

/-- `sai_qos_map_create` -/
def mapCreate (attr_list : List MapAttr) (db : MapDb) : Status × MapDb :=
  if env.node_alloc = false then (.noMemory, db)
  else
    let parsed := mapParseUpdateAttributes lim env .create attr_list QosMap.zero
    if parsed.rc ≠ .success then (parsed.rc, db)
    else
      let listed :=
        if parsed.node.map_to_value = none then mapListDefaultSet lim env parsed.node
        else (.success, parsed.node)
      if listed.1 ≠ .success then (listed.1, db)
      else
        let created := db.call env (.mapCreate listed.2.map_type listed.2.map_to_value)
        if created.1 ≠ .success then (created.1, created.2)
        else
          let map_id := uoidCreate .qosMap env.hw_map_id
          let inserted := created.2.call env (.mapInsert map_id)
          if inserted.1 ≠ .success ∨ (inserted.2.maps map_id).isSome = true then
            (.failure, (inserted.2.call env (.mapRemove map_id)).2)
          else (.success, inserted.2.setMap map_id (some { listed.2 with ports := [] }))

/-- `sai_qos_map_remove` -/
def mapRemove (map_id : Oid) (db : MapDb) : Status × MapDb :=
  if map_id.type ≠ .qosMap then (.invalidObjectType, db)
  else
    match db.maps map_id with
    | none => (.invalidObjectId, db)
    | some node =>
      if node.ports ≠ [] then (.objectInUse, db)
      else
        let removed := db.call env (.mapRemove map_id)
        if removed.1 ≠ .success then (removed.1, removed.2)
        else (.success, removed.2.setMap map_id none)

/-- `sai_qos_map_port_list_update`: the ports on the list take the map again, up to one that does not. -/
def mapPortListUpdate (map_id : Oid) (map_type : QosMapType) :
    List (Oid × QosMapType) → MapDb → Status × MapDb
  | [], db => (.success, db)
  | glue :: rest, db =>
    let set := db.call env (.portMapSet glue.1 map_id map_type true)
    if set.1 ≠ .success then (set.1, set.2) else mapPortListUpdate map_id map_type rest set.2

theorem mapPortListUpdate_maps (map_id) (map_type)
    (ports : List (Oid × QosMapType)) :
    ∀ db : MapDb, (mapPortListUpdate env map_id map_type ports db).2.maps = db.maps := by
  induction ports with
  | nil => exact fun _ => rfl
  | cons glue rest ih =>
    intro db
    simp only [mapPortListUpdate]
    split
    · exact call_maps db env _
    · exact (ih _).trans (call_maps db env _)

structure MapSet where
  rc : Status
  attr : MapAttr
  db : MapDb

def MapParsed.attr (parsed : MapParsed) (attr : MapAttr) : MapAttr := parsed.attr_list.headD attr

/-- `sai_qos_map_attribute_set` -/
def mapAttributeSet (map_id : Oid) (attr : MapAttr) (db : MapDb) : MapSet :=
  if map_id.type ≠ .qosMap then ⟨.invalidObjectType, attr, db⟩
  else
    match db.maps map_id with
    | none => ⟨.invalidObjectId, attr, db⟩
    | some exist =>
      let parsed := mapParseUpdateAttributes lim env .set [attr] { exist with ports := [] }
      -- The copy has the pointer to the table of the node: what was written there is in the node.
      let written :=
        if exist.map_to_value.isSome = true then
          db.setMap map_id (some { exist with map_to_value := parsed.node.map_to_value })
        else db
      if parsed.rc ≠ .success then ⟨parsed.rc, parsed.attr attr, written⟩
      else
        let set := written.call env (.mapAttrSet map_id parsed.node.map_type parsed.node.map_to_value)
        if set.1 ≠ .success then ⟨set.1, parsed.attr attr, set.2⟩
        else
          let stored := set.2.setMap map_id
            (some { exist with map_to_value := parsed.node.map_to_value })
          if env.map_is_hw_object exist.map_type = true then ⟨.success, parsed.attr attr, stored⟩
          else
            ⟨.success, parsed.attr attr,
             (mapPortListUpdate env map_id exist.map_type exist.ports stored).2⟩

end Api

/-! ## Ports -/

section Ports

variable (env : MapEnv)

/-- `maps_id` of a port after a write to one type. -/
def mapsIdSet (maps_id : QosMapType → Oid) (map_type : QosMapType) (map_id : Oid) : QosMapType → Oid :=
  fun t => if t = map_type then map_id else maps_id t

/-- The NPU gives the first map of the types that is on the port to the port again. -/
def reapplyFirst (port_id : Oid) (maps_id : QosMapType → Oid) : List QosMapType → MapDb → Status × MapDb
  | [], db => (.success, db)
  | t :: rest, db =>
    if maps_id t ≠ .null then db.call env (.portMapSet port_id (maps_id t) t true)
    else reapplyFirst port_id maps_id rest db

/-- `sai_qos_map_update_ingress_maps`: the NPU takes all the ingress maps off with one of them. -/
def mapUpdateIngressMaps (port_id : Oid) (maps_id : QosMapType → Oid) (map_type : QosMapType)
    (db : MapDb) : Status × MapDb :=
  match map_type with
  | .dot1pToTc | .dot1pToColor | .dot1pToTcAndColor =>
    reapplyFirst env port_id maps_id [.dscpToTc, .dscpToColor, .dscpToTcAndColor] db
  | .dscpToTc | .dscpToColor | .dscpToTcAndColor =>
    if maps_id .dot1pToTc = .null ∧ maps_id .dot1pToColor = .null ∧
        maps_id .dot1pToTcAndColor = .null then
      db.call env (.portMapSet port_id .null .dot1pToTc true)
    else reapplyFirst env port_id maps_id [.dot1pToTc, .dot1pToColor, .dot1pToTcAndColor] db
  | _ => (.success, db)

/-- The glue of a port for a type goes to the end of the list of a map. -/
def mapPortLink (map_id : Oid) (glue : Oid × QosMapType) (db : MapDb) : MapDb :=
  { db with maps := fun o =>
      if o = map_id then (db.maps o).map fun node => { node with ports := node.ports ++ [glue] }
      else db.maps o }

def mapPortUnlink (map_id : Oid) (glue : Oid × QosMapType) (db : MapDb) : MapDb :=
  { db with maps := fun o =>
      if o = map_id then (db.maps o).map fun node => { node with ports := node.ports.erase glue }
      else db.maps o }

/-- `sai_qos_map_port_remove` -/
def mapPortRemove (port_id : Oid) (maps_id : QosMapType → Oid) (map_type : QosMapType) (db : MapDb) :
    Status × MapDb :=
  match db.maps (maps_id map_type) with
  | none => (.invalidObjectId, db)
  | some _ =>
    let set := db.call env (.portMapSet port_id (maps_id map_type) map_type false)
    if set.1 ≠ .success then (set.1, set.2)
    else
      let maps_id' := mapsIdSet maps_id map_type .null
      let unlinked := mapPortUnlink (maps_id map_type) (port_id, map_type)
        (set.2.setMapsId port_id maps_id')
      mapUpdateIngressMaps env port_id maps_id' map_type unlinked

/-- `sai_qos_map_port_add` -/
def mapPortAdd (port_id : Oid) (maps_id : QosMapType → Oid) (map_id : Oid) (map_type : QosMapType)
    (db : MapDb) : Status × MapDb :=
  match db.maps map_id with
  | none => (.invalidObjectId, db)
  | some _ =>
    let set := db.call env (.portMapSet port_id map_id map_type true)
    if set.1 ≠ .success then (set.1, set.2)
    else
      let unlinked :=
        if maps_id map_type ≠ .null then
          mapPortUnlink (maps_id map_type) (port_id, map_type) set.2
        else set.2
      (.success, mapPortLink map_id (port_id, map_type)
        (unlinked.setMapsId port_id (mapsIdSet maps_id map_type map_id)))

/-- `sai_qos_map_on_port_set_internal`; `SAI_QOS_MAP_INVALID_TYPE` is `none`. -/
def mapOnPortSetInternal (port_id map_id : Oid) (map_type : Option QosMapType) (db : MapDb) :
    Status × MapDb :=
  match map_type with
  | none => (.invalidAttribute 0, db)
  | some map_type =>
    match db.ports port_id with
    | none => (.invalidObjectId, db)
    | some maps_id =>
      if map_id = .null then mapPortRemove env port_id maps_id map_type db
      else if maps_id map_type = map_id then (.success, db)
      else mapPortAdd env port_id maps_id map_id map_type db

end Ports

end OpxSai
