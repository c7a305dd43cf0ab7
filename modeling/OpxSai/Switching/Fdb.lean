import Mathlib.Data.List.Sort
import OpxSai.Common.Outside

/-!
# The forwarding database

The FDB calls and the events of the NPU. The cache is kept elsewhere, as a tree by VLAN and MAC
address; here it is a list in the order of the keys, and a node that is there already is overwritten.
What the hardware holds is part of the state: the calls to the NPU change it, and so do the events,
which report what the hardware has done on its own.
-/

variable (env : FdbEnv)

namespace OpxSai

/-! ## Entries, attributes and events -/

/-- `sai_fdb_entry_t` -/
structure FdbKey where
  vlan_id : Nat
  mac_address : Nat
deriving DecidableEq

/-- The order of the tree. -/
def FdbKey.le (a b : FdbKey) : Prop :=
  a.vlan_id < b.vlan_id ∨ (a.vlan_id = b.vlan_id ∧ a.mac_address ≤ b.mac_address)

instance (a b : FdbKey) : Decidable (a.le b) := inferInstanceAs (Decidable (_ ∨ _))

/-- `sai_fdb_entry_type_t`, and `sai_fdb_flush_entry_type_t`. -/
inductive FdbEntryType where
  | dynamic | static
  | other (s32 : Int)
deriving DecidableEq

/-- `sai_fdb_entry_node_t` -/
structure FdbNode where
  fdb_key : FdbKey
  port_id : Oid
  entry_type : FdbEntryType
  action : Int
  metadata : Nat
  is_pending_entry : Bool
deriving DecidableEq

/-- The node after `memset`. -/
def FdbNode.zero (key : FdbKey) : FdbNode := ⟨key, .null, .dynamic, 0, 0, false⟩

/-- `sai_attribute_t` of an FDB entry. -/
inductive FdbAttr where
  | portId (oid : Oid)
  | type (s32 : FdbEntryType)
  | packetAction (s32 : Int)
  | metaData (u32 : Nat)
  | unknown (id : Nat)
deriving DecidableEq

/-- `sai_attribute_t` of a flush. -/
inductive FdbFlushAttr where
  | portId (oid : Oid)
  | vlanId (u16 : Nat)
  | entryType (s32 : FdbEntryType)
  | unknown (id : Nat)
deriving DecidableEq

/-- `sai_fdb_event_t` -/
inductive FdbEventType where
  | learned | aged | move | flushed
deriving DecidableEq

/-- `sai_fdb_event_notification_data_t` -/
structure FdbNotification where
  event_type : FdbEventType
  fdb_entry : FdbKey
  attr : List FdbAttr
deriving DecidableEq

/-- `sai_fdb_event_data_t` -/
structure FdbEventData where
  notification_data : FdbNotification
  is_pending_entry : Bool
deriving DecidableEq

/-! ## The state -/

inductive FdbCall where
  | createFdbEntry (node : FdbNode)
  | flushFdbEntry (key : FdbKey) (flag : Bool)
deriving DecidableEq

/-- How the outside answers at one moment: the NPU, the cache, and the port, LAG, VLAN and spanning
tree modules. -/
structure FdbEnv where
  outside : Outside FdbCall
  /-- Memory for a new node of the cache. -/
  node_avail : FdbKey → Bool
  /-- `sai_is_valid_fdb_attribute_val` -/
  attr_status : FdbAttr → Status
  /-- `sai_is_valid_vlan_id` -/
  vlan_valid : Nat → Bool
  /-- `sai_is_port_valid` -/
  port_valid : Oid → Bool
  /-- `sai_is_lag_created` -/
  lag_created : Oid → Bool
  /-- `sai_lag_portcount_cache_read` and `sai_lag_portlist_cache_read`. -/
  lag_port_count : Oid → Status
  lag_port_list : Oid → Status
  lag_ports : Oid → List Oid
  /-- `sai_port_is_oper_up` -/
  port_oper_up : Oid → Bool
  /-- `sai_is_port_vlan_member` -/
  vlan_member : Nat → Oid → Bool
  /-- `sai_stp_can_port_learn_mac` -/
  stp_can_learn : Nat → Oid → Bool

def FdbEnv.good : FdbEnv where
  outside := fun _ _ => .success
  node_avail := fun _ => true
  attr_status := fun _ => .success
  vlan_valid := fun _ => true
  port_valid := fun _ => true
  lag_created := fun _ => true
  lag_port_count := fun _ => .success
  lag_port_list := fun _ => .success
  lag_ports := fun _ => []
  port_oper_up := fun _ => true
  vlan_member := fun _ _ => true
  stp_can_learn := fun _ _ => true

/-- The module: the cache in the order of its keys, the port that the hardware has each entry on,
whether a callback has been registered and what it was passed, and the calls to the NPU. `max_macs`
is `SAI_FDB_MAX_MACS_PER_CALLBACK`. -/
structure FdbDb where
  nodes : List FdbNode
  hardware : FdbKey → Option Oid
  registered : Bool
  notified : List (List FdbNotification)
  max_macs : Nat
  outside_log : CallLog FdbCall

namespace FdbDb

def setHardware (key : FdbKey) (port_id : Option Oid) (db : FdbDb) : FdbDb :=
  { db with hardware := fun k => if k = key then port_id else db.hardware k }

def call (c : FdbCall) (db : FdbDb) : Status × FdbDb :=
  let rc := env.outside db.outside_log c
  let db := { db with outside_log := env.outside.log c db.outside_log }
  (rc, if rc ≠ .success then db
    else match c with
      | .createFdbEntry node => db.setHardware node.fdb_key (some node.port_id)
      | .flushFdbEntry key _ => db.setHardware key none)

/-- `sai_get_fdb_entry_node` -/
def node (key : FdbKey) (db : FdbDb) : Option FdbNode := db.nodes.find? fun n => n.fdb_key = key

/-- `sai_insert_fdb_entry_node` -/
def insertNode (n : FdbNode) (db : FdbDb) : Status × FdbDb :=
  if (db.node n.fdb_key).isSome then
    (.itemAlreadyExists,
      { db with nodes := db.nodes.map fun m => if m.fdb_key = n.fdb_key then n else m })
  else if env.node_avail n.fdb_key then
    (.success, { db with nodes := db.nodes.orderedInsert (fun a b => a.fdb_key.le b.fdb_key) n })
  else (.noMemory, db)

/-- `sai_remove_fdb_entry_node` -/
def removeNode (key : FdbKey) (db : FdbDb) : FdbDb :=
  { db with nodes := db.nodes.filter fun n => n.fdb_key ≠ key }

/-- What `sai_get_next_fdb_entry_node` leads to, one node after the other, from a key on. -/
def nodesAfter (key : FdbKey) (db : FdbDb) : List FdbNode :=
  db.nodes.filter fun n => ¬ n.fdb_key.le key

end FdbDb

/-! ## Flush -/

/-- The loop of the flush functions, over the nodes that it comes to. It takes out no node but the
one that it stands on, and that one only when the NPU has flushed it. -/
def flushNodes (env : FdbEnv) (hit : FdbNode → Bool) (flag : Bool) : List FdbNode → FdbDb → FdbDb
  | [], db => db
  | n :: nodes, db =>
    if hit n then
      let x := db.call env (.flushFdbEntry n.fdb_key flag)
      flushNodes env hit flag nodes
        (if x.1 ≠ .success then x.2 else x.2.removeNode n.fdb_key)
    else flushNodes env hit flag nodes db

/-- `sai_delete_all_fdb_entry_nodes` -/
def deleteAllFdbEntryNodes (delete_all : Bool) (type : FdbEntryType) (db : FdbDb) : FdbDb :=
  flushNodes env (fun n => delete_all || type = n.entry_type) false (db.nodesAfter ⟨0, 0⟩) db

/-- `sai_delete_fdb_entry_nodes_per_port` -/
def deleteFdbEntryNodesPerPort (port_id : Oid) (delete_all : Bool)
    (type : FdbEntryType) (db : FdbDb) : FdbDb :=
  flushNodes env (fun n => n.port_id = port_id && (delete_all || type = n.entry_type)) true
    (db.nodesAfter ⟨0, 0⟩) db

/-- The nodes of one VLAN, where the loop ends with the first node of another. -/
def FdbDb.nodesOfVlan (vlan_id : Nat) (db : FdbDb) : List FdbNode :=
  (db.nodesAfter ⟨vlan_id, 0⟩).takeWhile fun n => n.fdb_key.vlan_id = vlan_id

/-- `sai_delete_fdb_entry_nodes_per_vlan` -/
def deleteFdbEntryNodesPerVlan (vlan_id : Nat) (delete_all : Bool)
    (type : FdbEntryType) (db : FdbDb) : FdbDb :=
  flushNodes env (fun n => delete_all || type = n.entry_type) false (db.nodesOfVlan vlan_id) db

/-- `sai_delete_fdb_entry_nodes_per_port_vlan` -/
def deleteFdbEntryNodesPerPortVlan (port_id : Oid) (vlan_id : Nat)
    (delete_all : Bool) (type : FdbEntryType) (db : FdbDb) : FdbDb :=
  flushNodes env (fun n => n.port_id = port_id && (delete_all || type = n.entry_type)) true
    (db.nodesOfVlan vlan_id) db

/-- `VLAN_UNDEF` -/
def vlanUndef : Nat := 0

/-- What the loop of `sai_l2_flush_fdb_entry` finds. -/
structure FdbFlushScan where
  port_id : Oid
  vlan_id : Nat
  flush_type : FdbEntryType
  delete_all : Bool

/-- The loop of `sai_l2_flush_fdb_entry`. -/
def fdbFlushScan : Nat → List FdbFlushAttr → FdbFlushScan → Except Status FdbFlushScan
  | _, [], scan => .ok scan
  | attr_idx, attr :: attr_list, scan =>
    match attr with
    | .portId oid => fdbFlushScan (attr_idx + 1) attr_list { scan with port_id := oid }
    | .vlanId u16 => fdbFlushScan (attr_idx + 1) attr_list { scan with vlan_id := u16 }
    | .entryType s32 =>
      fdbFlushScan (attr_idx + 1) attr_list { scan with flush_type := s32, delete_all := false }
    | .unknown _ => .error (.unknownAttribute attr_idx)

/-- The checks of `sai_l2_flush_fdb_entry`. -/
def fdbFlushCheck (env : FdbEnv) (scan : FdbFlushScan) : Status :=
  if scan.port_id ≠ .null ∧ scan.port_id.type = .lag ∧ !env.lag_created scan.port_id then
    .invalidObjectId
  else if scan.port_id ≠ .null ∧ scan.port_id.type = .port ∧ !env.port_valid scan.port_id then
    .invalidObjectId
  else if scan.port_id ≠ .null ∧ scan.port_id.type ≠ .lag ∧ scan.port_id.type ≠ .port then
    .invalidObjectType
  else if scan.vlan_id ≠ vlanUndef ∧ !env.vlan_valid scan.vlan_id then .invalidVlanId
  else
    match scan.flush_type with
    | .dynamic | .static => .success
    | .other _ => .invalidParameter

/-- `sai_l2_flush_fdb_entry`. Entries are flushed one by one, as `sai_fdb_delete_entry_by_entry_on_flush`
is set and never changed. -/
def l2FlushFdbEntry (attr_list : List FdbFlushAttr) (db : FdbDb) : Status × FdbDb :=
  match fdbFlushScan 0 attr_list ⟨.null, vlanUndef, .dynamic, true⟩ with
  | .error rc => (rc, db)
  | .ok scan =>
    let rc := fdbFlushCheck env scan
    if rc ≠ .success then (rc, db)
    else if scan.port_id = .null ∧ scan.vlan_id = vlanUndef then
      (.success, deleteAllFdbEntryNodes env scan.delete_all scan.flush_type db)
    else if scan.vlan_id = vlanUndef then
      (.success, deleteFdbEntryNodesPerPort env scan.port_id scan.delete_all scan.flush_type db)
    else if scan.port_id = .null then
      (.success, deleteFdbEntryNodesPerVlan env scan.vlan_id scan.delete_all scan.flush_type db)
    else
      (.success, deleteFdbEntryNodesPerPortVlan env scan.port_id scan.vlan_id scan.delete_all
        scan.flush_type db)

/-! ## Create and remove -/

/-- `sai_l2_remove_fdb_entry` -/
def l2RemoveFdbEntry (fdb_entry : FdbKey) (db : FdbDb) : Status × FdbDb :=
  if !env.vlan_valid fdb_entry.vlan_id then (.invalidVlanId, db)
  else
    let x := db.call env (.flushFdbEntry fdb_entry false)
    (x.1, if x.1 ≠ .success then x.2 else x.2.removeNode fdb_entry)

def FdbNode.fill (n : FdbNode) : FdbAttr → FdbNode
  | .portId oid => { n with port_id := oid }
  | .type s32 => { n with entry_type := s32 }
  | .packetAction s32 => { n with action := s32 }
  | .metaData u32 => { n with metadata := u32 }
  | .unknown _ => n

/-- The loop of `sai_l2_create_fdb_entry`: the first attribute that is not valid decides. -/
def fdbAttrScan (env : FdbEnv) : Nat → List FdbAttr → FdbNode → Except Status FdbNode
  | _, [], n => .ok n
  | attr_index, attr :: attr_list, n =>
    if env.attr_status attr ≠ .success then
      .error (getIndexedRetVal (env.attr_status attr) attr_index)
    else fdbAttrScan env (attr_index + 1) attr_list (n.fill attr)

def fdbMandatoryAttrs (attr_list : List FdbAttr) : Bool :=
  (attr_list.any fun | .portId _ => true | _ => false) &&
    (attr_list.any fun | .type _ => true | _ => false) &&
    attr_list.any fun | .packetAction _ => true | _ => false

/-- `sai_l2_create_fdb_entry`. What the cache answers is not looked at. -/
def l2CreateFdbEntry (fdb_entry : FdbKey) (attr_list : List FdbAttr) (db : FdbDb) : Status × FdbDb :=
  if attr_list = [] then (.invalidParameter, db)
  else if !env.vlan_valid fdb_entry.vlan_id then (.invalidVlanId, db)
  else
    match fdbAttrScan env 0 attr_list (.zero fdb_entry) with
    | .error rc => (rc, db)
    | .ok n =>
      if !fdbMandatoryAttrs attr_list then (.mandatoryAttributeMissing, db)
      else
        let x := db.call env (.createFdbEntry n)
        (x.1, if x.1 = .success then (x.2.insertNode env n).2 else x.2)

/-! ## Events -/

/-- `sai_is_valid_fdb_learn_on_lag`: the first port of the LAG stands for all of them, but for being
up. -/
def isValidFdbLearnOnLag (fdb_entry : FdbKey) (lag_id : Oid) : Bool :=
  if !env.lag_created lag_id then false
  else if env.lag_port_count lag_id ≠ .success ∨ env.lag_ports lag_id = [] then false
  else if env.lag_port_list lag_id ≠ .success then false
  else
    let port_id := (env.lag_ports lag_id).headD .null
    if !env.vlan_member fdb_entry.vlan_id port_id then false
    else if !env.stp_can_learn fdb_entry.vlan_id port_id then false
    else (env.lag_ports lag_id).any env.port_oper_up

/-- `sai_is_valid_fdb_learn` -/
def isValidFdbLearn (fdb_entry : FdbKey) (port_id : Oid) : Bool :=
  if port_id.type = .lag then isValidFdbLearnOnLag env fdb_entry port_id
  else if !env.port_oper_up port_id then false
  else if !env.vlan_member fdb_entry.vlan_id port_id then false
  else if !env.stp_can_learn fdb_entry.vlan_id port_id then false
  else true

structure FdbReport where
  env : FdbEnv
  data : FdbEventData

namespace FdbReport

def key (e : FdbReport) : FdbKey := e.data.notification_data.fdb_entry

def node (e : FdbReport) : FdbNode :=
  { e.data.notification_data.attr.foldl FdbNode.fill (.zero e.key) with
    is_pending_entry := e.data.is_pending_entry }

def learns (e : FdbReport) : Bool :=
  e.data.notification_data.event_type = .learned ∨ e.data.notification_data.event_type = .move

/-- What the hardware has done on its own before the event. -/
def occur (e : FdbReport) (db : FdbDb) : FdbDb :=
  db.setHardware e.key (if e.learns then some e.node.port_id else none)

end FdbReport

/-- The body of the loop of `sai_common_fdb_event_notification`: the event goes into the list for the
callback, or does not. -/
def fdbEvent (e : FdbReport) (db : FdbDb) : List FdbNotification × FdbDb :=
  if e.learns then
    if !isValidFdbLearn e.env e.key e.node.port_id then
      ([], (db.call e.env (.flushFdbEntry e.key false)).2)
    else
      let x := db.insertNode e.env e.node
      (if x.1 = .success ∨ x.1 = .itemAlreadyExists then [e.data.notification_data] else [], x.2)
  else if (db.node e.key).isSome then ([e.data.notification_data], db.removeNode e.key)
  else ([], db)

def fdbEvents : List FdbReport → FdbDb → List FdbNotification × FdbDb
  | [], db => ([], db)
  | e :: events, db =>
    let x := fdbEvent e (e.occur db)
    let y := fdbEvents events x.2
    (x.1 ++ y.1, y.2)

/-- What is left in the hardware by events that the module does not look at. -/
def FdbDb.occurAll (events : List FdbReport) (db : FdbDb) : FdbDb :=
  events.foldl (fun db e => e.occur db) db

/-- `sai_common_fdb_event_notification` -/
def commonFdbEventNotification (data : List FdbReport) (db : FdbDb) : FdbDb :=
  if data = [] ∨ db.max_macs < data.length then db.occurAll data
  else
    let x := fdbEvents data db
    if x.2.registered then { x.2 with notified := x.2.notified ++ [x.1] } else x.2

/-! ## The system -/

inductive FdbOp where
  | create (env : FdbEnv) (fdb_entry : FdbKey) (attr_list : List FdbAttr)
  | remove (env : FdbEnv) (fdb_entry : FdbKey)
  | flush (env : FdbEnv) (attr_list : List FdbFlushAttr)
  | events (data : List FdbReport)

def fdbStep (op : FdbOp) (db : FdbDb) : FdbDb :=
  match op with
  | .create env fdb_entry attr_list => (l2CreateFdbEntry env fdb_entry attr_list db).2
  | .remove env fdb_entry => (l2RemoveFdbEntry env fdb_entry db).2
  | .flush env attr_list => (l2FlushFdbEntry env attr_list db).2
  | .events data => commonFdbEventNotification data db

def FdbDb.initial (max_macs : Nat) (registered : Bool) (hardware : FdbKey → Option Oid) : FdbDb where
  nodes := []
  hardware := hardware
  registered := registered
  notified := []
  max_macs := max_macs
  outside_log := []

end OpxSai
