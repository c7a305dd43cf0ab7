import OpxSai.Lib.Run
import OpxSai.Switching.Stp

/-!
# STP ports

The calls on STP ports. A create scans its attributes before it takes the lock, and keeps a pointer
to the instance it has found; what other callers do in between may free the instance.
-/

variable (env : StpEnv)

namespace OpxSai

open StpDb

/-! ## Nodes and trees -/

namespace StpInfo

/-- `std_rbtree_getexact` on the port tree of an instance. -/
def hasPort (port_id : Oid) (info : StpInfo) : Bool :=
  info.stp_port_tree.any fun x => x.1 = port_id

def addPort (port_id : Oid) (p : Ptr) (info : StpInfo) : StpInfo :=
  { info with
    stp_port_tree := (port_id, p) :: info.stp_port_tree
    num_ports := info.num_ports + 1 }

def removePort (port_id : Oid) (info : StpInfo) : StpInfo :=
  { info with
    stp_port_tree := info.stp_port_tree.filter fun x => x.1 ≠ port_id
    num_ports := info.num_ports - 1 }

end StpInfo

namespace StpDb

def allocPort (node : StpPort) (db : StpDb) : StpDb := { db with ports := db.ports.alloc node }

def freePort (p : Ptr) (db : StpDb) : StpDb := { db with ports := db.ports.free p }

def writePort (p : Ptr) (node : StpPort) (db : StpDb) : StpDb :=
  { db with ports := db.ports.modify p fun _ => node }

def setGlobal (stp_port_id : Oid) (x : Option Ptr) (db : StpDb) : StpDb :=
  { db with global_stp_port_tree := fun id =>
      if id = stp_port_id then x else db.global_stp_port_tree id }

/-- `std_rbtree_getexact` on the tree of all STP ports. -/
def port (stp_port_id : Oid) (db : StpDb) : Option (Ptr × StpPort) :=
  match db.global_stp_port_tree stp_port_id with
  | none => none
  | some p => (db.ports.get p).map fun node => (p, node)

end StpDb

/-! ## Ids -/

/-- `sai_stp_port_id_in_use`: the answer is yes when there is no port with the id. -/
def stpPortIdInUse (db : StpDb) (obj_id : Nat) : Bool :=
  (db.global_stp_port_tree (uoidCreate .stpPort obj_id)).isNone

/-- `sai_stp_port_id_create`, with what the generator is left as. -/
def stpPortIdCreate (db : StpDb) : Option (Oid × IdGenInfo) :=
  (env.next_free_id.next db.sai_port_id_gen_info (stpPortIdInUse db)).map fun info =>
    (uoidCreate .stpPort info.cur_id, info)

/-! ## Create -/

/-- `sai_attribute_t` of an STP port. -/
inductive StpPortAttr where
  | stp (oid : Oid)
  | port (oid : Oid)
  | state (s32 : StpPortState)
  | unknown (id : Nat)
deriving DecidableEq

/-- `sai_stp_port_state_valid` -/
def stpPortStateValid : StpPortState → Bool
  | .learning | .forwarding | .blocking => true
  | .invalid _ => false

/-- What the scan finds: the instance with the pointer to its node, the port and the state. -/
structure StpPortScan where
  stp_inst_id : Oid
  p_stp_info : Ptr
  port_id : Oid
  port_state : StpPortState
deriving DecidableEq

/-- What the scan has found up to some attribute. -/
structure StpPortScanned where
  stp : Option (Oid × Ptr)
  port_id : Option Oid
  port_state : Option StpPortState

/-- The loop of `sai_stp_port_create`. It reads the tree of instances without the lock. -/
def stpPortScanAttrs (env : StpEnv) (db : StpDb) :
    Nat → List StpPortAttr → StpPortScanned → Except Status StpPortScanned
  | _, [], scan => .ok scan
  | attr_idx, .stp oid :: attr_list, scan =>
    if oid.type ≠ .stp then .error (.invalidAttrValue attr_idx)
    else
      match db.stp_info_tree oid with
      | none => .error (.invalidAttrValue attr_idx)
      | some info =>
        stpPortScanAttrs env db (attr_idx + 1) attr_list { scan with stp := some (oid, info.node) }
  | attr_idx, .port oid :: attr_list, scan =>
    if oid.type ≠ .port then .error (.invalidAttrValue attr_idx)
    else if !env.port_valid oid then .error (.invalidAttrValue attr_idx)
    else stpPortScanAttrs env db (attr_idx + 1) attr_list { scan with port_id := some oid }
  | attr_idx, .state s32 :: attr_list, scan =>
    if !stpPortStateValid s32 then .error (.invalidAttrValue attr_idx)
    else stpPortScanAttrs env db (attr_idx + 1) attr_list { scan with port_state := some s32 }
  | attr_idx, .unknown _ :: _, _ => .error (.unknownAttribute attr_idx)

/-- `sai_stp_port_create` up to the lock. -/
def stpPortScan (attr_list : List StpPortAttr) (db : StpDb) : Except Status StpPortScan :=
  if attr_list = [] then .error .mandatoryAttributeMissing
  else
    match stpPortScanAttrs env db 0 attr_list ⟨none, none, none⟩ with
    | .error rc => .error rc
    | .ok ⟨some (stp_inst_id, p_stp_info), some port_id, some port_state⟩ =>
      .ok ⟨stp_inst_id, p_stp_info, port_id, port_state⟩
    | .ok _ => .error .mandatoryAttributeMissing

/-- The locked part of `sai_stp_port_create`, on the instance whose node the scan has found. -/
def stpPortCreateLocked (scan : StpPortScan) (info : StpInfo) (db : StpDb) : Status × StpDb :=
  let a := db.call env .portNode
  if a.1 ≠ .success then (.noMemory, a.2)
  else
    let p := a.2.ports.next
    let db := a.2.allocPort ⟨.null, .null, scan.port_id, .learning⟩
    if info.hasPort scan.port_id then (.itemAlreadyExists, db.freePort p)
    else
      match stpPortIdCreate env db with
      | none => (.failure, db.freePort p)
      | some (stp_port_id, gen) =>
        let db := { db with sai_port_id_gen_info := gen }.writePort p
          ⟨stp_port_id, scan.stp_inst_id, scan.port_id, scan.port_state⟩
        let b := db.insert env (.portTree scan.stp_inst_id scan.port_id) false
        if b.1 ≠ .success then (.failure, b.2.freePort p)
        else
          let info := info.addPort scan.port_id p
          let db := b.2.setInfo scan.stp_inst_id (some info)
          let c := db.insert env (.globalPortTree stp_port_id)
            (db.global_stp_port_tree stp_port_id).isSome
          if c.1 ≠ .success then
            (.failure, (c.2.setInfo scan.stp_inst_id
              (some (info.removePort scan.port_id))).freePort p)
          else
            let db := c.2.setGlobal stp_port_id (some p)
            let d := db.call env (.portStateSet scan.stp_inst_id scan.port_id scan.port_state)
            if d.1 ≠ .success then
              (d.1, ((d.2.setInfo scan.stp_inst_id
                (some (info.removePort scan.port_id))).setGlobal stp_port_id none).freePort p)
            else (.success, d.2)

/-! ## Remove and set -/

/-- `sai_stp_port_remove` -/
def stpPortRemove (stp_port_id : Oid) (db : StpDb) : Status × StpDb :=
  if stp_port_id.type ≠ .stpPort then (.invalidObjectId, db)
  else
    match db.port stp_port_id with
    | none => (.itemNotFound, db)
    | some (p, node) =>
      let a := db.call env (.portStateSet node.stp_inst_id node.port_id .blocking)
      if a.1 ≠ .success then a
      else
        let db := a.2.setGlobal stp_port_id none
        match db.stp_info_tree node.stp_inst_id with
        | none => (.failure, db)
        | some info =>
          (.success, (db.setInfo node.stp_inst_id
            (some (info.removePort node.port_id))).freePort p)

/-- `sai_stp_port_attribute_set` -/
def stpPortAttributeSet (stp_port_id : Oid) (attr : StpPortAttr) (db : StpDb) : Status × StpDb :=
  if stp_port_id.type ≠ .stpPort then (.invalidObjectType, db)
  else
    match db.port stp_port_id with
    | none => (.itemNotFound, db)
    | some (p, node) =>
      match attr with
      | .stp _ | .port _ => (.invalidAttribute 0, db)
      | .state s32 =>
        if !stpPortStateValid s32 then (.invalidAttribute 0, db)
        else
          let a := db.call env (.portStateSet node.stp_inst_id node.port_id s32)
          (a.1, if a.1 ≠ .success then a.2 else a.2.writePort p { node with port_state := s32 })
      | .unknown _ => (.unknownAttribute 0, db)

/-! ## The system -/

/-- The module with its callers: what each caller that waits for the lock of a create has found, and
whether a create has used the node of an instance that was freed. -/
structure StpPortDb where
  stp : StpDb
  pending : Nat → Option StpPortScan
  freed_used : Bool

/-- A step: the scan of a create, its locked part, or another call as a whole. -/
inductive StpPortOp where
  | scan (caller : Nat) (attr_list : List StpPortAttr)
  | createLocked (caller : Nat)
  | remove (stp_port_id : Oid)
  | set (stp_port_id : Oid) (attr : StpPortAttr)
  | instanceCreate (attr_count : Nat)
  | instanceRemove (stp_inst_id : Oid)

structure StpPortOpCall where
  env : StpEnv
  op : StpPortOp

namespace StpPortDb

def setPending (caller : Nat) (x : Option StpPortScan) (db : StpPortDb) : StpPortDb :=
  { db with pending := fun c => if c = caller then x else db.pending c }

/-- The instance behind the pointer of a scan, if its node has not been freed. -/
def scanned (scan : StpPortScan) (db : StpPortDb) : Option StpInfo :=
  match db.stp.stp_info_tree scan.stp_inst_id with
  | some info => if info.node = scan.p_stp_info then some info else none
  | none => none

end StpPortDb

/-- The locked part of the create of one caller. What a freed node reads as is not known; it is only
remembered that it is read. -/
def stpPortCreateStep (caller : Nat) (db : StpPortDb) : StpPortDb :=
  match db.pending caller with
  | none => db
  | some scan =>
    match db.scanned scan with
    | none => { db.setPending caller none with freed_used := true }
    | some info =>
      { db.setPending caller none with stp := (stpPortCreateLocked env scan info db.stp).2 }

/-- A step of some caller. A caller is in one call at a time. -/
def stpPortStep (c : StpPortOpCall) (db : StpPortDb) : StpPortDb :=
  match c.op with
  | .scan caller attr_list =>
    if db.pending caller = none then
      match stpPortScan c.env attr_list db.stp with
      | .error _ => db
      | .ok scan => db.setPending caller (some scan)
    else db
  | .createLocked caller => stpPortCreateStep c.env caller db
  | .remove stp_port_id => { db with stp := (stpPortRemove c.env stp_port_id db.stp).2 }
  | .set stp_port_id attr => { db with stp := (stpPortAttributeSet c.env stp_port_id attr db.stp).2 }
  | .instanceCreate attr_count => { db with stp := (stpInstanceCreate c.env attr_count db.stp).2 }
  | .instanceRemove stp_inst_id => { db with stp := (stpInstanceRemove c.env stp_inst_id db.stp).2 }

def StpPortDb.initial (stp : StpDb) : StpPortDb := ⟨stp, fun _ => none, false⟩

end OpxSai
