import OpxSai.Common.Lock
import OpxSai.Common.Outside

/-!
# LAGs

The LAG calls. The cache of LAGs and of their ports is kept elsewhere; here it is the LAGs that have
been added to it and a list of the ports. What the NPU library is asked is in the log, with its
answers, and what the registered modules are told is in a list of its own.
-/

variable (env : LagEnv)

namespace OpxSai

/-! ## Attributes -/

/-- `sai_attribute_t` of a LAG. `acl` stands for the two ACL attributes. -/
inductive LagAttr where
  | portList
  | acl (id : Nat)
  | unknown (id : Nat)
deriving DecidableEq

/-- `sai_attribute_t` of a LAG member. -/
inductive LagMemberAttr where
  | lagId (oid : Oid)
  | portId (oid : Oid)
  | egressDisable (booldata : Bool)
  | ingressDisable (booldata : Bool)
  | unknown (id : Nat)
deriving DecidableEq

/-! ## The state -/

structure LagPort where
  lag_id : Oid
  port_id : Oid
  member_id : Oid
  ing_disable : Bool
  egr_disable : Bool
deriving DecidableEq

inductive LagCall where
  | lagCreate (lag_id : Oid) | lagRemove (lag_id : Oid)
  | addPort (lag_id port_id : Oid) | removePort (lag_id port_id : Oid)
  | portFlagSet (lag_id port_id : Oid) (is_ingress value : Bool)
  | nodeAdd (lag_id : Oid) | portNodeAdd (lag_id port_id : Oid)
  | portListGet (lag_id : Oid)
deriving DecidableEq

/-- `sai_lag_operation_t` with the ports. -/
inductive LagOper where
  | create | delete
  | addPorts (port_list : List Oid)
  | delPorts (port_list : List Oid)
deriving DecidableEq

structure LagEvent where
  module_id : Nat
  lag_id : Oid
  operation : LagOper
deriving DecidableEq

structure LagEnv where
  outside : Outside LagCall
  /-- The id that `lag_create` hands out. -/
  npu_lag_id : Oid
  /-- The member id that `add_ports_to_lag` hands out. -/
  npu_member_id : Oid
  /-- `sai_is_lag_in_use` -/
  in_use : Oid → Bool
  /-- `sai_is_port_valid` -/
  port_valid : Oid → Bool

def LagEnv.good (npu_lag_id npu_member_id : Oid) : LagEnv where
  outside := fun _ _ => .success
  npu_lag_id := npu_lag_id
  npu_member_id := npu_member_id
  in_use := fun _ => false
  port_valid := fun _ => true

/-- The module: the cache, the modules that have registered a callback, what they were told, and the
lock. -/
structure LagDb where
  lags : Oid → Bool
  ports : List LagPort
  lag_event : List Nat
  events : List LagEvent
  lag_lock : LockDepth
  outside_log : CallLog LagCall

namespace LagDb

def call (c : LagCall) (db : LagDb) : Status × LagDb :=
  (env.outside db.outside_log c, { db with outside_log := env.outside.log c db.outside_log })

/-- `sai_lag_lock` -/
def lock (db : LagDb) : LagDb := { db with lag_lock := db.lag_lock.lock }

/-- `sai_lag_unlock` -/
def unlock (db : LagDb) : LagDb := { db with lag_lock := db.lag_lock.unlock }

/-- `sai_lag_node_add`: the cache takes a LAG once. -/
def nodeAdd (env : LagEnv) (lag_id : Oid) (db : LagDb) : Status × LagDb :=
  if db.lags lag_id then (.itemAlreadyExists, db)
  else
    let x := db.call env (.nodeAdd lag_id)
    (x.1, if x.1 ≠ .success then x.2
      else { x.2 with lags := fun l => if l = lag_id then true else x.2.lags l })

/-- `sai_lag_node_remove` -/
def nodeRemove (lag_id : Oid) (db : LagDb) : Status × LagDb :=
  if db.lags lag_id then
    (.success, { db with lags := fun l => if l = lag_id then false else db.lags l })
  else (.itemNotFound, db)

/-- `sai_lag_port_node_add` -/
def portNodeAdd (env : LagEnv) (lag_id port_id member_id : Oid) (db : LagDb) : Status × LagDb :=
  let x := db.call env (.portNodeAdd lag_id port_id)
  (x.1, if x.1 ≠ .success then x.2
    else { x.2 with ports := ⟨lag_id, port_id, member_id, false, false⟩ :: x.2.ports })

/-- `sai_lag_port_node_remove` -/
def portNodeRemove (lag_id port_id : Oid) (db : LagDb) : LagDb :=
  { db with ports := db.ports.filter fun p => ¬(p.lag_id = lag_id ∧ p.port_id = port_id) }

/-- `sai_remove_all_lag_port_nodes` -/
def removeAllPortNodes (lag_id : Oid) (db : LagDb) : LagDb :=
  { db with ports := db.ports.filter fun p => p.lag_id ≠ lag_id }

/-- `sai_lag_port_count_get` -/
def portCount (lag_id : Oid) (db : LagDb) : Nat :=
  (db.ports.filter fun p => p.lag_id = lag_id).length

def port (lag_id port_id : Oid) (db : LagDb) : Option LagPort :=
  db.ports.find? fun p => p.lag_id = lag_id ∧ p.port_id = port_id

/-- `sai_is_port_lag_member` -/
def isPortLagMember (lag_id port_id : Oid) (db : LagDb) : Bool :=
  db.ports.any fun p => p.lag_id = lag_id ∧ p.port_id = port_id

/-- `sai_is_port_part_of_different_lag` -/
def isPortPartOfDifferentLag (lag_id port_id : Oid) (db : LagDb) : Bool :=
  db.ports.any fun p => p.lag_id ≠ lag_id ∧ p.port_id = port_id

/-- `sai_lag_get_info_from_member_id` -/
def infoFromMemberId (member_id : Oid) (db : LagDb) : Option LagPort :=
  db.ports.find? fun p => p.member_id = member_id

/-- `sai_lag_member_set_disable_status` -/
def setDisableStatus (lag_id port_id : Oid) (is_ingress value : Bool) (db : LagDb) : LagDb :=
  { db with ports := db.ports.map fun p =>
      if p.lag_id = lag_id ∧ p.port_id = port_id then
        if is_ingress then { p with ing_disable := value } else { p with egr_disable := value }
      else p }

end LagDb

open LagDb

/-- `sai_lag_notify_modules` -/
def lagNotifyModules (lag_id : Oid) (lag_operation : LagOper) (db : LagDb) : LagDb :=
  { db with events := db.events ++ db.lag_event.map fun m => ⟨m, lag_id, lag_operation⟩ }

/-! ## LAGs -/

/-- The loop of `sai_l2_create_lag`: every attribute is unknown. -/
def l2CreateLagAttrs : List LagAttr → Nat → Status → Status
  | [], _, rc => rc
  | _ :: attr_list, attr_idx, _ =>
    let rc := getIndexedRetVal (.unknownAttribute 0) attr_idx
    if rc ≠ .success then rc else l2CreateLagAttrs attr_list (attr_idx + 1) rc

/-- `sai_l2_create_lag`. When the cache does not take the LAG it is removed from the NPU, and again
at the end; the modules are told of the LAG in any case. -/
def l2CreateLag (attr_list : List LagAttr) (db : LagDb) : Status × LagDb :=
  let db := db.lock
  let lag_id := env.npu_lag_id
  let a := db.call env (.lagCreate lag_id)
  if a.1 ≠ .success then (a.1, a.2.unlock)
  else
    let b := a.2.nodeAdd env lag_id
    let db := if b.1 ≠ .success then (b.2.call env (.lagRemove lag_id)).2 else b.2
    let rc := l2CreateLagAttrs attr_list 0 b.1
    let db := if rc ≠ .success then
        (((db.call env (.lagRemove lag_id)).2.removeAllPortNodes lag_id).nodeRemove lag_id).2
      else db
    (rc, lagNotifyModules lag_id .create db.unlock)

/-- `sai_l2_remove_lag`. A LAG that the NPU does not remove goes back into the cache, and the modules
are told that it is gone in any case. -/
def l2RemoveLag (lag_id : Oid) (db : LagDb) : Status × LagDb :=
  let db := db.lock
  if !db.lags lag_id then (.itemNotFound, db.unlock)
  else if db.portCount lag_id ≠ 0 ∨ env.in_use lag_id = true then (.objectInUse, db.unlock)
  else
    let a := db.nodeRemove lag_id
    let b : Status × LagDb :=
      if a.1 = .success then
        let x := a.2.call env (.lagRemove lag_id)
        if x.1 ≠ .success then (x.1, (x.2.nodeAdd env lag_id).2) else x
      else a
    (b.1, lagNotifyModules lag_id .delete b.2.unlock)

/-- `sai_l2_set_lag_attribute` -/
def l2SetLagAttribute (lag_id : Oid) (attr : LagAttr) (db : LagDb) : Status × LagDb :=
  let db := db.lock
  if !db.lags lag_id then (.itemNotFound, db.unlock)
  else
    let rc : Status := match attr with
      | .portList => .invalidAttribute 0
      | .acl _ => .success
      | .unknown _ => .unknownAttribute 0
    (rc, db.unlock)

/-- The loop of `sai_l2_get_lag_attribute`; the values are those of the cache. -/
def l2GetLagAttrs (env : LagEnv) (lag_id : Oid) :
    Nat → List LagAttr → Status → LagDb → Status × LagDb
  | _, [], rc, db => (rc, db)
  | attr_idx, attr :: attr_list, _, db =>
    let x : Status × LagDb := match attr with
      | .portList => db.call env (.portListGet lag_id)
      | .acl _ => (.attrNotImplemented attr_idx, db)
      | .unknown _ => (getIndexedRetVal (.unknownAttribute 0) attr_idx, db)
    if x.1 ≠ .success then x else l2GetLagAttrs env lag_id (attr_idx + 1) attr_list x.1 x.2

/-- `sai_l2_get_lag_attribute`. The lock is not taken, and given back for an unknown LAG. -/
def l2GetLagAttribute (lag_id : Oid) (attr_list : List LagAttr) (db : LagDb) : Status × LagDb :=
  if !db.lags lag_id then (.itemNotFound, db.unlock)
  else l2GetLagAttrs env lag_id 0 attr_list .failure db

/-! ## Members -/

/-- `sai_l2_add_lag_port` -/
def l2AddLagPort (lag_id port_id : Oid) (db : LagDb) : Status × LagDb :=
  let a := db.call env (.addPort lag_id port_id)
  if a.1 ≠ .success then a
  else
    let b := a.2.portNodeAdd env lag_id port_id env.npu_member_id
    (b.1, if b.1 ≠ .success then (b.2.call env (.removePort lag_id port_id)).2 else b.2)

/-- `sai_l2_remove_lag_port`: the port leaves the cache whatever the NPU answers. -/
def l2RemoveLagPort (lag_id port_id : Oid) (db : LagDb) : Status × LagDb :=
  let a := db.call env (.removePort lag_id port_id)
  (a.1, a.2.portNodeRemove lag_id port_id)

/-- `sai_l2_lag_port_flag_set` -/
def l2LagPortFlagSet (lag_id port_id : Oid) (is_ingress value : Bool) (db : LagDb) : Status × LagDb :=
  match db.port lag_id port_id with
  | none => (.itemNotFound, db)
  | some p =>
    let old_value := if is_ingress then p.ing_disable else p.egr_disable
    if old_value = value then (.success, db)
    else
      let a := db.call env (.portFlagSet lag_id port_id is_ingress value)
      (a.1, if a.1 = .success then a.2.setDisableStatus lag_id port_id is_ingress value
        else (a.2.call env (.portFlagSet lag_id port_id is_ingress old_value)).2)

/-- `sai_l2_validate_lag_port_add` -/
def l2ValidateLagPortAdd (env : LagEnv) (lag_id port_id : Oid) (db : LagDb) : Status :=
  if !env.port_valid port_id then .invalidParameter
  else if !db.lags lag_id then .itemNotFound
  else if db.isPortLagMember lag_id port_id then .itemAlreadyExists
  else if db.isPortPartOfDifferentLag lag_id port_id then .invalidPortMember
  else .success

/-- What the loop of `sai_l2_create_lag_member` finds. -/
structure LagMemberScan where
  lag : Option Oid
  port_id : Option Oid
  ing_disable : Option Bool
  egr_disable : Option Bool

/-- The loop of `sai_l2_create_lag_member`. The status of a second LAG or port that is not the first
one is overwritten later. -/
def l2LagMemberScan : List LagMemberAttr → LagMemberScan → Except Status LagMemberScan
  | [], scan => .ok scan
  | .lagId oid :: attr_list, scan =>
    l2LagMemberScan attr_list { scan with lag := some (scan.lag.getD oid) }
  | .portId oid :: attr_list, scan =>
    l2LagMemberScan attr_list { scan with port_id := some (scan.port_id.getD oid) }
  | .egressDisable booldata :: attr_list, scan =>
    l2LagMemberScan attr_list { scan with egr_disable := some booldata }
  | .ingressDisable booldata :: attr_list, scan =>
    l2LagMemberScan attr_list { scan with ing_disable := some booldata }
  | .unknown _ :: _, _ => .error (.unknownAttribute 0)

def l2LagMemberFlag (lag_id port_id : Oid) (is_ingress : Bool) (value : Option Bool)
    (db : LagDb) : Status × LagDb :=
  match value with
  | none => (.success, db)
  | some value => l2LagPortFlagSet env lag_id port_id is_ingress value db

/-- The `do` of `sai_l2_create_lag_member` with the removal behind it. -/
def l2CreateLagMemberLocked (lag port_id : Oid) (ing_disable egr_disable : Option Bool)
    (db : LagDb) : Status × LagDb :=
  let rc := l2ValidateLagPortAdd env lag port_id db
  if rc ≠ .success then (rc, db)
  else
    let a := l2AddLagPort env lag port_id db
    if a.1 ≠ .success then a
    else
      let b := l2LagMemberFlag env lag port_id true ing_disable a.2
      let c := if b.1 ≠ .success then b else l2LagMemberFlag env lag port_id false egr_disable b.2
      (c.1, if c.1 ≠ .success then (l2RemoveLagPort env lag port_id c.2).2 else c.2)

/-- `sai_l2_create_lag_member` -/
def l2CreateLagMember (attr_list : List LagMemberAttr) (db : LagDb) : Status × LagDb :=
  match l2LagMemberScan attr_list ⟨none, none, none, none⟩ with
  | .error rc => (rc, db)
  | .ok ⟨some lag, some port_id, ing_disable, egr_disable⟩ =>
    let x := l2CreateLagMemberLocked env lag port_id ing_disable egr_disable db.lock
    (x.1, if x.1 = .success then lagNotifyModules lag (.addPorts [port_id]) x.2.unlock
      else x.2.unlock)
  | .ok _ => (.mandatoryAttributeMissing, db)

/-- `sai_l2_remove_lag_member`. What the NPU answers to the removal of the port is not looked at. -/
def l2RemoveLagMember (member_id : Oid) (db : LagDb) : Status × LagDb :=
  let db := db.lock
  match db.infoFromMemberId member_id with
  | none => (.itemNotFound, db.unlock)
  | some p =>
    if !env.port_valid p.port_id then (.invalidParameter, db.unlock)
    else if !db.lags p.lag_id then (.itemNotFound, db.unlock)
    else if !db.isPortLagMember p.lag_id p.port_id then (.itemNotFound, db.unlock)
    else
      (.success, lagNotifyModules p.lag_id (.delPorts [p.port_id])
        (l2RemoveLagPort env p.lag_id p.port_id db).2.unlock)

/-- `sai_l2_set_lag_member_attribute`: the lock is given back between the lookup and the set. -/
def l2SetLagMemberAttribute (member_id : Oid) (attr : LagMemberAttr) (db : LagDb) : Status × LagDb :=
  let db := db.lock
  match db.infoFromMemberId member_id with
  | none => (.itemNotFound, db.unlock)
  | some p =>
    let db := db.unlock.lock
    let x : Status × LagDb := match attr with
      | .lagId _ | .portId _ => (.invalidAttribute 0, db)
      | .egressDisable booldata => l2LagPortFlagSet env p.lag_id p.port_id false booldata db
      | .ingressDisable booldata => l2LagPortFlagSet env p.lag_id p.port_id true booldata db
      | .unknown _ => (.unknownAttribute 0, db)
    (x.1, x.2.unlock)

/-- The loop of `sai_l2_get_lag_member_attribute`: the attributes with their values. -/
def l2GetLagMemberAttrs (p : LagPort) (db : LagDb) :
    List LagMemberAttr → Status × List LagMemberAttr
  | [] => (.success, [])
  | attr :: attr_list =>
    let x : Status × LagMemberAttr := match attr with
      | .lagId _ => (.success, .lagId p.lag_id)
      | .portId _ => (.success, .portId p.port_id)
      | .egressDisable b =>
        match db.port p.lag_id p.port_id with
        | none => (.itemNotFound, .egressDisable b)
        | some q => (.success, .egressDisable q.egr_disable)
      | .ingressDisable b =>
        match db.port p.lag_id p.port_id with
        | none => (.itemNotFound, .ingressDisable b)
        | some q => (.success, .ingressDisable q.ing_disable)
      | .unknown id => (.unknownAttribute 0, .unknown id)
    if x.1 ≠ .success then (x.1, x.2 :: attr_list)
    else
      let y := l2GetLagMemberAttrs p db attr_list
      (y.1, x.2 :: y.2)

/-- `sai_l2_get_lag_member_attribute` -/
def l2GetLagMemberAttribute (member_id : Oid) (attr_list : List LagMemberAttr) (db : LagDb) :
    Status × List LagMemberAttr × LagDb :=
  let db := db.lock
  match db.infoFromMemberId member_id with
  | none => (.itemNotFound, attr_list, db.unlock)
  | some p =>
    let db := db.unlock.lock
    let x := l2GetLagMemberAttrs p db attr_list
    (x.1, x.2, db.unlock)

/-! ## The system -/

inductive LagOp where
  | create (attr_list : List LagAttr)
  | remove (lag_id : Oid)
  | set (lag_id : Oid) (attr : LagAttr)
  | get (lag_id : Oid) (attr_list : List LagAttr)
  | memberCreate (attr_list : List LagMemberAttr)
  | memberRemove (member_id : Oid)
  | memberSet (member_id : Oid) (attr : LagMemberAttr)
  | memberGet (member_id : Oid) (attr_list : List LagMemberAttr)

structure LagOpCall where
  env : LagEnv
  op : LagOp

def lagExec (c : LagOpCall) (db : LagDb) : Status × LagDb :=
  match c.op with
  | .create attr_list => l2CreateLag c.env attr_list db
  | .remove lag_id => l2RemoveLag c.env lag_id db
  | .set lag_id attr => l2SetLagAttribute lag_id attr db
  | .get lag_id attr_list => l2GetLagAttribute c.env lag_id attr_list db
  | .memberCreate attr_list => l2CreateLagMember c.env attr_list db
  | .memberRemove member_id => l2RemoveLagMember c.env member_id db
  | .memberSet member_id attr => l2SetLagMemberAttribute c.env member_id attr db
  | .memberGet member_id attr_list =>
    let x := l2GetLagMemberAttribute member_id attr_list db
    (x.1, x.2.2)

def lagStep (c : LagOpCall) (db : LagDb) : LagDb := (lagExec c db).2

def LagDb.initial (lag_event : List Nat) : LagDb where
  lags := fun _ => false
  ports := []
  lag_event := lag_event
  events := []
  lag_lock := ⟨0, false⟩
  outside_log := []

end OpxSai
