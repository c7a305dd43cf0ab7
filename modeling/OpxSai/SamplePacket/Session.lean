import OpxSai.Common.Object
import OpxSai.Lib.Heap

/-!
# Sample packet — sessions and their port nodes

A session holds a tree of port nodes, one for each port and direction that samples to it. A
node has two kinds of users: the port itself, which uses it once, and the flows of ACL rules,
which are counted.
The NPU library answers each call with the calls it was sent before in view, so it may fail at
any point of a run.
-/

variable (env : SampleEnv)

namespace OpxSai

/-! ## Data -/

/-- `sai_samplepacket_direction_t` -/
inductive SampleDirection where
  | ingress | egress
deriving DecidableEq

/-- `dn_sai_samplepacket_mode_t`; `other` is a value that is neither mode. -/
inductive SampleMode where
  | portBased | flowBased | other
deriving DecidableEq

structure SamplePortKey where
  samplepacket_port : Oid
  samplepacket_direction : SampleDirection
deriving DecidableEq

/-- `dn_sai_samplepacket_port_info_t`; the bits of `sample_mode` are two fields. -/
structure SamplePort where
  key : SamplePortKey
  ref_count : BitVec 32
  port_based : Bool
  flow_based : Bool
deriving DecidableEq

/-- A port node after `calloc`, with its key. -/
def SamplePort.new (key : SamplePortKey) : SamplePort := ⟨key, 0, false, false⟩

/-- `dn_sai_samplepacket_session_info_t` -/
structure SampleSession where
  sampling_type : Int
  sample_rate : BitVec 32
  port_tree : List Ptr
deriving DecidableEq

inductive SampleAttr where
  | type (s32 : Int)
  | sampleRate (u32 : BitVec 32)
  | other (id : Nat)
deriving DecidableEq

inductive SampleCall where
  | sessionCreate (session : SampleSession)
  | sessionDestroy (session_id : Oid)
  | sessionPortAdd (session_id port_id : Oid) (direction : SampleDirection)
  | sessionPortRemove (session_id port_id : Oid) (direction : SampleDirection)
  | sessionAclPortAdd (session_id port_id : Oid) (direction : SampleDirection)
  | sessionAclPortRemove (session_id port_id : Oid) (direction : SampleDirection)
deriving DecidableEq

inductive SampleResource where
  | sessionNode | sessionTree | portTree | portNode | portTreeInsert | aclInfo | portList
deriving DecidableEq

/-- The sessions, their port nodes, and the calls that were made, oldest first. -/
structure SampleDb where
  session : Oid → Option SampleSession
  ports : Heap SamplePort
  npu_log : List (SampleCall × Status)

structure SampleEnv where
  status : List (SampleCall × Status) → SampleCall → Status
  avail : List (SampleCall × Status) → SampleResource → Bool
  /-- The object id the NPU library gives to a new session. -/
  npu_id : Nat

namespace SampleDb

def call (c : SampleCall) (db : SampleDb) : Status × SampleDb :=
  (env.status db.npu_log c, { db with npu_log := db.npu_log ++ [(c, env.status db.npu_log c)] })

def modSession (session_id : Oid) (f : SampleSession → SampleSession) (db : SampleDb) : SampleDb :=
  { db with session := fun s => if s = session_id then (db.session s).map f else db.session s }

def modPort (p : Ptr) (f : SamplePort → SamplePort) (db : SampleDb) : SampleDb :=
  { db with ports := db.ports.modify p f }

/-- `sai_samplepacket_port_node_free` -/
def portNodeFree (p : Ptr) (db : SampleDb) : SampleDb := { db with ports := db.ports.free p }

/-- `std_rbtree_remove` from the port tree of the session. -/
def portUnlink (session_id : Oid) (p : Ptr) (db : SampleDb) : SampleDb :=
  db.modSession session_id fun s => { s with port_tree := s.port_tree.filter fun q => q ≠ p }

/-- `std_rbtree_insert` into the port tree of the session. -/
def portLink (session_id : Oid) (p : Ptr) (db : SampleDb) : SampleDb :=
  db.modSession session_id fun s => { s with port_tree := s.port_tree ++ [p] }

/-- `std_rbtree_getexact` in the port tree: the node with its key. A node that was freed has no
key to be found by. -/
def portGet (session : SampleSession) (key : SamplePortKey) (db : SampleDb) :
    Option (Ptr × SamplePort) :=
  session.port_tree.findSome? fun p =>
    match db.ports.get p with
    | none => none
    | some port => if port.key = key then some (p, port) else none

end SampleDb

open SampleDb

/-! ## Uses of a port -/

/-- `sai_samplepacket_session_port_add`, once the port node is in the tree and in need of the
NPU library. A node whose call fails is freed, whether or not it left the tree. -/
def samplepacketPortUse (session_id : Oid) (mode : SampleMode) (p : Ptr)
    (port : SamplePort) (db : SampleDb) : Status × SampleDb :=
  match mode with
  | .portBased =>
    let x := db.call env (.sessionPortAdd session_id port.key.samplepacket_port
      port.key.samplepacket_direction)
    if x.1 ≠ .success then
      let db := if port.ref_count = 0 then x.2.portUnlink session_id p else x.2
      (x.1, db.portNodeFree p)
    else (.success, x.2.modPort p fun n => { n with port_based := true })
  | .flowBased =>
    let x := db.call env (.sessionAclPortAdd session_id port.key.samplepacket_port
      port.key.samplepacket_direction)
    if x.1 ≠ .success then
      let db := if !port.port_based ∧ port.ref_count = 0 then x.2.portUnlink session_id p
        else x.2
      (x.1, db.portNodeFree p)
    else
      (.success, x.2.modPort p fun n => { n with ref_count := n.ref_count + 1, flow_based := true })
  | .other => (.failure, db.portNodeFree p)

/-- `sai_samplepacket_session_port_add` -/
def samplepacketSessionPortAdd (session_id samplepacket_port_id : Oid)
    (samplepacket_direction : SampleDirection) (sample_mode : SampleMode) (db : SampleDb) :
    Status × SampleDb :=
  if session_id.type ≠ .samplePacket then (.invalidObjectType, db)
  else
    match db.session session_id with
    | none => (.invalidObjectId, db)
    | some session =>
      let key := ⟨samplepacket_port_id, samplepacket_direction⟩
      match db.portGet session key with
      | none =>
        if !env.avail db.npu_log .portNode then (.noMemory, db)
        else
          let p := db.ports.next
          let db := { db with ports := db.ports.alloc (.new key) }
          if !env.avail db.npu_log .portTreeInsert then (.failure, db.portNodeFree p)
          else samplepacketPortUse env session_id sample_mode p (.new key) (db.portLink session_id p)
      | some (p, port) =>
        if sample_mode = .portBased ∧ port.port_based then (.itemAlreadyExists, db)
        else if sample_mode = .flowBased ∧ port.flow_based then
          (.success, db.modPort p fun n => { n with ref_count := n.ref_count + 1 })
        else samplepacketPortUse env session_id sample_mode p port db

/-- The end of `sai_samplepacket_session_port_remove`: the node is freed, and before that it
leaves the tree if no flow counts on it. -/
def samplepacketPortDone (session_id : Oid) (p : Ptr) (ref_count : BitVec 32) (db : SampleDb) :
    Status × SampleDb :=
  let db := if ref_count = 0 then db.portUnlink session_id p else db
  (.success, db.portNodeFree p)

/-- `sai_samplepacket_session_port_remove`. A flow that is not the last one is told so by
`objectInUse`. -/
def samplepacketSessionPortRemove (session_id samplepacket_port_id : Oid)
    (samplepacket_direction : SampleDirection) (sample_mode : SampleMode) (db : SampleDb) :
    Status × SampleDb :=
  if session_id.type ≠ .samplePacket then (.invalidObjectType, db)
  else
    match db.session session_id with
    | none => (.invalidObjectId, db)
    | some session =>
      match db.portGet session ⟨samplepacket_port_id, samplepacket_direction⟩ with
      | none => (.itemNotFound, db)
      | some (p, port) =>
        match sample_mode with
        | .portBased =>
          let x := db.call env (.sessionPortRemove session_id samplepacket_port_id
            samplepacket_direction)
          if x.1 ≠ .success then x else samplepacketPortDone session_id p port.ref_count x.2
        | .flowBased =>
          let ref_count := port.ref_count - 1
          let db := db.modPort p fun n => { n with ref_count := ref_count }
          if ref_count = 0 then
            let x := db.call env (.sessionAclPortRemove session_id samplepacket_port_id
              samplepacket_direction)
            if x.1 ≠ .success then x
            else samplepacketPortDone session_id p ref_count
              (x.2.modPort p fun n => { n with flow_based := false })
          else (.objectInUse, db)
        | .other => samplepacketPortDone session_id p port.ref_count db

/-! ## Sessions -/

/-- `SAI_SAMPLEPACKET_TYPE_SLOW_PATH` -/
def samplepacketTypeSlowPath : Int := 0

/-- `sai_samplepacket_fill_attribute_params` -/
def samplepacketFillAttributeParams (session : SampleSession) (attr : SampleAttr)
    (attr_index : Nat) : Except Status SampleSession :=
  match attr with
  | .type s32 =>
    if s32 ≠ samplepacketTypeSlowPath then .error (.invalidAttrValue attr_index)
    else .ok { session with sampling_type := s32 }
  | .sampleRate u32 => .ok { session with sample_rate := u32 }
  | .other _ => .error (.unknownAttribute attr_index)

/-- The loop of `sai_samplepacket_session_create` over the attributes. -/
def samplepacketFillAttributes : Nat → List SampleAttr → SampleSession → Except Status SampleSession
  | _, [], session => .ok session
  | attr_index, attr :: attr_list, session =>
    match samplepacketFillAttributeParams session attr attr_index with
    | .error status => .error status
    | .ok session => samplepacketFillAttributes (attr_index + 1) attr_list session

/-- `sai_samplepacket_session_create`; the id of a session must be new to the tree. -/
def samplepacketSessionCreate (attr_list : List SampleAttr) (db : SampleDb) :
    (Status × SampleDb) × Option Oid :=
  if !env.avail db.npu_log .sessionNode then ((.noMemory, db), none)
  else
    match samplepacketFillAttributes 0 attr_list ⟨0, 0, []⟩ with
    | .error status => ((status, db), none)
    | .ok session =>
      if !attr_list.any (fun attr => match attr with | .sampleRate _ => true | _ => false) then
        ((.mandatoryAttributeMissing, db), none)
      else
        let x := db.call env (.sessionCreate session)
        if x.1 ≠ .success then (x, none)
        else
          let session_id := uoidCreate .samplePacket env.npu_id
          if (db.session session_id).isSome ∨ !env.avail x.2.npu_log .sessionTree ∨
              !env.avail x.2.npu_log .portTree then
            -- the session is taken back from the tree, if it came to that
            ((.failure, (x.2.call env (.sessionDestroy session_id)).2), none)
          else
            ((.success, { x.2 with
              session := fun s => if s = session_id then some session else x.2.session s }),
              some session_id)

/-- `sai_samplepacket_session_remove` -/
def samplepacketSessionRemove (session_id : Oid) (db : SampleDb) : Status × SampleDb :=
  if session_id.type ≠ .samplePacket then (.invalidObjectType, db)
  else
    match db.session session_id with
    | none => (.invalidObjectId, db)
    | some session =>
      if session.port_tree ≠ [] then (.objectInUse, db)
      else
        let x := db.call env (.sessionDestroy session_id)
        if x.1 ≠ .success then x
        else
          (.success, { x.2 with
            session := fun s => if s = session_id then none else x.2.session s })

end OpxSai
