import OpxSai.Common.Outside

/-!
# Bridges and bridge ports

The create and remove calls of bridges and of bridge ports. The caches of both are kept elsewhere;
here they are in the state, and so are the counters and maps that a bridge port is entered in: the
reference count of its bridge, that of what it is attached to, the default bridge port of a port or a
LAG, and the maps from a LAG, from a port with a VLAN, and from a tunnel. Each helper that writes one
of them may fail, and does nothing then.

* `bridgePortIncrAttachmentRefCounter`, `bridgePortDecrAttachmentRefCounter` — the counters and maps
  that every kind of bridge port is entered in.
-/

variable (env : BridgeEnv)

namespace OpxSai

/-! ## Attributes and records -/

/-- `sai_bridge_type_t` -/
inductive BridgeType where
  | bridge1Q | bridge1D
  | other (s32 : Int)
deriving DecidableEq

/-- `sai_attribute_t` of a bridge. -/
inductive BridgeAttr where
  | type (s32 : BridgeType)
  | portList
  | maxLearnedAddresses (u32 : Nat)
  | learnDisable (booldata : Bool)
  | unknown (id : Nat)
deriving DecidableEq

/-- `dn_sai_bridge_info_t`; the reference count is kept with the other counters. -/
structure BridgeInfo where
  bridge_type : BridgeType
  max_learned_address : Nat
  learn_disable : Bool
deriving DecidableEq

/-- `sai_bridge_port_type_t` -/
inductive BridgePortType where
  | port | subPort | router1Q | router1D | tunnel
  | other (s32 : Int)
deriving DecidableEq

/-- `sai_attribute_t` of a bridge port. -/
inductive BridgePortAttr where
  | type (s32 : BridgePortType)
  | portId (oid : Oid)
  | vlanId (u16 : Nat)
  | rifId (oid : Oid)
  | tunnelId (oid : Oid)
  | bridgeId (oid : Oid)
  | fdbLearningMode (s32 : Int)
  | maxLearnedAddresses (u32 : Nat)
  | fdbLearningLimitViolationPacketAction (s32 : Int)
  | adminState (booldata : Bool)
  | ingressFiltering (booldata : Bool)
  | unknown (id : Nat)
deriving DecidableEq

/-- `dn_sai_bridge_port_info_t`, with the members of the attachment side by side. -/
structure BridgePortInfo where
  bridge_port_id : Oid
  bridge_id : Oid
  bridge_port_type : BridgePortType
  port_id : Oid
  vlan_id : Nat
  rif_id : Oid
  tunnel_id : Oid
  fdb_learn_mode : Int
  max_learned_address : Nat
  learn_limit_violation_action : Int
  admin_state : Bool
  ingress_filtering : Bool
deriving DecidableEq

namespace BridgePortInfo

def attachId (info : BridgePortInfo) : Oid :=
  match info.bridge_port_type with
  | .port | .subPort => info.port_id
  | .router1Q | .router1D => info.rif_id
  | .tunnel => info.tunnel_id
  | .other _ => .null

def onPort (info : BridgePortInfo) : Bool :=
  info.bridge_port_type = .port ∨ info.bridge_port_type = .subPort

end BridgePortInfo

/-! ## The state -/

inductive BridgeCall where
  | bridgeCreate | bridgeRemove (bridge_id : Oid)
  | bridgeSetAttribute (bridge_id : Oid) (attr : BridgeAttr)
  | bridgePortCreate (info : BridgePortInfo) | bridgePortRemove (info : BridgePortInfo)
  | bridgePortSetAttribute (bridge_port_id : Oid) (attr : BridgePortAttr)
  | bridgeCacheWrite (bridge_id : Oid) (info : BridgeInfo) | bridgeCacheDelete (bridge_id : Oid)
  | bridgePortCacheWrite (info : BridgePortInfo) | bridgePortCacheDelete (bridge_port_id : Oid)
  | bridgeIncr (bridge_id : Oid) | bridgeDecr (bridge_id : Oid)
  | defBridgePortGet (port_id : Oid) | defBridgePortSet (port_id bridge_port_id : Oid)
  | incr (attach_id : Oid) | decr (attach_id : Oid)
  | lagMapInsert (lag_id bridge_port_id : Oid) | lagMapRemove (lag_id bridge_port_id : Oid)
  | vlanMapInsert (port_id : Oid) (vlan_id : Nat) (bridge_port_id : Oid)
  | vlanMapRemove (port_id : Oid) (vlan_id : Nat)
  | tunnelMapInsert (tunnel_id bridge_port_id : Oid) | tunnelMapRemove (tunnel_id bridge_port_id : Oid)
deriving DecidableEq

/-- How the outside answers during one call of the module. -/
structure BridgeEnv where
  outside : Outside BridgeCall
  /-- The ids that the NPU hands out. -/
  npu_bridge_id : Oid
  npu_bridge_port_id : Oid
  /-- The id of a bridge port that is created again in the NPU. -/
  npu_again_id : Oid → Oid
  /-- `sai_is_port_valid` -/
  port_valid : Oid → Bool
  /-- `sai_is_lag_created` -/
  lag_created : Oid → Bool
  /-- `sai_is_valid_vlan_id` -/
  vlan_valid : Nat → Bool
  /-- `sai_fib_is_rif_created` -/
  rif_created : Oid → Bool
  /-- `dn_sai_tunnel_obj_get` finds a tunnel. -/
  tunnel_created : Oid → Bool
  /-- The reference count of a bridge port, which other modules keep, is not zero. -/
  bridge_port_in_use : Oid → Bool

def BridgeEnv.good (npu_bridge_id npu_bridge_port_id : Oid) : BridgeEnv where
  outside := fun _ _ => .success
  npu_bridge_id := npu_bridge_id
  npu_bridge_port_id := npu_bridge_port_id
  npu_again_id := fun id => id
  port_valid := fun _ => true
  lag_created := fun _ => true
  vlan_valid := fun _ => true
  rif_created := fun _ => true
  tunnel_created := fun _ => true
  bridge_port_in_use := fun _ => false

structure BridgeBooks where
  bridge_refs : Oid → Nat
  refs : Oid → Nat
  def_port : Oid → Oid
  lag_map : Oid → Oid → Bool
  vlan_map : Oid → Nat → Option Oid
  tunnel_map : Oid → Oid → Bool

def BridgeBooks.write (b : BridgeBooks) : BridgeCall → BridgeBooks
  | .bridgeCacheWrite bridge_id _ =>
    { b with bridge_refs := fun o => if o = bridge_id then 0 else b.bridge_refs o }
  | .bridgeIncr bridge_id =>
    { b with bridge_refs := fun o => if o = bridge_id then b.bridge_refs o + 1 else b.bridge_refs o }
  | .bridgeDecr bridge_id =>
    { b with bridge_refs := fun o => if o = bridge_id then b.bridge_refs o - 1 else b.bridge_refs o }
  | .incr attach_id => { b with refs := fun o => if o = attach_id then b.refs o + 1 else b.refs o }
  | .decr attach_id => { b with refs := fun o => if o = attach_id then b.refs o - 1 else b.refs o }
  | .defBridgePortSet port_id bridge_port_id =>
    { b with def_port := fun o => if o = port_id then bridge_port_id else b.def_port o }
  | .lagMapInsert lag_id bridge_port_id =>
    { b with lag_map := fun l p => if l = lag_id ∧ p = bridge_port_id then true else b.lag_map l p }
  | .lagMapRemove lag_id bridge_port_id =>
    { b with lag_map := fun l p => if l = lag_id ∧ p = bridge_port_id then false else b.lag_map l p }
  | .vlanMapInsert port_id vlan_id bridge_port_id =>
    { b with vlan_map := fun p v =>
        if p = port_id ∧ v = vlan_id then some bridge_port_id else b.vlan_map p v }
  | .vlanMapRemove port_id vlan_id =>
    { b with vlan_map := fun p v => if p = port_id ∧ v = vlan_id then none else b.vlan_map p v }
  | .tunnelMapInsert tunnel_id bridge_port_id =>
    { b with tunnel_map := fun t p =>
        if t = tunnel_id ∧ p = bridge_port_id then true else b.tunnel_map t p }
  | .tunnelMapRemove tunnel_id bridge_port_id =>
    { b with tunnel_map := fun t p =>
        if t = tunnel_id ∧ p = bridge_port_id then false else b.tunnel_map t p }
  | _ => b

structure BridgeDb where
  default_bridge_id : Oid
  bridges : Oid → Option BridgeInfo
  bridge_ports : List BridgePortInfo
  books : BridgeBooks
  outside_log : CallLog BridgeCall

namespace BridgeDb

def call (c : BridgeCall) (db : BridgeDb) : Status × BridgeDb :=
  let rc := env.outside db.outside_log c
  let db := { db with outside_log := env.outside.log c db.outside_log }
  (rc, if rc ≠ .success then db
    else
      let db := { db with books := db.books.write c }
      match c with
      | .bridgeCacheWrite bridge_id info =>
        { db with bridges := fun o => if o = bridge_id then some info else db.bridges o }
      | .bridgeCacheDelete bridge_id =>
        { db with bridges := fun o => if o = bridge_id then none else db.bridges o }
      | .bridgePortCacheWrite info => { db with bridge_ports := info :: db.bridge_ports }
      | .bridgePortCacheDelete bridge_port_id =>
        { db with bridge_ports := db.bridge_ports.filter fun p => p.bridge_port_id ≠ bridge_port_id }
      | _ => db)

/-- `sai_bridge_port_cache_read` -/
def bridgePort (bridge_port_id : Oid) (db : BridgeDb) : Option BridgePortInfo :=
  db.bridge_ports.find? fun p => p.bridge_port_id = bridge_port_id

end BridgeDb

/-! ## Bridges -/

/-- The loop of `sai_bridge_validate_and_fill_mandatory_attributes`, with the type if it has been
found. -/
def bridgeValidateFrom (default_bridge_id : Oid) :
    Nat → List BridgeAttr → Option BridgeType → Except Status (Option BridgeType)
  | _, [], type => .ok type
  | attr_idx, attr :: attr_list, type =>
    match attr with
    | .type s32 =>
      if s32 ≠ .bridge1Q ∧ s32 ≠ .bridge1D then
        .error (getIndexedRetVal (.invalidAttrValue 0) attr_idx)
      else if s32 = .bridge1Q ∧ default_bridge_id ≠ .null then .error .itemAlreadyExists
      else bridgeValidateFrom default_bridge_id (attr_idx + 1) attr_list (some s32)
    | .portList => .error (getIndexedRetVal (.invalidAttribute 0) attr_idx)
    | _ => bridgeValidateFrom default_bridge_id (attr_idx + 1) attr_list type

/-- `sai_bridge_validate_and_fill_mandatory_attributes` -/
def bridgeValidateAndFillMandatoryAttributes (default_bridge_id : Oid) (attr_list : List BridgeAttr) :
    Except Status BridgeType :=
  match bridgeValidateFrom default_bridge_id 0 attr_list none with
  | .error rc => .error rc
  | .ok none => .error .mandatoryAttributeMissing
  | .ok (some type) => .ok type

/-- `sai_bridge_update_attr_value_in_cache` -/
def BridgeInfo.update (info : BridgeInfo) : BridgeAttr → BridgeInfo
  | .maxLearnedAddresses u32 => { info with max_learned_address := u32 }
  | .learnDisable booldata => { info with learn_disable := booldata }
  | _ => info

/-- `sai_bridge_set_attribute` -/
def bridgeSetAttribute (env : BridgeEnv) (bridge_id : Oid) (attr : BridgeAttr) (db : BridgeDb) :
    Status × BridgeDb :=
  match attr with
  | .type _ | .portList => (.invalidAttribute 0, db)
  | .unknown _ => (.unknownAttribute 0, db)
  | .maxLearnedAddresses _ | .learnDisable _ =>
    match db.bridges bridge_id with
    | none => (.invalidObjectId, db)
    | some info =>
      let x := db.call env (.bridgeSetAttribute bridge_id attr)
      (x.1, if x.1 ≠ .success then x.2
        else { x.2 with bridges := fun o =>
                 if o = bridge_id then some (info.update attr) else x.2.bridges o })

/-- `sai_bridge_non_mandatory_attr` -/
def bridgeNonMandatoryAttr : BridgeAttr → Bool
  | .portList | .maxLearnedAddresses _ | .learnDisable _ => true
  | _ => false

/-- The loop of `sai_bridge_create` over the attributes that are set. -/
def bridgeSetAttributes (env : BridgeEnv) (bridge_id : Oid) :
    List BridgeAttr → Status × BridgeDb → Status × BridgeDb
  | [], x => x
  | attr :: attr_list, x =>
    if bridgeNonMandatoryAttr attr then
      let y := bridgeSetAttribute env bridge_id attr x.2
      if y.1 ≠ .success then y else bridgeSetAttributes env bridge_id attr_list y
    else bridgeSetAttributes env bridge_id attr_list x

/-- `sai_bridge_create` -/
def bridgeCreate (env : BridgeEnv) (attr_list : List BridgeAttr) (db : BridgeDb) :
    Status × BridgeDb :=
  match bridgeValidateAndFillMandatoryAttributes db.default_bridge_id attr_list with
  | .error rc => (rc, db)
  | .ok bridge_type =>
    let bridge_id := env.npu_bridge_id
    let a := db.call env .bridgeCreate
    if a.1 ≠ .success then a
    else
      let b := a.2.call env (.bridgeCacheWrite bridge_id ⟨bridge_type, 0, false⟩)
      if b.1 ≠ .success then (b.1, (b.2.call env (.bridgeRemove bridge_id)).2)
      else
        let c := bridgeSetAttributes env bridge_id attr_list b
        (c.1, if c.1 ≠ .success then
            ((c.2.call env (.bridgeRemove bridge_id)).2.call env (.bridgeCacheDelete bridge_id)).2
          else c.2)

/-- `sai_api_bridge_remove` -/
def bridgeRemove (env : BridgeEnv) (bridge_id : Oid) (db : BridgeDb) : Status × BridgeDb :=
  if bridge_id = db.default_bridge_id then (.objectInUse, db)
  else
    match db.bridges bridge_id with
    | none => (.invalidObjectId, db)
    | some _ =>
      if db.books.bridge_refs bridge_id > 0 then (.objectInUse, db)
      else
        let a := db.call env (.bridgeRemove bridge_id)
        if a.1 ≠ .success then a
        else
          let b := a.2.call env (.bridgeCacheDelete bridge_id)
          (b.1, if b.1 ≠ .success then (b.2.call env .bridgeCreate).2 else b.2)

/-! ## The checks on a bridge port -/

/-- `sai_bridge_port_is_valid_port` -/
def bridgePortIsValidPort (port_id : Oid) : Bool :=
  (port_id.type = .port && env.port_valid port_id) || (port_id.type = .lag && env.lag_created port_id)

/-- What the loop of `sai_bridge_port_validate_and_fill_attributes` carries: the record, and what
goes into its attachment. -/
structure BridgePortScan where
  info : BridgePortInfo
  type_idx : Option Nat
  bridge : Bool
  port_id : Oid
  vlan_id : Nat
  rif_id : Oid
  tunnel_id : Oid

/-- `sai_bridge_init_default_bridge_port_info`, after `memset`. -/
def bridgePortInfoInit : BridgePortInfo where
  bridge_port_id := .null
  bridge_id := .null
  bridge_port_type := .port
  port_id := .null
  vlan_id := 0
  rif_id := .null
  tunnel_id := .null
  fdb_learn_mode := 0
  max_learned_address := 0
  learn_limit_violation_action := 0
  admin_state := false
  ingress_filtering := false

/-- `sai_bridge_port_update_attr_value_in_cache`, and the same cases of the loop of
`sai_bridge_port_validate_and_fill_attributes`. -/
def BridgePortInfo.update (info : BridgePortInfo) : BridgePortAttr → BridgePortInfo
  | .fdbLearningMode s32 => { info with fdb_learn_mode := s32 }
  | .maxLearnedAddresses u32 => { info with max_learned_address := u32 }
  | .fdbLearningLimitViolationPacketAction s32 => { info with learn_limit_violation_action := s32 }
  | .adminState booldata => { info with admin_state := booldata }
  | .ingressFiltering booldata => { info with ingress_filtering := booldata }
  | _ => info

def bridgePortFillAttr (db : BridgeDb) (attr_idx : Nat) (attr : BridgePortAttr)
    (scan : BridgePortScan) : Except Status BridgePortScan :=
  match attr with
  | .type s32 =>
    .ok { scan with info := { scan.info with bridge_port_type := s32 }, type_idx := some attr_idx }
  | .portId oid =>
    if !bridgePortIsValidPort env oid then .error (getIndexedRetVal (.invalidAttrValue 0) attr_idx)
    else .ok { scan with port_id := oid }
  | .vlanId u16 =>
    if !env.vlan_valid u16 then .error (getIndexedRetVal (.invalidAttrValue 0) attr_idx)
    else .ok { scan with vlan_id := u16 }
  | .rifId oid =>
    if !env.rif_created oid then .error (getIndexedRetVal (.invalidAttrValue 0) attr_idx)
    else .ok { scan with rif_id := oid }
  | .tunnelId oid =>
    if !env.tunnel_created oid then .error (getIndexedRetVal (.invalidAttrValue 0) attr_idx)
    else .ok { scan with tunnel_id := oid }
  | .bridgeId oid =>
    if (db.bridges oid).isNone then .error (getIndexedRetVal (.invalidAttrValue 0) attr_idx)
    else .ok { scan with info := { scan.info with bridge_id := oid }, bridge := true }
  | .unknown _ => .error (getIndexedRetVal (.unknownAttribute 0) attr_idx)
  | attr => .ok { scan with info := scan.info.update attr }

def bridgePortFillFrom (env : BridgeEnv) (db : BridgeDb) :
    Nat → List BridgePortAttr → BridgePortScan → Except Status BridgePortScan
  | _, [], scan => .ok scan
  | attr_idx, attr :: attr_list, scan =>
    match bridgePortFillAttr env db attr_idx attr scan with
    | .error rc => .error rc
    | .ok scan => bridgePortFillFrom env db (attr_idx + 1) attr_list scan

/-- `sai_is_bridge_and_port_type_match` -/
def isBridgeAndPortTypeMatch (info : BridgePortInfo) (db : BridgeDb) : Bool :=
  match (db.bridges info.bridge_id).map BridgeInfo.bridge_type, info.bridge_port_type with
  | some .bridge1Q, .port | some .bridge1Q, .router1Q => true
  | some .bridge1D, .subPort | some .bridge1D, .tunnel | some .bridge1D, .router1D => true
  | _, _ => false

/-- `VLAN_UNDEF` -/
def bridgeVlanUndef : Nat := 0

/-- `sai_bridge_is_bridge_connected_to_tunnel` -/
def isBridgeConnectedToTunnel (bridge_id tunnel_id : Oid) (db : BridgeDb) : Bool :=
  db.bridge_ports.any fun p =>
    p.bridge_port_type = .tunnel ∧ p.bridge_id = bridge_id ∧ p.tunnel_id = tunnel_id

/-- `sai_bridge_port_validate_and_fill_attachment`. The default bridge port of a port is asked of
another module. -/
def bridgePortValidateAndFillAttachment (scan : BridgePortScan) (db : BridgeDb) :
    Except Status BridgePortInfo × BridgeDb :=
  match scan.info.bridge_port_type with
  | .port =>
    if scan.port_id = .null then (.error .mandatoryAttributeMissing, db)
    else if scan.port_id.type ≠ .port ∧ scan.port_id.type ≠ .lag then (.error .invalidObjectType, db)
    else
      let x := db.call env (.defBridgePortGet scan.port_id)
      if x.1 ≠ .success then (.error x.1, x.2)
      else if x.2.books.def_port scan.port_id ≠ .null then (.error .itemAlreadyExists, x.2)
      else (.ok { scan.info with port_id := scan.port_id }, x.2)
  | .subPort =>
    if scan.port_id = .null ∨ scan.vlan_id = bridgeVlanUndef then
      (.error .mandatoryAttributeMissing, db)
    -- `sai_bridge_is_bridge_sub_port_duplicate`
    else if (db.books.vlan_map scan.port_id scan.vlan_id).isSome then (.error .itemAlreadyExists, db)
    else (.ok { scan.info with port_id := scan.port_id, vlan_id := scan.vlan_id }, db)
  | .router1Q | .router1D =>
    if scan.rif_id = .null then (.error .mandatoryAttributeMissing, db)
    else (.ok { scan.info with rif_id := scan.rif_id }, db)
  | .tunnel =>
    if scan.tunnel_id = .null then (.error .mandatoryAttributeMissing, db)
    else if isBridgeConnectedToTunnel scan.info.bridge_id scan.tunnel_id db then
      (.error .itemAlreadyExists, db)
    else (.ok { scan.info with tunnel_id := scan.tunnel_id }, db)
  | .other _ => (.error (.invalidAttrValue 0), db)

/-- `sai_bridge_port_validate_and_fill_attributes` -/
def bridgePortValidateAndFillAttributes (attr_list : List BridgePortAttr)
    (db : BridgeDb) : Except Status BridgePortInfo × BridgeDb :=
  match bridgePortFillFrom env db 0 attr_list
      ⟨bridgePortInfoInit, none, false, .null, bridgeVlanUndef, .null, .null⟩ with
  | .error rc => (.error rc, db)
  | .ok scan =>
    match scan.type_idx with
    | none => (.error .mandatoryAttributeMissing, db)
    | some type_idx =>
      if !scan.bridge then (.error .mandatoryAttributeMissing, db)
      else if !isBridgeAndPortTypeMatch scan.info db then
        (.error (getIndexedRetVal (.invalidAttrValue 0) type_idx), db)
      else
        let x := bridgePortValidateAndFillAttachment env scan db
        (match x.1 with
          | .error rc =>
            .error (if rc = .invalidAttrValue 0 then getIndexedRetVal rc type_idx else rc)
          | .ok info => .ok info, x.2)

/-! ## Counters and maps -/

/-- The part of `sai_bridge_port_incr_attachment_ref_counter` that port and sub-port share. It tells
whether the function returns at once. -/
def bridgePortIncrPort (info : BridgePortInfo) (db : BridgeDb) : (Status × BridgeDb) × Bool :=
  if info.port_id.type = .port then (db.call env (.incr info.port_id), false)
  else if info.port_id.type = .lag then
    let a := db.call env (.lagMapInsert info.port_id info.bridge_port_id)
    if a.1 ≠ .success then (a, true)
    else
      let b := a.2.call env (.incr info.port_id)
      ((b.1, if b.1 ≠ .success then
          (b.2.call env (.lagMapRemove info.port_id info.bridge_port_id)).2
        else b.2), false)
  else ((.invalidObjectType, db), false)

/-- The `switch` of `sai_bridge_port_incr_attachment_ref_counter`. -/
def bridgePortIncrAttachment (info : BridgePortInfo) (db : BridgeDb) : (Status × BridgeDb) × Bool :=
  match info.bridge_port_type with
  | .port =>
    if info.port_id.type ≠ .port ∧ info.port_id.type ≠ .lag then ((.invalidObjectType, db), true)
    else
      let a := db.call env (.defBridgePortSet info.port_id info.bridge_port_id)
      if a.1 ≠ .success then (a, true) else bridgePortIncrPort env info a.2
  | .subPort => bridgePortIncrPort env info db
  | .router1Q | .router1D => (db.call env (.incr info.rif_id), false)
  | .tunnel => (db.call env (.incr info.tunnel_id), false)
  | .other _ => ((.success, db), false)

/-- `sai_bridge_port_incr_attachment_ref_counter`: the count of the bridge is taken back at the end,
but not when the `switch` returns at once. -/
def bridgePortIncrAttachmentRefCounter (info : BridgePortInfo) (db : BridgeDb) : Status × BridgeDb :=
  let a := db.call env (.bridgeIncr info.bridge_id)
  if a.1 ≠ .success then a
  else
    let b := bridgePortIncrAttachment env info a.2
    if b.2 then b.1
    else (b.1.1, if b.1.1 ≠ .success then (b.1.2.call env (.bridgeDecr info.bridge_id)).2 else b.1.2)

/-- The part of `sai_bridge_port_decr_attachment_ref_counter` that port and sub-port share. -/
def bridgePortDecrPort (info : BridgePortInfo) (db : BridgeDb) : (Status × BridgeDb) × Bool :=
  if info.port_id.type = .port then (db.call env (.decr info.port_id), false)
  else if info.port_id.type = .lag then
    let a := db.call env (.lagMapRemove info.port_id info.bridge_port_id)
    if a.1 ≠ .success then (a, true)
    else
      let b := a.2.call env (.decr info.port_id)
      ((b.1, if b.1 ≠ .success then
          (b.2.call env (.lagMapInsert info.port_id info.bridge_port_id)).2
        else b.2), false)
  else ((.invalidObjectType, db), false)

/-- The `switch` of `sai_bridge_port_decr_attachment_ref_counter`. -/
def bridgePortDecrAttachment (info : BridgePortInfo) (db : BridgeDb) : (Status × BridgeDb) × Bool :=
  match info.bridge_port_type with
  | .port =>
    if info.port_id.type ≠ .port ∧ info.port_id.type ≠ .lag then bridgePortDecrPort env info db
    else
      let a := db.call env (.defBridgePortSet info.port_id .null)
      if a.1 ≠ .success then (a, true) else bridgePortDecrPort env info a.2
  | .subPort => bridgePortDecrPort env info db
  | .router1Q | .router1D => (db.call env (.decr info.rif_id), false)
  | .tunnel => (db.call env (.decr info.tunnel_id), false)
  | .other _ => ((.success, db), false)

/-- `sai_bridge_port_decr_attachment_ref_counter` -/
def bridgePortDecrAttachmentRefCounter (info : BridgePortInfo) (db : BridgeDb) : Status × BridgeDb :=
  let a := db.call env (.bridgeDecr info.bridge_id)
  if a.1 ≠ .success then a
  else
    let b := bridgePortDecrAttachment env info a.2
    if b.2 then b.1
    else (b.1.1, if b.1.1 ≠ .success then (b.1.2.call env (.bridgeIncr info.bridge_id)).2 else b.1.2)

def bridgePortMapInsert (info : BridgePortInfo) (db : BridgeDb) : Status × BridgeDb :=
  match info.bridge_port_type with
  | .subPort => db.call env (.vlanMapInsert info.port_id info.vlan_id info.bridge_port_id)
  | .tunnel => db.call env (.tunnelMapInsert info.tunnel_id info.bridge_port_id)
  | _ => (.success, db)

def bridgePortMapRemove (info : BridgePortInfo) (db : BridgeDb) : Status × BridgeDb :=
  match info.bridge_port_type with
  | .subPort => db.call env (.vlanMapRemove info.port_id info.vlan_id)
  | .tunnel => db.call env (.tunnelMapRemove info.tunnel_id info.bridge_port_id)
  | _ => (.success, db)

/-! ## Create and remove of a bridge port -/

/-- `sai_bridge_port_non_mandatory_attr` -/
def bridgePortNonMandatoryAttr : BridgePortAttr → Bool
  | .fdbLearningMode _ | .maxLearnedAddresses _ | .fdbLearningLimitViolationPacketAction _
  | .adminState _ | .ingressFiltering _ => true
  | _ => false

/-- `sai_bridge_port_set_attribute`, for the attributes that may be set. -/
def bridgePortSetAttribute (env : BridgeEnv) (bridge_port_id : Oid) (attr : BridgePortAttr)
    (db : BridgeDb) : Status × BridgeDb :=
  match db.bridgePort bridge_port_id with
  | none => (.invalidObjectId, db)
  | some _ =>
    let x := db.call env (.bridgePortSetAttribute bridge_port_id attr)
    (x.1, if x.1 ≠ .success then x.2
      else { x.2 with bridge_ports := x.2.bridge_ports.map fun p =>
               if p.bridge_port_id = bridge_port_id then p.update attr else p })

/-- The loop of `sai_bridge_port_create` over the attributes that are set. -/
def bridgePortSetAttributes (env : BridgeEnv) (bridge_port_id : Oid) :
    List BridgePortAttr → Status × BridgeDb → Status × BridgeDb
  | [], x => x
  | attr :: attr_list, x =>
    if bridgePortNonMandatoryAttr attr then
      let y := bridgePortSetAttribute env bridge_port_id attr x.2
      if y.1 ≠ .success then y else bridgePortSetAttributes env bridge_port_id attr_list y
    else bridgePortSetAttributes env bridge_port_id attr_list x

/-- `sai_bridge_port_create`, once the NPU and the cache have the bridge port: the attributes, the
counters and the maps. A step that fails is followed by what has to be taken back. -/
def bridgePortCreateCached (attr_list : List BridgePortAttr) (info : BridgePortInfo)
    (x : Status × BridgeDb) : Status × BridgeDb :=
  let a := bridgePortSetAttributes env info.bridge_port_id attr_list x
  if a.1 ≠ .success then
    (a.1, ((a.2.call env (.bridgePortRemove info)).2.call env
      (.bridgePortCacheDelete info.bridge_port_id)).2)
  else
    let b := bridgePortIncrAttachmentRefCounter env info a.2
    if b.1 ≠ .success then
      (b.1, ((b.2.call env (.bridgePortRemove info)).2.call env
        (.bridgePortCacheDelete info.bridge_port_id)).2)
    else
      let c := bridgePortMapInsert env info b.2
      (c.1, if c.1 ≠ .success then
          ((bridgePortDecrAttachmentRefCounter env info
            (c.2.call env (.bridgePortRemove info)).2).2.call env
              (.bridgePortCacheDelete info.bridge_port_id)).2
        else c.2)

/-- `sai_bridge_port_get_type_from_attr` finds a type. -/
def bridgePortTypePresent (attr_list : List BridgePortAttr) : Bool :=
  attr_list.any fun | .type _ => true | _ => false

/-- `sai_api_bridge_port_create` -/
def bridgePortCreate (env : BridgeEnv) (attr_list : List BridgePortAttr) (db : BridgeDb) :
    Status × BridgeDb :=
  if !bridgePortTypePresent attr_list then (.mandatoryAttributeMissing, db)
  else
    let x := bridgePortValidateAndFillAttributes env attr_list db
    match x.1 with
    | .error rc => (rc, x.2)
    | .ok info =>
      let a := x.2.call env (.bridgePortCreate info)
      if a.1 ≠ .success then a
      else
        let info := { info with bridge_port_id := env.npu_bridge_port_id }
        let b := a.2.call env (.bridgePortCacheWrite info)
        if b.1 ≠ .success then (b.1, (b.2.call env (.bridgePortRemove info)).2)
        else bridgePortCreateCached env attr_list info b

/-- The second half of `sai_bridge_port_remove`, when a step has failed: the bridge port is created
again in the NPU, and if it gets its id back, what was taken out is put in. -/
def bridgePortRemoveUndo (info : BridgePortInfo) (ref_count_update map_update : Bool)
    (db : BridgeDb) : BridgeDb :=
  let db := (db.call env (.bridgePortCreate info)).2
  if env.npu_again_id info.bridge_port_id ≠ info.bridge_port_id then db
  else
    let db := if ref_count_update then (bridgePortIncrAttachmentRefCounter env info db).2 else db
    if map_update then (bridgePortMapInsert env info db).2 else db

/-- `sai_api_bridge_port_remove` -/
def bridgePortRemove (env : BridgeEnv) (bridge_port_id : Oid) (db : BridgeDb) : Status × BridgeDb :=
  match db.bridgePort bridge_port_id with
  | none => (.invalidObjectId, db)
  | some info =>
    if env.bridge_port_in_use bridge_port_id then (.objectInUse, db)
    else
      let a := db.call env (.bridgePortRemove info)
      if a.1 ≠ .success then a
      else
        let b := bridgePortDecrAttachmentRefCounter env info a.2
        if b.1 ≠ .success then (b.1, bridgePortRemoveUndo env info false false b.2)
        else
          let c := bridgePortMapRemove env info b.2
          if c.1 ≠ .success then (c.1, bridgePortRemoveUndo env info true false c.2)
          else
            let d := c.2.call env (.bridgePortCacheDelete bridge_port_id)
            (d.1, if d.1 ≠ .success then bridgePortRemoveUndo env info true true d.2 else d.2)

/-! ## The system -/

inductive BridgeOp where
  | create (attr_list : List BridgeAttr)
  | remove (bridge_id : Oid)
  | portCreate (attr_list : List BridgePortAttr)
  | portRemove (bridge_port_id : Oid)

structure BridgeOpCall where
  env : BridgeEnv
  op : BridgeOp

def bridgeExec (c : BridgeOpCall) (db : BridgeDb) : Status × BridgeDb :=
  match c.op with
  | .create attr_list => bridgeCreate c.env attr_list db
  | .remove bridge_id => bridgeRemove c.env bridge_id db
  | .portCreate attr_list => bridgePortCreate c.env attr_list db
  | .portRemove bridge_port_id => bridgePortRemove c.env bridge_port_id db

def bridgeStep (c : BridgeOpCall) (db : BridgeDb) : BridgeDb := (bridgeExec c db).2

def BridgeBooks.empty : BridgeBooks where
  bridge_refs := fun _ => 0
  refs := fun _ => 0
  def_port := fun _ => .null
  lag_map := fun _ _ => false
  vlan_map := fun _ _ => none
  tunnel_map := fun _ _ => false

/-- The module with the default bridge, which `sai_bridge_init` creates, or without it. -/
def BridgeDb.initial (default_bridge_id : Oid) : BridgeDb where
  default_bridge_id := default_bridge_id
  bridges := fun o =>
    if o = default_bridge_id ∧ o ≠ .null then some ⟨.bridge1Q, 0, false⟩ else none
  bridge_ports := []
  books := .empty
  outside_log := []

end OpxSai
