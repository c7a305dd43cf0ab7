import OpxSai.Routing.NextHop
import OpxSai.Tunnel.Tunnel

/-!
# Tunnel termination entries

A termination entry is in a tree of its own, on the list of its tunnel, and in the NPU, and its index is
taken from a bitmap. A VXLAN entry has a next hop to the other end of the tunnel: the entries with one
remote address, on tunnels of one type over one router interface, share it, and each holds a reference.

The next hop of a VXLAN entry is set up for its tunnel, and nobody asks whether there is one. A call that
reads through this pointer is `none`.
-/

namespace OpxSai

open TunnelDb

/-- `sai_attribute_t` of a termination entry. -/
inductive TermAttr where
  | vrId (oid : Oid)
  | type (s32 : Int)
  | dstIp (ipaddr : IpAddress)
  | srcIp (ipaddr : IpAddress)
  | tunnelType (s32 : TunnelType)
  | actionTunnelId (oid : Oid)
  | unknown (id : Nat)
deriving DecidableEq

/-- How the outside answers during a call on termination entries. -/
structure TermEnv extends TunnelEnv where
  /-- `dn_sai_check_duplicate_attr` -/
  term_duplicate : List TermAttr → Option Nat
  /-- `sai_attribute_validate` with the table of the NPU. -/
  term_validate : List TermAttr → Status

def TermEnv.good : TermEnv where
  toTunnelEnv := .good
  term_duplicate := fun _ => none
  term_validate := fun _ => .success

/-- What `calloc` leaves. -/
def TunnelTerm.zero : TunnelTerm where
  vr_id := .null
  type := 0
  dst_ip := .ip4 0
  src_ip := .ip4 0
  tunnel_type := .ipinip
  tunnel_id := .null

def TunnelType.toNat : TunnelType → Nat
  | .ipinip => 0
  | .ipinipGre => 1
  | .vxlan => 2
  | .mpls => 3
  | .other s32 => s32.toNat

/-! ## The next hop of an entry -/

section EncapNh

variable (env : Env)

def encapNhKey (remote_ip : IpAddress) (tunnel : TunnelObj) : NhKey where
  nh_type := .tunnelEncap
  ip_addr := remote_ip
  rif_id := tunnel.underlay_rif
  tunnel_type := tunnel.tunnel_type.toNat

/-- The node that `sai_tunnel_encap_nh_setup` fills in. -/
def encapNhNode (remote_ip : IpAddress) (tunnel_id : Oid) (tunnel : TunnelObj) : Nh :=
  { Nh.zero with
    key := encapNhKey remote_ip tunnel, vrf_id := tunnel.underlay_vrf, tunnel_id := tunnel_id }

/-- `sai_tunnel_encap_nh_setup` -/
def tunnelEncapNhSetup (remote_ip : IpAddress) (tunnel_id : Oid) (tunnel : TunnelObj) (fib : Fib) :
    Status × Fib :=
  match ipNextHopNodeGet (encapNhKey remote_ip tunnel) fib with
  | some nh => (.success, fib.modNh nh Nh.incrRef)
  | none =>
    match ipNextHopCreate env (encapNhNode remote_ip tunnel_id tunnel) fib with
    | (.error status, fib) => (status, fib)
    | (.ok nh, fib) => (.success, fib.modNh nh Nh.incrRef)

/-- `sai_tunnel_encap_nh_teardown` -/
def tunnelEncapNhTeardown (remote_ip : IpAddress) (tunnel : TunnelObj) (fib : Fib) : Status × Fib :=
  match ipNextHopNodeGet (encapNhKey remote_ip tunnel) fib with
  | none => (.failure, fib)
  | some nh =>
    let fib := fib.modNh nh Nh.decrRef
    if (fib.nh nh).ref_count ≠ 0 then (.success, fib)
    else
      let removed := ipNextHopRemove env nh fib
      if removed.1 ≠ .success then (removed.1, removed.2.modNh nh Nh.incrRef) else removed

end EncapNh

/-! ## Attributes -/

section Attributes

variable (db : TunnelDb)

/-- `dn_sai_tunnel_term_ip_set` -/
def tunnelTermIpSet (is_src : Bool) (ipaddr : IpAddress) (term : TunnelTerm) : Except Status TunnelTerm :=
  if ipaddr.familyValid = false then .error (.invalidAttrValue 0)
  else .ok (if is_src = true then { term with src_ip := ipaddr } else { term with dst_ip := ipaddr })

/-- `dn_sai_tunnel_term_tunnel_id_set` -/
def tunnelTermTunnelIdSet (oid : Oid) (term : TunnelTerm) : Except Status TunnelTerm :=
  if (db.tunnelObjGet oid).isNone = true then .error (.invalidAttrValue 0)
  else .ok { term with tunnel_id := oid }

/-- The switch of `dn_sai_tunnel_term_attr_set`. -/
def tunnelTermAttrStore (attr : TermAttr) (term : TunnelTerm) : Except Status TunnelTerm :=
  match attr with
  | .vrId oid => .ok { term with vr_id := oid }
  | .type s32 => .ok { term with type := s32 }
  | .dstIp ipaddr => tunnelTermIpSet false ipaddr term
  | .srcIp ipaddr => tunnelTermIpSet true ipaddr term
  | .tunnelType s32 => .ok { term with tunnel_type := s32 }
  | .actionTunnelId oid => tunnelTermTunnelIdSet db oid term
  | .unknown _ => .error (.unknownAttribute 0)

/-- `dn_sai_tunnel_term_attr_set` -/
def tunnelTermAttrSet : Nat → List TermAttr → TunnelTerm → Except Status TunnelTerm
  | _, [], term => .ok term
  | attr_idx, attr :: attr_list, term =>
    match tunnelTermAttrStore db attr term with
    | .error status => .error (getIndexedRetVal status attr_idx)
    | .ok term => tunnelTermAttrSet (attr_idx + 1) attr_list term

end Attributes

/-! ## Create and remove -/

section Create

variable (env : TermEnv)

def termId (index : Nat) : Oid := uoidCreate .tunnelTermEntry index

/-- `dn_sai_tunnel_term_entry_get` -/
def TunnelDb.termGet (db : TunnelDb) (term_id : Oid) : Option TunnelTerm := Tree.find db.terms term_id

def TunnelDb.putTerm (term_id : Oid) (term : TunnelTerm) (db : TunnelDb) : TunnelDb :=
  { db with terms := Tree.insert db.terms term_id term }

def TunnelDb.dropTerm (term_id : Oid) (db : TunnelDb) : TunnelDb :=
  { db with terms := Tree.erase db.terms term_id }

def TunnelDb.setTermIndex (index : Nat) (free : Bool) (db : TunnelDb) : TunnelDb :=
  { db with term_id_bitmap := fun i => if i = index then free else db.term_id_bitmap i }

/-- `dn_sai_tunnel_term_add_to_tunnel_list` -/
def tunnelTermAddToTunnelList (term_id tunnel_id : Oid) (db : TunnelDb) : TunnelDb :=
  db.modTunnel tunnel_id fun t => { t with tunnel_term_entry_list := t.tunnel_term_entry_list ++ [term_id] }

/-- `dn_sai_tunnel_term_remove_from_tunnel_list` -/
def tunnelTermRemoveFromTunnelList (term_id tunnel_id : Oid) (db : TunnelDb) : TunnelDb :=
  db.modTunnel tunnel_id fun t => { t with tunnel_term_entry_list := t.tunnel_term_entry_list.erase term_id }

def tunnelTermNh (term : TunnelTerm) (db : TunnelDb) (f : TunnelObj → Fib → Status × Fib) :
    Option (Status × TunnelDb) :=
  if term.tunnel_type ≠ .vxlan then some (.success, db)
  else (db.tunnelObjGet term.tunnel_id).map fun tunnel =>
    ((f tunnel db.fib).1, { db with fib := (f tunnel db.fib).2 })

def tunnelTermNhSetup (term : TunnelTerm) (db : TunnelDb) : Option (Status × TunnelDb) :=
  tunnelTermNh term db (tunnelEncapNhSetup env.fib term.src_ip term.tunnel_id)

def tunnelTermNhTeardown (term : TunnelTerm) (db : TunnelDb) : Option (Status × TunnelDb) :=
  tunnelTermNh term db (tunnelEncapNhTeardown env.fib term.src_ip)

/-- `dn_sai_tunnel_term_create` from the NPU on: the status, and is the entry in the NPU? -/
def tunnelTermRegister (tunnel_term_index : Nat) (term : TunnelTerm) (db : TunnelDb) :
    Status × Bool × TunnelDb :=
  let made := db.call env.toTunnelEnv (.termEntryCreate (termId tunnel_term_index))
  if made.1 ≠ .success then (made.1, false, made.2)
  else
    let inserted := made.2.call env.toTunnelEnv (.termInsert (termId tunnel_term_index))
    if inserted.1 ≠ .success ∨ (inserted.2.termGet (termId tunnel_term_index)).isSome = true then
      (.failure, true, inserted.2)
    else
      (.success, true, tunnelTermAddToTunnelList (termId tunnel_term_index) term.tunnel_id
        ((inserted.2.putTerm (termId tunnel_term_index) term).setTermIndex tunnel_term_index false))

/-- The end of `dn_sai_tunnel_term_create` when it fails. Nobody looks at what comes back. -/
def tunnelTermUndo (tunnel_term_index : Nat) (term : TunnelTerm) (is_term_set_in_npu : Bool)
    (db : TunnelDb) : Option TunnelDb :=
  let db := if is_term_set_in_npu = true then
      (db.call env.toTunnelEnv (.termEntryRemove (termId tunnel_term_index) true)).2
    else db
  (tunnelTermNhTeardown env term db).map Prod.snd

/-- `dn_sai_tunnel_term_create` with an index and the attributes at hand. -/
def tunnelTermFill (tunnel_term_index : Nat) (term : TunnelTerm) (db : TunnelDb) :
    Option (Status × Oid × TunnelDb) :=
  match tunnelTermNhSetup env term db with
  | none => none
  | some setup =>
    if setup.1 ≠ .success then some (setup.1, .null, setup.2)
    else
      let made := tunnelTermRegister env tunnel_term_index term setup.2
      if made.1 ≠ .success then
        (tunnelTermUndo env tunnel_term_index term made.2.1 made.2.2).map fun db => (made.1, .null, db)
      else some (.success, termId tunnel_term_index, made.2.2)

/-- `dn_sai_tunnel_term_create`, with the id that it hands out. -/
def tunnelTermCreate (max_id : Nat) (attr_list : List TermAttr) (db : TunnelDb) :
    Option (Status × Oid × TunnelDb) :=
  let valid := tunnelAttrListValidate (env.term_duplicate attr_list) (env.term_validate attr_list)
  if valid ≠ .success then some (valid, .null, db)
  else
    let alloc := db.call env.toTunnelEnv .nodeAlloc
    if alloc.1 ≠ .success then some (.noMemory, .null, alloc.2)
    else
      match tunnelIndexFind max_id alloc.2.term_id_bitmap with
      | none => some (.insufficientResources, .null, alloc.2)
      | some tunnel_term_index =>
        match tunnelTermAttrSet alloc.2 0 attr_list .zero with
        | .error status => some (status, .null, alloc.2)
        | .ok term => tunnelTermFill env tunnel_term_index term alloc.2

/-- `dn_sai_tunnel_term_remove` after the next hop is given back. -/
def tunnelTermRelease (term_id : Oid) (term : TunnelTerm) (db : TunnelDb) : Status × TunnelDb :=
  let removed := db.call env.toTunnelEnv (.termEntryRemove term_id false)
  if removed.1 ≠ .success then
    let inserted := removed.2.call env.toTunnelEnv (.termInsert term_id)
    (removed.1, if inserted.1 = .success then inserted.2.putTerm term_id term else inserted.2)
  else
    (.success, tunnelTermRemoveFromTunnelList term_id term.tunnel_id (removed.2.setTermIndex term_id.id true))

/-- `dn_sai_tunnel_term_remove` -/
def tunnelTermRemove (term_id : Oid) (db : TunnelDb) : Option (Status × TunnelDb) :=
  if term_id.type ≠ .tunnelTermEntry then some (.invalidObjectType, db)
  else
    match db.termGet term_id with
    | none => some (.invalidObjectId, db)
    | some term =>
      (tunnelTermNhTeardown env term (db.dropTerm term_id)).map fun torn =>
        if torn.1 ≠ .success then torn else tunnelTermRelease env term_id term torn.2

end Create

end OpxSai
