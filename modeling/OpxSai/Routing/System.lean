import OpxSai.Lib.Run
import OpxSai.Routing.Neighbor
import OpxSai.Routing.RouterInterface

/-!
# Routing — the system

The module is driven through its API, one call after the other: every call takes
the lock of the module for as long as it runs. `Op` lists the calls, `opRun` is
one call with what the outside answers during it, and a run of the system is a
sequence of calls, each with an outside of its own.
-/

namespace OpxSai

inductive Op where
  | virtualRouterCreate (attr_list : List VrAttr)
  | virtualRouterRemove (vr_id : Oid)
  | routerInterfaceCreate (rif_obj_id : Oid) (attr_list : List RifAttr)
  | routerInterfaceRemove (rif_id : Oid)
  | routerInterfaceAttributeSet (rif_id : Oid) (attr : RifAttr)
  | nextHopCreate (attr_list : List NextHopAttr)
  | nextHopRemove (next_hop_id : Oid)
  | nextHopGroupCreate (attr_list : List GroupAttr)
  | nextHopGroupRemove (nh_group_id : Oid)
  | nextHopGroupMemberCreate (attr_list : List MemberAttr)
  | nextHopGroupMemberRemove (member_id : Oid)
  | neighborCreate (entry : NeighborEntry) (attr_list : List NeighborAttr)
  | neighborRemove (entry : NeighborEntry)
  | neighborAttributeSet (entry : NeighborEntry) (attr : NeighborAttr)
  | routeCreate (entry : RouteEntry) (attr_list : List RouteAttr)
  | routeRemove (entry : RouteEntry)
  | routeAttributeSet (entry : RouteEntry) (attr : RouteAttr)

def opRun (env : Env) : Op → Fib → Status × Fib
  | .virtualRouterCreate attr_list, s => (virtualRouterCreate env attr_list s).1
  | .virtualRouterRemove vr_id, s => virtualRouterRemove env vr_id s
  | .routerInterfaceCreate rif_obj_id attr_list, s =>
    (routerInterfaceCreate env rif_obj_id attr_list s).1
  | .routerInterfaceRemove rif_id, s => routerInterfaceRemove env rif_id s
  | .routerInterfaceAttributeSet rif_id attr, s => routerInterfaceAttributeSet env rif_id attr s
  | .nextHopCreate attr_list, s => (nextHopCreate env attr_list s).1
  | .nextHopRemove next_hop_id, s => nextHopRemove env next_hop_id s
  | .nextHopGroupCreate attr_list, s => (nextHopGroupCreate env attr_list s).1
  | .nextHopGroupRemove nh_group_id, s => nextHopGroupRemove env nh_group_id s
  | .nextHopGroupMemberCreate attr_list, s => (nextHopGroupMemberCreate env attr_list s).1
  | .nextHopGroupMemberRemove member_id, s => nextHopGroupMemberRemove env member_id s
  | .neighborCreate entry attr_list, s => neighborCreate env entry attr_list s
  | .neighborRemove entry, s => neighborRemove env entry s
  | .neighborAttributeSet entry attr, s => neighborAttributeSet env entry attr s
  | .routeCreate entry attr_list, s => routeCreate env entry attr_list s
  | .routeRemove entry, s => routeRemove env entry s
  | .routeAttributeSet entry attr, s => routeAttributeSet env entry attr s

structure Call where
  env : Env
  op : Op

def fibStep (c : Call) (s : Fib) : Fib := (opRun c.env c.op s).2

/-- A run of the system whose calls all meet the condition `ok`. -/
abbrev FibRun (ok : Call → Fib → Prop) : Fib → Fib → Prop := Run fibStep ok

end OpxSai
