import OpxSai.Routing.RouteTrees
import OpxSai.Routing.GroupMembership
import OpxSai.Routing.LagRifMap
import OpxSai.Routing.System

/-!
# Routing — route trees over whole runs

Only the route calls and the virtual router calls touch a route tree. All the others leave
`homes` as it is: which route nodes live, under which key they are to be found, and what the
trees hold. So `RouteTrees` holds of every state of every run, whatever the outside answers.
-/

namespace OpxSai

open Fib
variable {entry : RouteEntry}
variable {attr_list : List RouteAttr} {env : Env} {v : Oid} {key : List Bool}

/-! ## What the other calls leave alone -/

def Vrf.routeTree (v : Vrf) : Oid × List (List Bool × Ptr) := (v.vrf_id, v.sai_route_tree)

/-- Where the routes are, and what the route trees hold. -/
def Fib.homes (s : Fib) :
    (Ptr → Option (Oid × List Bool)) × (Oid → Option (Oid × List (List Bool × Ptr))) :=
  (fun r => (s.routes.get r).map Route.home, fun v => (s.vrf v).map Vrf.routeTree)

section Homes

variable {s t : Fib}

theorem homes_eq (hroutes : t.routes = s.routes) (hvrfs : t.vrf_tree = s.vrf_tree) :
    t.homes = s.homes := by
  unfold homes Fib.vrf
  rw [hroutes, hvrfs]

theorem homes_of_core (h : t.core = s.core) : t.homes = s.homes := by
  have hroutes : ∀ r, (t.routes.get r).map Route.home = (s.routes.get r).map Route.home :=
    routes_get_of_core (fun _ => rfl) h
  unfold homes Fib.vrf
  rw [vrf_tree_of_core h, funext hroutes]

theorem homes_modVrf {f : Vrf → Vrf} (hf : ∀ v, (f v).routeTree = v.routeTree) (s : Fib)
    (id : Oid) : (s.modVrf id f).homes = s.homes := by
  have hvrf : ∀ v, ((s.modVrf id f).vrf v).map Vrf.routeTree = (s.vrf v).map Vrf.routeTree := by
    intro v
    rw [vrf_modVrf]
    split
    · rw [Option.map_map]
      exact congrArg (fun k => Option.map k (s.vrf v)) (funext hf)
    · rfl
  unfold homes
  rw [funext hvrf]
  rfl

theorem homes_vrfNhTreeInsert (vrf_id : Oid) (key : NhKey) (p : Ptr) (s : Fib) :
    (vrfNhTreeInsert vrf_id key p s).homes = s.homes :=
  homes_modVrf (f := fun v => { v with sai_nh_tree := Tree.insert v.sai_nh_tree key p })
    (fun _ => rfl) s vrf_id

theorem homes_vrfNhTreeRemove (vrf_id : Oid) (key : NhKey) (s : Fib) :
    (vrfNhTreeRemove vrf_id key s).homes = s.homes :=
  homes_modVrf (f := fun v => { v with sai_nh_tree := Tree.erase v.sai_nh_tree key })
    (fun _ => rfl) s vrf_id

theorem homes_andThen {x} {k : Fib → Status × Fib} (hx : x.2.homes = s.homes)
    (hk : ∀ u, (k u).2.homes = u.homes) : (andThen x k).2.homes = s.homes :=
  andThen_keeps (P := fun u => u.homes = s.homes) hx fun h => (hk _).trans h

theorem sameHomes_of_homes (h : t.homes = s.homes) : SameHomes s t where
  routes := fun r => congrFun (congrArg Prod.fst h) r
  vrfs := fun v => by
    have hv := congrArg (Option.map Prod.snd) (congrFun (congrArg Prod.snd h) v)
    rw [homes, homes, Option.map_map, Option.map_map] at hv
    exact hv

theorem vrf_id_of_homes (h : t.homes = s.homes) {v} :
    (t.vrf v).map Vrf.vrf_id = (s.vrf v).map Vrf.vrf_id := by
  have hv := congrArg (Option.map Prod.fst) (congrFun (congrArg Prod.snd h) v)
  rw [homes, homes, Option.map_map, Option.map_map] at hv
  exact hv

end Homes

section Calls

variable (env : Env)

/-! ## Next hops and neighbors -/

variable (vrf_id : Oid) (nh_info : Nh) (p : Ptr) (s : Fib)

theorem ipNextHopNodeCreate_homes : (ipNextHopNodeCreate env vrf_id nh_info s).2.homes = s.homes := by
  unfold ipNextHopNodeCreate
  split
  · rfl
  split
  · rfl
  simp only
  split
  · rfl
  · exact homes_vrfNhTreeInsert vrf_id nh_info.key s.nhs.next (nhNodeAlloc nh_info s)

variable (rif_id : Oid) (r g : Ptr) (next_hops : List Ptr)

theorem checkAndDeleteIpNextHopNode_homes :
    (checkAndDeleteIpNextHopNode vrf_id p s).2.homes = s.homes := by
  unfold checkAndDeleteIpNextHopNode
  split
  · split
    · rfl
    · exact homes_vrfNhTreeRemove _ _ s
  · rfl

theorem nextHopNodeObtain_homes : (nextHopNodeObtain env nh_info s).2.homes = s.homes := by
  unfold nextHopNodeObtain
  split
  · split <;> rfl
  · exact ipNextHopNodeCreate_homes env _ _ _

theorem ipNextHopCreate_homes : (ipNextHopCreate env nh_info s).2.homes = s.homes := by
  have hobtain := nextHopNodeObtain_homes env nh_info s
  unfold ipNextHopCreate
  generalize nextHopNodeObtain _ _ s = x at hobtain ⊢
  obtain ⟨status | p, u⟩ := x
  · exact hobtain
  have hnpu : (nextHopNpuCreate env p (u.modNh p Nh.setOwnerNextHop)).2.homes = s.homes :=
    (homes_of_core (nextHopNpuCreate_core env p _)).trans hobtain
  simp only
  split
  · exact hnpu
  · exact (checkAndDeleteIpNextHopNode_homes _ _ _).trans hnpu

theorem ipNextHopRemove_homes : (ipNextHopRemove env p s).2.homes = s.homes := by
  unfold ipNextHopRemove
  split
  · rfl
  · exact homes_andThen (homes_of_core (nextHopNpuRemove_core env p s)) fun u =>
      checkAndDeleteIpNextHopNode_homes _ _ _

theorem nhIdTreeInsert_homes : (nhIdTreeInsert env p s).2.homes = s.homes := by
  unfold nhIdTreeInsert
  simp only
  split <;> rfl

theorem nhIdTreeRemove_homes : (nhIdTreeRemove p s).2.homes = s.homes := by
  unfold nhIdTreeRemove
  simp only
  split <;> rfl

theorem nextHopCreate_homes {attr_list} {s} :
    (nextHopCreate env attr_list s).1.2.homes = s.homes := by
  unfold nextHopCreate
  split
  · rfl
  rename_i nh_info _
  have hcreate := ipNextHopCreate_homes env nh_info s
  generalize ipNextHopCreate _ _ s = x at hcreate ⊢
  obtain ⟨status | p, u⟩ := x
  · exact hcreate
  have hinsert := (nhIdTreeInsert_homes env p u).trans hcreate
  simp only
  split
  · exact hinsert
  · exact (ipNextHopRemove_homes env p _).trans hinsert

theorem nextHopRemove_homes {next_hop_id} {s} :
    (nextHopRemove env next_hop_id s).2.homes = s.homes := by
  unfold nextHopRemove
  split
  · rfl
  split
  · rfl
  rename_i p _
  split
  · rfl
  split
  · rfl
  unfold nextHopRemoveNode
  simp only
  have hleave := nhIdTreeRemove_homes p s
  split
  · exact hleave
  have hremove := (ipNextHopRemove_homes env p _).trans hleave
  split
  · exact hremove
  · exact (nhIdTreeInsert_homes env p _).trans hremove

theorem neighborMacEntryRemove_homes : (neighborMacEntryRemove env p s).2.homes = s.homes := by
  unfold neighborMacEntryRemove
  split
  · rfl
  · rfl
  split
  · rfl
  · simp only
    split <;> rfl

theorem neighborMacEntryInsert_homes : (neighborMacEntryInsert env p s).2.homes = s.homes := by
  unfold neighborMacEntryInsert
  split
  · rfl
  · rfl
  split
  · rfl
  split
  · rfl
  split
  · rfl
  simp only
  split
  · rfl
  · exact neighborMacEntryRemove_homes env p _

theorem neighborNodeCreate_homes : (neighborNodeCreate env nh_info s).2.homes = s.homes := by
  unfold neighborNodeCreate
  split
  · split <;> rfl
  have hcreate := ipNextHopNodeCreate_homes env nh_info.vrf_id nh_info s
  generalize ipNextHopNodeCreate _ _ _ s = x at hcreate ⊢
  obtain ⟨status | p, u⟩ := x <;> exact hcreate

theorem neighborCreateUndo_homes : (neighborCreateUndo p s).homes = s.homes :=
  checkAndDeleteIpNextHopNode_homes _ _ _

theorem neighborCreateProgram_homes : (neighborCreateProgram env p s).2.homes = s.homes := by
  unfold neighborCreateProgram
  split
  · exact (neighborCreateUndo_homes _ _).trans (neighborMacEntryRemove_homes env _ _)
  simp only
  split
  · exact (homes_of_core (neighborAffectedEncapNhResolve_core env p _ _)).trans rfl
  · exact (neighborCreateUndo_homes _ _).trans (neighborMacEntryRemove_homes env _ _)

theorem neighborCreate_homes {entry} {attr_list} {s} :
    (neighborCreate env entry attr_list s).2.homes = s.homes := by
  unfold neighborCreate
  split
  · rfl
  split
  · rfl
  rename_i nh_info _ _
  have hcreate := neighborNodeCreate_homes env nh_info s
  generalize neighborNodeCreate _ _ s = x at hcreate ⊢
  obtain ⟨status | p, u⟩ := x
  · exact hcreate
  have hinsert := (neighborMacEntryInsert_homes env p u).trans hcreate
  simp only
  split
  · exact (neighborCreateProgram_homes env p _).trans hinsert
  · exact (neighborCreateUndo_homes _ _).trans hinsert

theorem neighborRemove_homes {entry} {s} :
    (neighborRemove env entry s).2.homes = s.homes := by
  unfold neighborRemove
  split
  · rfl
  unfold neighborRemoveNode
  refine homes_andThen (neighborMacEntryRemove_homes env _ _) fun u => ?_
  simp only
  split
  · exact ((checkAndDeleteIpNextHopNode_homes _ _ _).trans
      (homes_of_core (neighborAffectedEncapNhResolve_core env _ _ _))).trans rfl
  · exact neighborMacEntryInsert_homes env _ _

theorem neighborAttributeCommit_homes (n) (resolved : Bool) (s) :
    (neighborAttributeCommit env p n resolved s).homes = s.homes := by
  unfold neighborAttributeCommit
  cases resolved with
  | false => rfl
  | true => exact (neighborMacEntryInsert_homes env p _).trans (neighborMacEntryRemove_homes env p s)

theorem neighborAttributeSet_homes {entry} {attr} {s} :
    (neighborAttributeSet env entry attr s).2.homes = s.homes := by
  unfold neighborAttributeSet
  split
  · rfl
  split
  · rfl
  simp only
  split
  · rfl
  refine homes_andThen rfl fun u => ?_
  exact (neighborAttributeCommit_homes env _ _ _ _).trans
    (homes_of_core (neighborDepEncapNhListUpdate_core env _ _ _ _))

/-! ## Groups -/

theorem nextHopGroupCreate_homes {attr_list} {s} :
    (nextHopGroupCreate env attr_list s).1.2.homes = s.homes := by
  obtain ⟨x, hx⟩ := nextHopGroupCreate_created
  exact homes_eq hx.routes hx.vrfs

theorem nhGroupAddNhLinkNode_homes {i : Nat} {g n} {s t}
    (h : nhGroupAddNhLinkNode env i g n s = some t) : t.homes = s.homes := by
  unfold nhGroupAddNhLinkNode at h
  split at h
  · rw [← Option.some.inj h]
    rfl
  split at h
  · rw [← Option.some.inj h]
    exact (homes_of_core (nhGroupDepEncapNhUpdate_core env g n _)).trans rfl
  · simp at h

theorem nhAddGroupLinkNode_homes {i : Nat} {n g} {s t}
    (h : nhAddGroupLinkNode env i n g s = some t) : t.homes = s.homes := by
  unfold nhAddGroupLinkNode at h
  split at h
  · rw [← Option.some.inj h]
    rfl
  split at h
  · rw [← Option.some.inj h]
    rfl
  · simp at h

theorem nhGroupRemoveOne_homes {n} {s} : (nhGroupRemoveOne env g n s).homes = s.homes := by
  have hfind : ∀ u, (nhGroupFindAndRemoveNhNode env g n u).homes = u.homes := by
    intro u
    unfold nhGroupFindAndRemoveNhNode nhGroupRemoveNhLinkNode
    split
    · simp only
      split
      · exact (homes_of_core (nhGroupDepEncapNhUpdate_core env g n _)).trans rfl
      · rfl
    · rfl
  exact hfind _

variable (rif : Rif) (nh_group_id : Oid) (next_hop_ids : List Oid) (s : Fib)

theorem nhGroupRemoveFromLists_homes : (nhGroupRemoveFromLists env g next_hops s).homes = s.homes := by
  unfold nhGroupRemoveFromLists
  induction next_hops generalizing s with
  | nil => rfl
  | cons n next_hops ih =>
    rw [List.foldl_cons, ih]
    exact nhGroupRemoveOne_homes env g

theorem nhGroupAddFrom_homes (i : Nat) (next_hops) (s) :
    (nhGroupAddFrom env g i next_hops s).2.homes = s.homes := by
  induction next_hops generalizing i s with
  | nil => rfl
  | cons n next_hops ih =>
    unfold nhGroupAddFrom nhGroupAddOne
    cases hlink : nhAddGroupLinkNode env i n g s with
    | none => rfl
    | some t =>
      have ht := nhAddGroupLinkNode_homes env hlink
      simp only
      cases hnode : nhGroupAddNhLinkNode env i g n t with
      | none => exact ht
      | some u => exact (ih (i + 1) _).trans ((nhGroupAddNhLinkNode_homes env hnode).trans ht)

theorem nhGroupRemoveAllNh_homes : (nhGroupRemoveAllNh env g s).homes = s.homes := by
  have hfold : ∀ (l : List Ptr) (u : Fib),
      (l.foldl (nhGroupRemoveAllStep env g) u).homes = u.homes := by
    intro l
    induction l with
    | nil => exact fun _ => rfl
    | cons n l ih =>
      intro u
      rw [List.foldl_cons, ih]
      exact (homes_of_core (nhGroupDepEncapNhUpdate_core env g n _)).trans rfl
  exact hfold _ s

theorem nextHopGroupRemove_homes : (nextHopGroupRemove env nh_group_id s).2.homes = s.homes := by
  unfold nextHopGroupRemove
  split
  · rfl
  split
  · rfl
  split
  · rfl
  refine homes_andThen rfl fun u => ?_
  simp only
  split
  · exact nhGroupRemoveAllNh_homes env _ u
  · rfl

theorem nextHopAddToGroup_homes :
    (nextHopAddToGroup env nh_group_id next_hop_ids s).2.homes = s.homes := by
  unfold nextHopAddToGroup
  split
  · rfl
  split
  · rfl
  split
  · rfl
  split
  · rfl
  split
  · rfl
  rename_i g _ _ _ next_hops _
  unfold nextHopAddNodes nhGroupAddInLists
  have hadd := nhGroupAddFrom_homes env g 0 next_hops s
  refine homes_andThen ?_ fun u => ?_
  · simp only
    split
    · exact (nhGroupRemoveFromLists_homes env g _ _).trans hadd
    · exact hadd
  · simp only
    split
    · rfl
    · exact nhGroupRemoveFromLists_homes env g _ _

theorem nextHopRemoveFromGroup_homes :
    (nextHopRemoveFromGroup env nh_group_id next_hop_ids s).2.homes = s.homes := by
  unfold nextHopRemoveFromGroup
  split
  · rfl
  split
  · rfl
  split
  · rfl
  split
  · rfl
  · exact homes_andThen rfl fun u => nhGroupRemoveFromLists_homes env _ _ u

theorem saiMapInsert_homes (resource) (key) (data) (s) :
    (saiMapInsert env resource key data s).2.homes = s.homes := by
  unfold saiMapInsert
  split <;> rfl

theorem nextHopGroupMemberCreate_homes {attr_list} {s} :
    (nextHopGroupMemberCreate env attr_list s).1.2.homes = s.homes := by
  unfold nextHopGroupMemberCreate
  split
  · rfl
  rename_i gid nids _
  have hadd := nextHopAddToGroup_homes env gid nids s
  simp only
  split
  · exact hadd
  split
  · exact hadd
  refine (homes_andThen ?_ fun u => ?_).trans hadd
  · exact saiMapInsert_homes env _ _ _ _
  · exact saiMapInsert_homes env _ _ _ _

theorem nextHopGroupMemberRemove_homes {member_id} {s} :
    (nextHopGroupMemberRemove env member_id s).2.homes = s.homes := by
  unfold nextHopGroupMemberRemove
  split
  · rfl
  split
  · rfl
  · exact homes_andThen (nextHopRemoveFromGroup_homes env _ _ s) fun _ => rfl

/-! ## Router interfaces -/

variable {env} in

theorem PortWrites.homes {s t} (h : PortWrites env s t) : t.homes = s.homes := by
  induction h with
  | trans _ _ hst htu => exact htu.trans hst
  | _ => rfl

theorem rifRoutingConfigUpdate_homes (is_set : Bool) (s) :
    (rifRoutingConfigUpdate env rif is_set s).2.homes = s.homes :=
  (rifRoutingConfigUpdate_writes env rif _ s).homes

omit env in
theorem vrfRifListUpdate_homes (rif : Rif) (is_add : Bool) (s : Fib) :
    (vrfRifListUpdate rif is_add s).2.homes = s.homes := by
  unfold vrfRifListUpdate
  split
  · rfl
  · exact homes_modVrf (f := fun v => { v with
      num_rif := if is_add then v.num_rif + 1 else v.num_rif - 1 }) (fun _ => rfl) s rif.vrf_id

theorem rifFreeResources_homes (in_npu in_vrf_list routing_cfg : Bool) (s) :
    (rifFreeResources env rif in_npu in_vrf_list routing_cfg s).homes = s.homes := by
  unfold rifFreeResources
  have hnpu : (if in_npu then (s.call env (.rifRemove rif)).2 else s).homes = s.homes := by
    split <;> rfl
  simp only
  generalize (if in_npu then (s.call env (.rifRemove rif)).2 else s) = t at hnpu ⊢
  have hvrf : (if in_vrf_list then (vrfRifListUpdate rif false t).2 else t).homes = s.homes := by
    split
    · exact (vrfRifListUpdate_homes rif _ t).trans hnpu
    · exact hnpu
  generalize (if in_vrf_list then (vrfRifListUpdate rif false t).2 else t) = u at hvrf ⊢
  split
  · exact (rifRoutingConfigUpdate_homes env rif false u).trans hvrf
  · exact hvrf

theorem rifCreateNode_homes : (rifCreateNode env rif s).2.homes = s.homes := by
  have hlist := vrfRifListUpdate_homes rif true s
  unfold rifCreateNode rifTreeInsert
  simp only
  split
  · exact (rifFreeResources_homes env _ _ _ _ _).trans hlist
  split
  next t heq =>
    split at heq
    · rw [← Option.some.inj heq]
      exact hlist
    · simp at heq
  · exact (rifFreeResources_homes env _ _ _ _ _).trans hlist

theorem routerInterfaceCreate_homes {rif_obj_id} {attr_list} {s} :
    (routerInterfaceCreate env rif_obj_id attr_list s).1.2.homes = s.homes := by
  have hobject : (rifCreateObject env rif_obj_id attr_list s).1.2.homes = s.homes := by
    unfold rifCreateObject
    split
    · rfl
    rename_i rif _
    have hcfg := rifRoutingConfigUpdate_homes env rif true s
    simp only
    split
    · exact hcfg
    split
    · exact (rifFreeResources_homes env _ _ _ _ _).trans hcfg
    · exact (rifCreateNode_homes env _ _).trans hcfg
  unfold routerInterfaceCreate
  split
  · rfl
  split
  · rfl
  simp only
  split
  · exact hobject
  · exact (saiMapInsert_homes env _ _ _ _).trans hobject

theorem routerInterfaceRemove_homes : (routerInterfaceRemove env rif_id s).2.homes = s.homes := by
  unfold routerInterfaceRemove
  split
  · rfl
  split
  · rfl
  rename_i rif _
  refine homes_andThen ?_ fun u => ?_
  · unfold rifRemoveNode
    split
    · rfl
    refine homes_andThen rfl fun u => ?_
    exact (rifRoutingConfigUpdate_homes env rif _ _).trans
      (vrfRifListUpdate_homes rif _ u)
  · simp only
    split <;> rfl

theorem routerInterfaceAttributeSet_homes {attr} {s} :
    (routerInterfaceAttributeSet env rif_id attr s).2.homes = s.homes := by
  unfold routerInterfaceAttributeSet
  split
  · rfl
  split
  · rfl
  split
  · rfl
  split
  · rfl
  split
  · rfl
  split
  · rfl
  · exact homes_andThen rfl fun _ => rfl

/-! ## Route calls -/

omit env in
theorem homes_modRoute {f : Route → Route} (s : Fib) (r : Ptr)
    (hf : (f (s.route r)).home = (s.route r).home) : (s.modRoute r f).homes = s.homes := by
  have hsame := SameHomes.modRoute s r hf
  unfold homes
  rw [funext hsame.routes]
  rfl

omit env in
theorem homes_routeNodeFree {s t} (r) (h : t.homes = s.homes) :
    (routeNodeFree r t).homes = (routeNodeFree r s).homes := by
  have hget : ∀ q, ((routeNodeFree r t).routes.get q).map Route.home =
      ((routeNodeFree r s).routes.get q).map Route.home := by
    intro q
    unfold routeNodeFree
    simp only [Heap.get_free]
    split
    · rfl
    · exact congrFun (congrArg Prod.fst h) q
  have hvrfs : t.homes.2 = s.homes.2 := congrArg Prod.snd h
  exact Prod.ext (funext hget) hvrfs

omit env in
theorem homes_allocFree (route) (s) :
    (routeNodeFree s.routes.next (routeNodeAlloc route s)).homes = s.homes := by
  unfold homes
  rw [funext fun q => congrArg (Option.map Route.home) (routes_allocFree _ s q)]
  rfl

omit env in
theorem homes_freeNext (s) : (routeNodeFree s.routes.next s).homes = s.homes := by
  have hget : ∀ q, (routeNodeFree s.routes.next s).routes.get q = s.routes.get q := by
    intro q
    unfold routeNodeFree
    simp only [Heap.get_free]
    split
    next hq => rw [hq, Heap.get_next]
    · rfl
  unfold homes
  rw [funext fun q => congrArg (Option.map Route.home) (hget q)]
  rfl

omit env in
theorem routeNhRefCountIncr_homes (route) (s) :
    (routeNhRefCountIncr route s).homes = s.homes := by
  unfold routeNhRefCountIncr
  split <;> rfl

omit env in
theorem routeNhRefCountDecr_homes (route) {s} :
    (routeNhRefCountDecr route s).homes = s.homes := by
  unfold routeNhRefCountDecr
  split <;> rfl

theorem routeCreateFinish_homes : (routeCreateFinish env r s).homes = s.homes := by
  unfold routeCreateFinish
  exact ((homes_of_core (encapNhDepRouteAdd_core r _)).trans (routeNhRefCountIncr_homes _ _)).trans
    (homes_of_core (routeAffectedEncapNhUpdate_core env r _ s))

theorem routeAttributeCommit_homes {route} {s} (hhome : route.home = (s.route r).home) :
    (routeAttributeCommit env r route s).homes = s.homes := by
  unfold routeAttributeCommit
  simp only
  generalize hu : (if (!routeIsNhInfoMatch (s.route r) route) = true then encapNhDepRouteRemove env r
    (routeNhRefCountDecr (s.route r) s) else s) = u
  have huh : u.homes = s.homes := by
    rw [← hu]
    split
    · exact (homes_of_core (encapNhDepRouteRemove_core env r _)).trans
        (routeNhRefCountDecr_homes _)
    · rfl
  have hw : (routeAttrSetAffectedEncapNhUpdate env r route u).homes = s.homes :=
    (homes_of_core (routeAttrSetAffectedEncapNhUpdate_core env r _ u)).trans huh
  generalize routeAttrSetAffectedEncapNhUpdate _ r _ u = w at hw
  have hset : (w.modRoute r fun _ => route).homes = s.homes :=
    (homes_modRoute (f := fun _ => route) w r
      (hhome.trans ((sameHomes_of_homes hw).home r).symm)).trans hw
  split
  · exact ((homes_of_core (encapNhDepRouteAdd_core r _)).trans
      (routeNhRefCountIncr_homes _ _)).trans hset
  · exact hset

end Calls

/-! ## The invariant -/

/-- The route trees, in virtual routers that know their own id. -/
structure RouteState (s : Fib) : Prop extends RouteTrees s where
  vrf_self : ∀ v vrf, s.vrf v = some vrf → vrf.vrf_id = v
  keyed : ∀ v vrf key r, s.vrf v = some vrf → (key, r) ∈ vrf.sai_route_tree → key ≠ []

section RouteState

variable {s t : Fib}

theorem RouteState.of_homes (h : RouteState s) (heq : t.homes = s.homes) : RouteState t where
  toRouteTrees := h.toRouteTrees.of_same (sameHomes_of_homes heq)
  vrf_self := fun v vrf hv => by
    obtain ⟨vrf', hv', hid⟩ := Option.map_eq_some_iff.mp
      ((vrf_id_of_homes heq).symm.trans (congrArg (Option.map Vrf.vrf_id) hv))
    rw [← hid]
    exact h.vrf_self v _ hv'
  keyed := fun v vrf key r hv hmem => by
    obtain ⟨vrf', hv', htree⟩ := Option.map_eq_some_iff.mp
      (((sameHomes_of_homes heq).vrfs v).symm.trans
        (congrArg (Option.map Vrf.sai_route_tree) hv))
    rw [← htree] at hmem
    exact h.keyed v _ key r hv' hmem

theorem vrf_id_modVrf {f : Vrf → Vrf} (hf : ∀ v, (f v).vrf_id = v.vrf_id) {id}
    (hs : ∀ v vrf, s.vrf v = some vrf → vrf.vrf_id = v) {vrf} (hv : (s.modVrf id f).vrf v = some vrf) :
    vrf.vrf_id = v := by
  rw [vrf_modVrf] at hv
  split at hv
  · obtain ⟨vrf', hv', rfl⟩ := Option.map_eq_some_iff.mp hv
    rw [hf]
    exact hs v vrf' hv'
  · exact hs v vrf hv

theorem RouteState.insert (h : RouteState s) (route) {vrf}
    (hv : s.vrf route.home.1 = some vrf)
    (hfind : Tree.find vrf.sai_route_tree route.home.2 = none) (hkey : route.home.2 ≠ []) :
    RouteState (vrfRouteTreeInsert route.home.1 route.home.2 s.routes.next
      (routeNodeAlloc route s)) where
  toRouteTrees := h.toRouteTrees.insert route hv hfind
  vrf_self := fun _ _ hw => vrf_id_modVrf (s := routeNodeAlloc route s)
    (f := fun v => { v with
      sai_route_tree := Tree.insert v.sai_route_tree route.home.2 s.routes.next })
    (fun _ => rfl) h.vrf_self hw
  keyed := fun v w key r hw hmem => by
    change (if v = route.home.1 then (s.vrf v).map _ else s.vrf v) = some w at hw
    split at hw
    · obtain ⟨w', hw', rfl⟩ := Option.map_eq_some_iff.mp hw
      rcases Tree.mem_insert.mp hmem with hin | hnew
      · exact h.keyed v w' key r hw' hin
      · rw [(Prod.mk.inj hnew).1]
        exact hkey
    · exact h.keyed v w key r hw hmem

theorem RouteState.remove (h : RouteState s) {r}
    (hr : s.RouteLive r) (hhome : (s.route r).home = (v, key)) :
    RouteState (routeNodeFree r (vrfRouteTreeRemove v key s)) where
  toRouteTrees := h.toRouteTrees.remove hr hhome
  vrf_self := fun _ _ hw => vrf_id_modVrf (s := s)
    (f := fun w => { w with sai_route_tree := Tree.erase w.sai_route_tree key })
    (fun _ => rfl) h.vrf_self hw
  keyed := fun u w k q hw hmem => by
    change (if u = v then (s.vrf u).map _ else s.vrf u) = some w at hw
    split at hw
    · obtain ⟨w', hw', rfl⟩ := Option.map_eq_some_iff.mp hw
      exact h.keyed u w' k q hw' (Tree.mem_erase.mp hmem).1
    · exact h.keyed u w k q hw hmem

theorem RouteEntry.key_ne_nil (h : entry.destination.familyValid = true) :
    entry.key ≠ [] := by
  unfold RouteEntry.key routeKey
  cases hip : entry.destination with
  | ip4 a => exact List.cons_ne_nil _ _
  | ip6 a => exact List.cons_ne_nil _ _
  | other f =>
    rw [hip] at h
    simp [IpAddress.familyValid] at h

theorem familyValid_of_validate {attr_count : Nat}
    (h : routeInputParamsValidate entry attr_count = .success) :
    entry.destination.familyValid = true := by
  unfold routeInputParamsValidate at h
  split at h
  · simp at h
  next hvalid => simpa using hvalid

theorem RouteState.routeCreateNew (h : RouteState s) {vrf}
    (hv : s.vrf entry.vr_id = some vrf) (hfind : Tree.find vrf.sai_route_tree entry.key = none)
    (hkey : entry.key ≠ []) :
    RouteState (routeCreateNew env entry attr_list s).2 := by
  unfold OpxSai.routeCreateNew
  split
  · exact h
  simp only
  have hback : RouteState (routeNodeFree s.routes.next
      (routeNodeAlloc (routeNodeInit entry) s)) :=
    h.of_homes (homes_allocFree _ s)
  split
  · exact hback
  rename_i route hparse
  unfold routeNpuCall
  simp only
  by_cases hnpu : env.status (.routeCreate route) = .success
  · have hcall : ((routeNodeAlloc (routeNodeInit entry) s).call env
        (.routeCreate route)).1 = .success := hnpu
    rw [if_pos hcall, hcall]
    simp only
    generalize hroute : route.setHwInfo (env.hw_info (.routeCreate route) route.hw_info) =
      route'
    have hhome : route'.home = (entry.vr_id, entry.key) := by
      rw [← hroute]
      exact (routeAttributesParse_ok hparse).1.home
    -- the write to the new node is the allocation of the parsed route
    have hnode : (((routeNodeAlloc (routeNodeInit entry) s).call env
        (.routeCreate route)).2.modRoute s.routes.next (fun _ => route')).routes =
        (routeNodeAlloc route' s).routes := by
      unfold modRoute call routeNodeAlloc
      simp only
      rw [Heap.modify_alloc_next]
    split
    · have hins := h.insert _ (by rw [hhome]; exact hv) (by rw [hhome]; exact hfind)
        (by rw [hhome]; exact hkey)
      rw [hhome] at hins
      refine hins.of_homes ((routeCreateFinish_homes env _ _).trans (homes_eq ?_ rfl))
      exact hnode
    · refine h.of_homes ((homes_routeNodeFree (s := s) _ ?_).trans (homes_freeNext s))
      exact (homes_routeNodeFree _ (homes_eq hnode rfl)).trans (homes_allocFree route' s)
  · have hcall : ((routeNodeAlloc (routeNodeInit entry) s).call env
        (.routeCreate route)).1 ≠ .success := hnpu
    rw [if_neg hcall]
    split
    next heq => exact absurd (congrArg Prod.fst heq) hcall
    rename_i heq
    obtain ⟨-, -, rfl⟩ := heq
    exact hback.of_homes rfl

theorem RouteState.routeCreateDefault (h : RouteState s) {r} :
    RouteState (routeCreateDefault env attr_list r s).2 := by
  unfold OpxSai.routeCreateDefault
  split
  · exact h
  rename_i route hparse
  have hhome := (routeAttributesParse_ok hparse).1.home
  unfold routeNpuCall
  simp only
  by_cases hnpu : env.status (.routeCreate route) = .success
  · have hcall : (s.call env (.routeCreate route)).1 = .success := hnpu
    rw [if_pos hcall, hcall]
    refine h.of_homes ((routeCreateFinish_homes env r _).trans ?_)
    exact homes_modRoute (f := fun _ => route.setHwInfo
      (env.hw_info (.routeCreate route) route.hw_info)) (s.call env (.routeCreate route)).2 r hhome
  have hcall : (s.call env (.routeCreate route)).1 ≠ .success := hnpu
  rw [if_neg hcall]
  split
  next heq => exact absurd (congrArg Prod.fst heq) hcall
  rename_i heq
  obtain ⟨-, -, rfl⟩ := heq
  exact h.of_homes rfl

theorem RouteState.routeCreate (h : RouteState s) :
    RouteState (routeCreate env entry attr_list s).2 := by
  unfold OpxSai.routeCreate
  simp only
  split
  · exact h
  rename_i hvalid
  split
  · exact h
  rename_i vrf hv
  split
  next hget =>
    unfold routeNodeGet at hget
    rw [hv, Option.bind_some] at hget
    exact h.routeCreateNew hv hget
      (RouteEntry.key_ne_nil (familyValid_of_validate (not_not.mp hvalid)))
  rename_i r hget
  split
  · exact h
  split
  · exact h
  · exact h.routeCreateDefault

theorem RouteState.routeRemove (h : RouteState s) :
    RouteState (routeRemove env entry s).2 := by
  unfold OpxSai.routeRemove
  split
  · exact h
  split
  · exact h
  split
  · exact h
  rename_i r hget
  obtain ⟨hr, hhome⟩ := h.toRouteTrees.nodeGet hget
  unfold routeNpuCall
  simp only
  by_cases hnpu : env.status (.routeRemove (s.route r)) = .success
  · have hcall : (s.call env (.routeRemove (s.route r))).1 = .success := hnpu
    rw [if_pos hcall, hcall]
    simp only
    generalize hu : (s.call env (.routeRemove (s.route r))).2.modRoute r _ = u
    have huh : u.homes = s.homes := by
      rw [← hu]
      exact homes_modRoute (f := fun _ => (s.route r).setHwInfo (env.hw_info
        (.routeRemove (s.route r)) (s.route r).hw_info))
        (s.call env (.routeRemove (s.route r))).2 r rfl
    have hsame := sameHomes_of_homes huh
    have hstate := h.of_homes huh
    -- the encap next hops and the counts are taken care of on either side
    have hleave : ∀ w : Fib, ((routeNhRefCountDecr ((encapNhDepRouteRemove env r
        (routeAffectedEncapNhUpdate env r .remove w)).route r) (encapNhDepRouteRemove env r
        (routeAffectedEncapNhUpdate env r .remove w))).modRoute r
          Route.clearNhType).homes = w.homes := by
      intro w
      exact ((homes_modRoute (f := Route.clearNhType) _ r rfl).trans
        (routeNhRefCountDecr_homes _)).trans
        ((homes_of_core (encapNhDepRouteRemove_core env r _)).trans
        (homes_of_core (routeAffectedEncapNhUpdate_core env r _ w)))
    unfold routeRemoveNode
    simp only
    split
    · exact hstate.of_homes ((hleave _).trans
        (homes_modRoute (f := Route.setPacketAction .drop) u r rfl))
    · exact (hstate.remove ((hsame.live r).mpr hr)
        ((hsame.home r).trans hhome)).of_homes (homes_routeNodeFree r (hleave _))
  · have hcall : (s.call env (.routeRemove (s.route r))).1 ≠ .success := hnpu
    rw [if_neg hcall]
    split
    next heq => exact absurd (congrArg Prod.fst heq) hcall
    rename_i heq
    obtain ⟨-, -, rfl⟩ := heq
    exact h.of_homes rfl

theorem RouteState.routeAttributeSet (h : RouteState s) {attr} :
    RouteState (routeAttributeSet env entry attr s).2 := by
  unfold OpxSai.routeAttributeSet
  simp only
  split
  · exact h
  split
  · exact h
  split
  · exact h
  rename_i r hget
  split
  · exact h
  rename_i route hparse
  have hhome := (routeAttributesParse_ok hparse).1.home
  unfold routeNpuCall
  simp only
  by_cases hnpu : env.status (.routeAttrSet route) = .success
  · have hcall : (s.call env (.routeAttrSet route)).1 = .success := hnpu
    rw [if_pos hcall, hcall]
    exact h.of_homes (routeAttributeCommit_homes env r hhome)
  have hcall : (s.call env (.routeAttrSet route)).1 ≠ .success := hnpu
  rw [if_neg hcall]
  split
  next heq => exact absurd (congrArg Prod.fst heq) hcall
  rename_i heq
  obtain ⟨-, -, rfl⟩ := heq
  exact h.of_homes rfl

end RouteState

/-! ## Internal default routes -/

def Fib.routeNodeAt (s : Fib) (v : Oid) (key : List Bool) : Option Ptr :=
  (s.vrf v).bind fun vrf => Tree.find vrf.sai_route_tree key

def Fib.routeAt (s : Fib) (v : Oid) (key : List Bool) : Option Route :=
  (s.routeNodeAt v key).map s.route

variable {s t : Fib}

def defaultRouteKey (af : IpAddress) : List Bool := routeKey af 0

/-- Whether the node of a default route can be made and put into the tree. -/
def defaultRouteReady (env : Env) (af : IpAddress) : Bool :=
  env.avail (.defaultRouteNode af.family) && env.avail (.defaultRouteTree af.family)

def Vrf.eraseRoute (key : List Bool) (v : Vrf) : Vrf :=
  { v with sai_route_tree := Tree.erase v.sai_route_tree key }

def Vrf.insertRoute (key : List Bool) (r : Ptr) (v : Vrf) : Vrf :=
  { v with sai_route_tree := Tree.insert v.sai_route_tree key r }

section DefaultRoutes

variable {vr_id : Oid} {af : IpAddress} {vrf : Vrf}

theorem routeNodeAt_of_vrf (hv : s.vrf vr_id = some vrf) (key) :
    s.routeNodeAt vr_id key = Tree.find vrf.sai_route_tree key := by
  unfold routeNodeAt
  rw [hv, Option.bind_some]

theorem RouteTrees.routeNodeAt_eq_some (h : RouteTrees s) {r} :
    s.routeNodeAt v key = some r ↔ s.RouteLive r ∧ (s.route r).home = (v, key) := by
  unfold routeNodeAt
  constructor
  · intro hat
    obtain ⟨vrf, hv, hfind⟩ := Option.bind_eq_some_iff.mp hat
    exact h.route_node v vrf key r hv (Tree.mem_of_find hfind)
  · rintro ⟨hr, hhome⟩
    obtain ⟨vrf, hv, hmem⟩ := h.route_entry r hr
    rw [hhome] at hv hmem
    rw [hv, Option.bind_some]
    exact Tree.find_of_mem (h.route_keyed v vrf hv) hmem

/-- What is left when the default route of a family is gone. -/
structure DefaultRouteGone (s t : Fib) (vr_id : Oid) (key : List Bool) : Prop where
  node : ∀ v k, t.routeNodeAt v k = if v = vr_id ∧ k = key then none else s.routeNodeAt v k
  live : ∀ q, t.RouteLive q ↔ s.RouteLive q ∧ s.routeNodeAt vr_id key ≠ some q
  route : ∀ q, s.routeNodeAt vr_id key ≠ some q → t.route q = s.route q
  next : t.routes.next = s.routes.next
  vrf : t.vrf vr_id = (s.vrf vr_id).map (Vrf.eraseRoute key)
  nhs : t.nhs = s.nhs
  groups : t.groups = s.groups

variable (af) in

theorem internalDefaultRouteNodeDel_gone (h : RouteState s) (hv : s.vrf vr_id = some vrf) :
    RouteState (internalDefaultRouteNodeDel vr_id af s).2 ∧
      DefaultRouteGone s (internalDefaultRouteNodeDel vr_id af s).2 vr_id (defaultRouteKey af) := by
  have hget : routeNodeGet (defaultRouteEntry vr_id af) s =
      s.routeNodeAt vr_id (defaultRouteKey af) := rfl
  unfold internalDefaultRouteNodeDel
  rw [hget]
  cases hat : s.routeNodeAt vr_id (defaultRouteKey af) with
  | none =>
    dsimp only
    refine ⟨h, fun v k => ?_, fun q => by simp [hat], fun _ _ => rfl, rfl, ?_, rfl, rfl⟩
    · split
      next hkey => rw [hkey.1, hkey.2, hat]
      · rfl
    · rw [routeNodeAt_of_vrf hv, Tree.find_eq_none] at hat
      have hkeep : Tree.erase vrf.sai_route_tree (defaultRouteKey af) = vrf.sai_route_tree := by
        refine List.filter_eq_self.mpr fun e he => ?_
        have hne : e.1 ≠ defaultRouteKey af := fun hk => hat e.2 (hk ▸ he)
        simpa using hne
      rw [hv, Option.map_some]
      unfold Vrf.eraseRoute
      rw [hkeep]
  | some r =>
    obtain ⟨hr, hhome⟩ := h.toRouteTrees.routeNodeAt_eq_some.mp hat
    dsimp only
    refine ⟨h.remove hr hhome, fun v k => ?_, fun q => ?_, fun q hq => ?_, rfl, ?_, rfl, rfl⟩
    · show ((if v = vr_id then (s.vrf v).map (Vrf.eraseRoute (defaultRouteKey af)) else
        s.vrf v).bind fun w => Tree.find w.sai_route_tree k) = _
      by_cases hvid : v = vr_id
      · rw [if_pos hvid, hvid, hv, Option.map_some, Option.bind_some]
        show Tree.find (Tree.erase vrf.sai_route_tree (defaultRouteKey af)) k = _
        rw [Tree.find_erase, routeNodeAt_of_vrf hv]
        simp
      · rw [if_neg hvid, if_neg fun hkey => hvid hkey.1]
        rfl
    · rw [hat]
      refine (routeLive_routeNodeFree _).trans ⟨fun hq => ⟨hq.2, fun heq => hq.1 ?_⟩,
        fun hq => ⟨fun heq => hq.2 (congrArg some heq.symm), hq.1⟩⟩
      exact (Option.some.inj heq).symm
    · rw [hat] at hq
      exact route_routeNodeFree_of_ne (fun heq => hq (congrArg some heq.symm)) _
    · exact (vrf_modVrf s _ _ _).trans (if_pos rfl)

/-- What there is when the default route of a family has been added. -/
structure DefaultRouteMade (s t : Fib) (vr_id : Oid) (key : List Bool)
    (made : Option Route) : Prop where
  route : ∀ v k, t.routeAt v k = if v = vr_id ∧ k = key then made else s.routeAt v k
  live : ∀ q, q < s.routes.next → (t.RouteLive q ↔ s.RouteLive q)
  next : s.routes.next ≤ t.routes.next
  vrf : (t.vrf vr_id).isSome
  nhs : t.nhs = s.nhs
  groups : t.groups = s.groups

theorem defaultRouteInsert_made (h : RouteState s) (hv : s.vrf vr_id = some vrf)
    (haf : defaultRouteKey af ≠ []) (hnone : s.routeNodeAt vr_id (defaultRouteKey af) = none) :
    RouteState (vrfRouteTreeInsert vr_id (defaultRouteKey af) s.routes.next
        (routeNodeAlloc (internalDefaultRoute vr_id af) s)) ∧
      DefaultRouteMade s (vrfRouteTreeInsert vr_id (defaultRouteKey af) s.routes.next
        (routeNodeAlloc (internalDefaultRoute vr_id af) s)) vr_id (defaultRouteKey af)
        (some (internalDefaultRoute vr_id af)) := by
  have hfind : Tree.find vrf.sai_route_tree (defaultRouteKey af) = none := by
    rw [routeNodeAt_of_vrf hv] at hnone
    exact hnone
  -- an entry that was there leads to a node that was there
  have hold : ∀ v k, (s.routeNodeAt v k).map
      (routeNodeAlloc (internalDefaultRoute vr_id af) s).route = s.routeAt v k := by
    intro v k
    unfold routeAt
    cases hat : s.routeNodeAt v k with
    | none => rfl
    | some q =>
      have hlive := (h.toRouteTrees.routeNodeAt_eq_some.mp hat).1
      have hne : q ≠ s.routes.next := by
        rintro rfl
        exact not_routeLive_next hlive
      rw [Option.map_some, Option.map_some, route_routeNodeAlloc, if_neg hne]
  have hins := h.insert (internalDefaultRoute vr_id af) hv hfind haf
  refine ⟨hins, fun v k => ?_, fun q hq => ?_, Nat.le_succ _, ?_, rfl, rfl⟩
  · show ((if v = vr_id then (s.vrf v).map (Vrf.insertRoute (defaultRouteKey af) s.routes.next)
      else s.vrf v).bind fun w => Tree.find w.sai_route_tree k).map
      (routeNodeAlloc (internalDefaultRoute vr_id af) s).route = _
    by_cases hvid : v = vr_id
    · rw [if_pos hvid, hvid, hv, Option.map_some, Option.bind_some]
      show (Tree.find (Tree.insert vrf.sai_route_tree (defaultRouteKey af) s.routes.next)
        k).map _ = _
      rw [Tree.find_insert hfind]
      by_cases hk : k = defaultRouteKey af
      · rw [if_pos hk, if_pos ⟨rfl, hk⟩, Option.map_some, route_routeNodeAlloc, if_pos rfl]
      · rw [if_neg hk, if_neg fun hkey => hk hkey.2, ← hold, routeNodeAt_of_vrf hv]
    · rw [if_neg hvid, if_neg fun hkey => hvid hkey.1]
      exact hold v k
  · exact (routeLive_routeNodeAlloc q).trans
      ⟨fun hor => hor.resolve_left (Nat.ne_of_lt hq), .inr⟩
  · show (if vr_id = vr_id then (s.vrf vr_id).map _ else s.vrf vr_id).isSome = true
    rw [if_pos rfl, hv]
    rfl

variable (af) in

theorem internalDefaultRouteNodeAdd_made (h : RouteState s)
    (hv : s.vrf vr_id = some vrf) (haf : defaultRouteKey af ≠ [])
    (hnone : s.routeNodeAt vr_id (defaultRouteKey af) = none) :
    RouteState (internalDefaultRouteNodeAdd env vr_id af s).2 ∧
      DefaultRouteMade s (internalDefaultRouteNodeAdd env vr_id af s).2 vr_id (defaultRouteKey af)
        (if defaultRouteReady env af then some (internalDefaultRoute vr_id af) else none) := by
  have hget : routeNodeGet (defaultRouteEntry vr_id af)
      (routeNodeAlloc (internalDefaultRoute vr_id af) s) = none := hnone
  have hkept : ∀ v k, s.routeAt v k =
      if v = vr_id ∧ k = defaultRouteKey af then none else s.routeAt v k := by
    intro v k
    split
    next hkey =>
      unfold routeAt
      rw [hkey.1, hkey.2, hnone]
      rfl
    · rfl
  unfold internalDefaultRouteNodeAdd defaultRouteReady
  simp only
  cases hnode : env.avail (.defaultRouteNode af.family) with
  | false => exact ⟨h, hkept, fun _ _ => Iff.rfl, Nat.le_refl _, Option.isSome_of_mem hv, rfl, rfl⟩
  | true =>
    cases htree : env.avail (.defaultRouteTree af.family) with
    | false =>
      have hroute : (routeNodeFree s.routes.next (routeNodeAlloc (internalDefaultRoute vr_id af)
          s)).route = s.route := by
        funext q
        unfold Fib.route
        rw [routes_allocFree]
      refine ⟨h.of_homes (homes_allocFree _ s), fun v k => ?_, fun q _ => ?_, Nat.le_succ _, ?_,
        rfl, rfl⟩
      · refine Eq.trans ?_ (hkept v k)
        exact congrArg (fun f => Option.map f (s.routeNodeAt v k)) hroute
      · show ((routeNodeFree s.routes.next (routeNodeAlloc (internalDefaultRoute vr_id af)
          s)).routes.get q).isSome ↔ _
        rw [routes_allocFree]
        rfl
      · show (s.vrf vr_id).isSome = true
        rw [hv]
        rfl
    | true =>
      rw [hget]
      exact defaultRouteInsert_made h hv haf hnone

end DefaultRoutes

/-! ## Virtual router calls -/

section VirtualRouters

variable {vr_id : Oid} {vrf : Vrf}

theorem defaultRouteKey_ne : defaultRouteKey .zero4 ≠ defaultRouteKey .zero6 := by decide

structure DefaultRoutesGone (s t : Fib) (vr_id : Oid) (vrf : Vrf) : Prop where
  node : ∀ v k, t.routeNodeAt v k =
    if v = vr_id ∧ (k = defaultRouteKey .zero4 ∨ k = defaultRouteKey .zero6) then none
    else s.routeNodeAt v k
  live : ∀ q, t.RouteLive q ↔ s.RouteLive q ∧
    s.routeNodeAt vr_id (defaultRouteKey .zero4) ≠ some q ∧
    s.routeNodeAt vr_id (defaultRouteKey .zero6) ≠ some q
  route : ∀ v k, t.routeAt v k =
    if v = vr_id ∧ (k = defaultRouteKey .zero4 ∨ k = defaultRouteKey .zero6) then none
    else s.routeAt v k
  next : t.routes.next = s.routes.next
  vrf : t.vrf vr_id =
    some ((vrf.eraseRoute (defaultRouteKey .zero4)).eraseRoute (defaultRouteKey .zero6))
  nhs : t.nhs = s.nhs
  groups : t.groups = s.groups

theorem DefaultRouteGone.routeAt (h : RouteTrees s)
    (hgone : DefaultRouteGone s t vr_id key) (v) (k) :
    t.routeAt v k = if v = vr_id ∧ k = key then none else s.routeAt v k := by
  unfold Fib.routeAt
  rw [hgone.node]
  split
  · rfl
  rename_i hkey
  cases hat : s.routeNodeAt v k with
  | none => rfl
  | some q =>
    have hne : s.routeNodeAt vr_id key ≠ some q := by
      intro hq
      have hhome := (h.routeNodeAt_eq_some.mp hat).2.symm.trans (h.routeNodeAt_eq_some.mp hq).2
      exact hkey (Prod.mk.inj hhome)
    rw [Option.map_some, Option.map_some, hgone.route q hne]

theorem vrfDefaultRouteDel_gone (h : RouteState s) (hv : s.vrf vr_id = some vrf) :
    RouteState (vrfDefaultRouteDel vr_id s) ∧
      DefaultRoutesGone s (vrfDefaultRouteDel vr_id s) vr_id vrf := by
  obtain ⟨hstate4, hgone4⟩ := internalDefaultRouteNodeDel_gone _ h hv
  have hv4 : (internalDefaultRouteNodeDel vr_id .zero4 s).2.vrf vr_id =
      some (vrf.eraseRoute (defaultRouteKey .zero4)) := by
    rw [hgone4.vrf, hv, Option.map_some]
  obtain ⟨hstate6, hgone6⟩ := internalDefaultRouteNodeDel_gone _ hstate4 hv4
  have hnode6 : (internalDefaultRouteNodeDel vr_id .zero4 s).2.routeNodeAt vr_id
      (defaultRouteKey .zero6) = s.routeNodeAt vr_id (defaultRouteKey .zero6) := by
    rw [hgone4.node, if_neg fun hkey => defaultRouteKey_ne hkey.2.symm]
  refine ⟨hstate6, fun v k => ?_, fun q => ?_, fun v k => ?_, hgone6.next.trans hgone4.next, ?_,
    hgone6.nhs.trans hgone4.nhs, hgone6.groups.trans hgone4.groups⟩
  · refine (hgone6.node v k).trans ?_
    rw [hgone4.node]
    split_ifs <;> tauto
  · refine (hgone6.live q).trans ?_
    rw [hgone4.live, hnode6]
    tauto
  · refine (hgone6.routeAt hstate4.toRouteTrees v k).trans ?_
    rw [hgone4.routeAt h.toRouteTrees]
    split_ifs <;> tauto
  · refine hgone6.vrf.trans ?_
    rw [hv4, Option.map_some]

/-- Both default routes have been added, as far as there was room. -/
structure DefaultRoutesMade (env : Env) (s t : Fib) (vr_id : Oid) : Prop where
  route4 : t.routeAt vr_id (defaultRouteKey .zero4) =
    if defaultRouteReady env .zero4 then some (internalDefaultRoute vr_id .zero4) else none
  route6 : t.routeAt vr_id (defaultRouteKey .zero6) =
    if defaultRouteReady env .zero6 then some (internalDefaultRoute vr_id .zero6) else none
  route : ∀ v k, ¬ (v = vr_id ∧ (k = defaultRouteKey .zero4 ∨ k = defaultRouteKey .zero6)) →
    t.routeAt v k = s.routeAt v k
  live : ∀ q, q < s.routes.next → (t.RouteLive q ↔ s.RouteLive q)
  nhs : t.nhs = s.nhs
  groups : t.groups = s.groups

theorem vrfDefaultRouteAdd_made (h : RouteState s) (env) (hv : s.vrf vr_id = some vrf)
    (hnone4 : s.routeNodeAt vr_id (defaultRouteKey .zero4) = none)
    (hnone6 : s.routeNodeAt vr_id (defaultRouteKey .zero6) = none) :
    RouteState (vrfDefaultRouteAdd env vr_id s) ∧
      DefaultRoutesMade env s (vrfDefaultRouteAdd env vr_id s) vr_id := by
  obtain ⟨hstate4, hmade4⟩ := internalDefaultRouteNodeAdd_made _ h hv (by decide)
    hnone4
  obtain ⟨vrf4, hv4⟩ := Option.isSome_iff_exists.mp hmade4.vrf
  have hnone6' : (internalDefaultRouteNodeAdd env vr_id .zero4 s).2.routeNodeAt vr_id
      (defaultRouteKey .zero6) = none := by
    have hroute := hmade4.route vr_id (defaultRouteKey .zero6)
    rw [if_neg fun hkey => defaultRouteKey_ne hkey.2.symm] at hroute
    unfold Fib.routeAt at hroute
    rw [hnone6, Option.map_none] at hroute
    exact Option.map_eq_none_iff.mp hroute
  obtain ⟨hstate6, hmade6⟩ := internalDefaultRouteNodeAdd_made _ hstate4 hv4
    (by decide) hnone6'
  refine ⟨hstate6, ?_, ?_, fun v k hkey => ?_, fun q hq => ?_, hmade6.nhs.trans hmade4.nhs,
    hmade6.groups.trans hmade4.groups⟩
  · refine (hmade6.route _ _).trans ?_
    rw [if_neg fun hkey => defaultRouteKey_ne hkey.2, hmade4.route, if_pos ⟨rfl, rfl⟩]
  · refine (hmade6.route _ _).trans ?_
    rw [if_pos ⟨rfl, rfl⟩]
  · refine (hmade6.route _ _).trans ?_
    rw [if_neg fun hk => hkey ⟨hk.1, .inr hk.2⟩, hmade4.route,
      if_neg fun hk => hkey ⟨hk.1, .inl hk.2⟩]
  · exact (hmade6.live q (Nat.lt_of_lt_of_le hq hmade4.next)).trans (hmade4.live q hq)

theorem routeTree_eq_nil (h : RouteState s) (hv : s.vrf vr_id = some vrf)
    (hempty : vrfIsRouteTreeEmpty vrf = true) : vrf.sai_route_tree = [] := by
  unfold vrfIsRouteTreeEmpty at hempty
  simp only [Bool.and_eq_true, Option.isNone_iff_eq_none] at hempty
  obtain ⟨hfind, hnext⟩ := hempty
  rw [Tree.getNext_eq_none] at hnext
  refine List.eq_nil_iff_forall_not_mem.mpr fun e he => ?_
  have hne : e.1 ≠ routeKey (.ip4 0) 0 := fun hk => Tree.find_eq_none.mp hfind e.2 (hk ▸ he)
  refine hnext e he ?_
  -- every other key starts with the family mark, or is longer
  have hzero : routeKey (.ip4 0) 0 = [false] := by decide
  rw [hzero] at hne ⊢
  have hkey := h.keyed _ vrf e.1 e.2 hv he
  cases hcase : e.1 with
  | nil => exact absurd hcase hkey
  | cons b bits =>
    rw [hcase] at hne
    cases b with
    | true => simp [routeKeyRank, List.cons_lt_cons_iff]
    | false =>
      cases bits with
      | nil => exact absurd rfl hne
      | cons c bits => simp [routeKeyRank]

theorem vrfAttributesParse_tree {attr_list} {vrf}
    (h : vrfAttributesParse env attr_list (vrfAttributesInit env) = .ok vrf) :
    vrf.sai_route_tree = [] := by
  unfold vrfAttributesParse at h
  split at h
  · simp at h
  rename_i parsed hparse
  have hkept := attrListParse_keeps (P := fun v : Vrf => v.sai_route_tree = [])
    (fun v attr v' hv hset => by
      unfold vrfAttrSet at hset
      split at hset
      · simp at hset
      rename_i filled hfill
      split at hset
      · simp at hset
      cases hset
      unfold vrfAttrFill at hfill
      split at hfill
      all_goals first
        | (split at hfill
           · simp at hfill
           · cases hfill
             exact hv)
        | (cases hfill
           exact hv)
        | simp at hfill) rfl hparse
  split at h
  · simp at h
  · cases h
    exact hkept

theorem vrf_vrfTreeSet (vr_id v) (vrf) (s) :
    (vrfTreeSet vr_id vrf s).vrf v = if v = vr_id then vrf else s.vrf v := rfl

theorem RouteState.vrfTreeInsert (h : RouteState s) (hid : vrf.vrf_id = vr_id)
    (htree : vrf.sai_route_tree = []) (hnone : s.vrf vr_id = none) :
    RouteState (vrfTreeSet vr_id (some vrf) s) := by
  have hold : ∀ v w, (vrfTreeSet vr_id (some vrf) s).vrf v = some w →
      (v = vr_id ∧ w = vrf) ∨ s.vrf v = some w := by
    intro v w hw
    rw [vrf_vrfTreeSet] at hw
    split at hw
    next hvid => exact .inl ⟨hvid, (Option.some.inj hw).symm⟩
    · exact .inr hw
  refine ⟨⟨fun v w hw => ?_, fun v w key r hw hmem => ?_, fun r hr => ?_⟩, fun v w hw => ?_,
    fun v w key r hw hmem => ?_⟩
  · rcases hold v w hw with ⟨-, rfl⟩ | hs
    · rw [htree]
      exact List.nodup_nil
    · exact h.route_keyed v w hs
  · rcases hold v w hw with ⟨-, rfl⟩ | hs
    · rw [htree] at hmem
      simp at hmem
    · exact h.route_node v w key r hs hmem
  · obtain ⟨w, hw, hmem⟩ := h.route_entry r hr
    refine ⟨w, ?_, hmem⟩
    rw [vrf_vrfTreeSet, if_neg ?_]
    · exact hw
    intro hvid
    rw [show (s.route r).home.1 = vr_id from hvid, hnone] at hw
    simp at hw
  · rcases hold v w hw with ⟨rfl, rfl⟩ | hs
    · exact hid
    · exact h.vrf_self v w hs
  · rcases hold v w hw with ⟨-, rfl⟩ | hs
    · rw [htree] at hmem
      simp at hmem
    · exact h.keyed v w key r hs hmem

theorem RouteState.vrfTreeRemove (h : RouteState s) (hv : s.vrf vr_id = some vrf)
    (htree : vrf.sai_route_tree = []) : RouteState (vrfTreeSet vr_id none s) := by
  have hold : ∀ v w, (vrfTreeSet vr_id none s).vrf v = some w → s.vrf v = some w := by
    intro v w hw
    rw [vrf_vrfTreeSet] at hw
    split at hw
    · simp at hw
    · exact hw
  refine ⟨⟨fun v w hw => h.route_keyed v w (hold v w hw),
    fun v w key r hw hmem => h.route_node v w key r (hold v w hw) hmem, fun r hr => ?_⟩,
    fun v w hw => h.vrf_self v w (hold v w hw),
    fun v w key r hw hmem => h.keyed v w key r (hold v w hw) hmem⟩
  obtain ⟨w, hw, hmem⟩ := h.route_entry r hr
  refine ⟨w, ?_, hmem⟩
  rw [vrf_vrfTreeSet, if_neg ?_]
  · exact hw
  intro hvid
  rw [show (s.route r).home.1 = vr_id from hvid, hv] at hw
  rw [← Option.some.inj hw, htree] at hmem
  simp at hmem

theorem RouteState.virtualRouterCreate (h : RouteState s) {attr_list} :
    RouteState (virtualRouterCreate env attr_list s).1.2 := by
  unfold OpxSai.virtualRouterCreate
  split
  · exact h
  split
  · exact h
  split
  · exact h
  rename_i vrf hparse
  simp only
  split
  · exact h.of_homes rfl
  unfold virtualRouterCreateNode
  split
  · exact h.of_homes rfl
  split
  · exact h.of_homes rfl
  rename_i hnone
  have hnone' : s.vrf (uoidCreate .virtualRouter env.hw_id) = none := by
    simp only [Bool.or_eq_true, not_or] at hnone
    exact Option.not_isSome_iff_eq_none.mp hnone.1
  have hparsed : vrf.sai_route_tree = [] := vrfAttributesParse_tree hparse
  have htree : ({ vrf with vrf_id := uoidCreate .virtualRouter env.hw_id } :
      Vrf).sai_route_tree = [] := hparsed
  have hset := (h.of_homes (t := (s.call env (.vrCreate vrf)).2) rfl).vrfTreeInsert
    rfl htree hnone'
  have hnode : ∀ k, (vrfTreeSet (uoidCreate .virtualRouter env.hw_id)
      (some { vrf with vrf_id := uoidCreate .virtualRouter env.hw_id })
      (s.call env (.vrCreate vrf)).2).routeNodeAt
      (uoidCreate .virtualRouter env.hw_id) k = none := by
    intro k
    have hfind : Tree.find vrf.sai_route_tree k = none := by
      rw [hparsed]
      rfl
    refine (congrArg (fun w : Option Vrf => w.bind fun w =>
      Tree.find w.sai_route_tree k) ((vrf_vrfTreeSet _ _ _ _).trans
        (if_pos rfl))).trans hfind
  exact (vrfDefaultRouteAdd_made hset env (if_pos rfl) (hnode _) (hnode _)).1

/-- What the checks of the removal look at: router interfaces, next hops and routes. -/
def VrInUse (vrf : Vrf) : Prop :=
  vrf.num_rif ≠ 0 ∨ vrfIsNhTreeEmpty vrf = false ∨ vrfIsRouteTreeEmpty vrf = false

instance (vrf : Vrf) : Decidable (VrInUse vrf) := inferInstanceAs (Decidable (_ ∨ _ ∨ _))

theorem virtualRouterRemoveNode_inUse (huse : VrInUse vrf) (s) :
    virtualRouterRemoveNode env vrf s = (.objectInUse, s) := by
  unfold virtualRouterRemoveNode
  by_cases hrif : vrf.num_rif ≠ 0
  · rw [if_pos hrif]
  rw [if_neg hrif]
  by_cases hnh : vrfIsNhTreeEmpty vrf = false
  · rw [if_pos (by rw [hnh]; rfl)]
  rw [if_neg (by simpa using hnh), if_pos]
  rw [(huse.resolve_left hrif).resolve_left hnh]
  rfl

theorem virtualRouterRemoveNode_free (huse : ¬ VrInUse vrf) (s) :
    virtualRouterRemoveNode env vrf s = andThen (s.call env (.vrRemove vrf)) fun s =>
      (.success, vrfTreeSet vrf.vrf_id none s) := by
  unfold VrInUse at huse
  simp only [not_or, Bool.not_eq_false] at huse
  obtain ⟨hrif, hnh, hroute⟩ := huse
  unfold virtualRouterRemoveNode
  rw [if_neg hrif, if_neg (by rw [hnh]; simp), if_neg (by rw [hroute]; simp)]

/-- The record of a virtual router as the checks see it: without the default routes. -/
def Vrf.withoutDefaults (vrf : Vrf) : Vrf :=
  (vrf.eraseRoute (defaultRouteKey .zero4)).eraseRoute (defaultRouteKey .zero6)

theorem virtualRouterRemove_cases (h : RouteState s) (env)
    (htype : vr_id.type = .virtualRouter) (hv : s.vrf vr_id = some vrf) :
    ∃ t, RouteState t ∧ DefaultRoutesGone s t vr_id vrf ∧
      virtualRouterRemove env vr_id s =
        if VrInUse vrf.withoutDefaults then (.objectInUse, vrfDefaultRouteAdd env vr_id t)
        else if env.status (.vrRemove vrf.withoutDefaults) = .success then
          (.success, vrfTreeSet vr_id none t)
        else if env.status (.vrRemove vrf.withoutDefaults) = .invalidObjectId then
          (.invalidObjectId, t)
        else (env.status (.vrRemove vrf.withoutDefaults), vrfDefaultRouteAdd env vr_id t) := by
  obtain ⟨hstate, hgone⟩ := vrfDefaultRouteDel_gone h hv
  have hvt : (vrfDefaultRouteDel vr_id s).vrf vr_id = some vrf.withoutDefaults := hgone.vrf
  have hself := hstate.vrf_self _ _ hvt
  unfold OpxSai.virtualRouterRemove
  rw [if_ok htype, hv]
  simp only
  rw [hvt, Option.getD_some]
  by_cases huse : VrInUse vrf.withoutDefaults
  · refine ⟨_, hstate, hgone, ?_⟩
    rw [virtualRouterRemoveNode_inUse huse, if_pos huse]
    rfl
  -- the call into the NPU touches nothing but the log
  refine ⟨((vrfDefaultRouteDel vr_id s).call env (.vrRemove vrf.withoutDefaults)).2,
    hstate.of_homes rfl, ⟨hgone.node, hgone.live, hgone.route, hgone.next, hgone.vrf, hgone.nhs,
      hgone.groups⟩, ?_⟩
  rw [virtualRouterRemoveNode_free huse, if_neg huse]
  by_cases hnpu : env.status (.vrRemove vrf.withoutDefaults) = .success
  · have hcall : ((vrfDefaultRouteDel vr_id s).call env (.vrRemove vrf.withoutDefaults)).1 =
        .success := hnpu
    rw [andThen_of_success hcall, if_pos hnpu, hself]
    rfl
  have hcall : ((vrfDefaultRouteDel vr_id s).call env (.vrRemove vrf.withoutDefaults)).1 ≠
      .success := hnpu
  rw [andThen_of_failure hcall, if_neg hnpu]
  by_cases hid : env.status (.vrRemove vrf.withoutDefaults) = .invalidObjectId
  · have hcallId : ((vrfDefaultRouteDel vr_id s).call env (.vrRemove vrf.withoutDefaults)).1 =
        .invalidObjectId := hid
    rw [if_pos (.inr hcallId), if_pos hid]
    exact Prod.ext hid rfl
  have hcallId : ((vrfDefaultRouteDel vr_id s).call env (.vrRemove vrf.withoutDefaults)).1 ≠
      .invalidObjectId := hid
  rw [if_neg (not_or.mpr ⟨hcall, hcallId⟩), if_neg hid]
  rfl

theorem RouteState.virtualRouterRemove (h : RouteState s) {vr_id} :
    RouteState (virtualRouterRemove env vr_id s).2 := by
  by_cases htype : vr_id.type = .virtualRouter
  · cases hv : s.vrf vr_id with
    | none =>
      unfold OpxSai.virtualRouterRemove
      rw [if_ok htype, hv]
      exact h
    | some vrf =>
      obtain ⟨t, hstate, hgone, heq⟩ := virtualRouterRemove_cases h env htype hv
      have hadd := (vrfDefaultRouteAdd_made hstate env hgone.vrf
        ((hgone.node _ _).trans (if_pos ⟨rfl, .inl rfl⟩))
        ((hgone.node _ _).trans (if_pos ⟨rfl, .inr rfl⟩))).1
      rw [heq]
      split
      · exact hadd
      rename_i huse
      have hempty : vrfIsRouteTreeEmpty vrf.withoutDefaults = true := by
        unfold VrInUse at huse
        simp only [not_or, Bool.not_eq_false] at huse
        exact huse.2.2
      split
      · exact hstate.vrfTreeRemove hgone.vrf (routeTree_eq_nil hstate hgone.vrf hempty)
      split
      · exact hstate
      · exact hadd
  · unfold OpxSai.virtualRouterRemove
    rw [if_pos htype]
    exact h

end VirtualRouters

theorem RouteState.step (h : RouteState s) {c} : RouteState (fibStep c s) := by
  obtain ⟨env, op⟩ := c
  cases op with
  | virtualRouterCreate attr_list => exact h.virtualRouterCreate
  | virtualRouterRemove vr_id => exact h.virtualRouterRemove
  | routerInterfaceCreate rif_obj_id attr_list => exact h.of_homes (routerInterfaceCreate_homes env)
  | routerInterfaceRemove rif_id => exact h.of_homes (routerInterfaceRemove_homes env _ s)
  | routerInterfaceAttributeSet rif_id attr =>
    exact h.of_homes (routerInterfaceAttributeSet_homes env _)
  | nextHopCreate attr_list => exact h.of_homes (nextHopCreate_homes env)
  | nextHopRemove id => exact h.of_homes (nextHopRemove_homes env)
  | nextHopGroupCreate attr_list => exact h.of_homes (nextHopGroupCreate_homes env)
  | nextHopGroupRemove id => exact h.of_homes (nextHopGroupRemove_homes env id s)
  | nextHopGroupMemberCreate attr_list => exact h.of_homes (nextHopGroupMemberCreate_homes env)
  | nextHopGroupMemberRemove id => exact h.of_homes (nextHopGroupMemberRemove_homes env)
  | neighborCreate entry attr_list => exact h.of_homes (neighborCreate_homes env)
  | neighborRemove entry => exact h.of_homes (neighborRemove_homes env)
  | neighborAttributeSet entry attr => exact h.of_homes (neighborAttributeSet_homes env)
  | routeCreate entry attr_list => exact h.routeCreate
  | routeRemove entry => exact h.routeRemove
  | routeAttributeSet entry attr => exact h.routeAttributeSet

structure NoRoutes (s : Fib) : Prop where
  vrfs : ∀ v, s.vrf v = none
  routes : ∀ r, ¬ s.RouteLive r

theorem NoRoutes.routeState (h : NoRoutes s) : RouteState s where
  route_keyed := fun v vrf hv => by simp [h.vrfs v] at hv
  route_node := fun v vrf key r hv => by simp [h.vrfs v] at hv
  route_entry := fun r hr => absurd hr (h.routes r)
  vrf_self := fun v vrf hv => by simp [h.vrfs v] at hv
  keyed := fun v vrf key r hv => by simp [h.vrfs v] at hv

/-- **Any run** from a state without routes keeps nodes and trees together. -/
theorem routeState_of_run (hs : NoRoutes s) (hrun : FibRun (fun _ _ => True) s t) :
    RouteState t :=
  hrun.induct (P := RouteState) (fun c _ h _ => h.step) hs.routeState

end OpxSai
