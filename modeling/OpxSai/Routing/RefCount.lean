import OpxSai.Routing.RefState

/-!
# Routing — reference counts

A route call moves one route from one next hop object to another; `RefState.reroute` says what
that takes. Over whole runs the counts are the numbers of references (`refCounts_of_run`), but
for one call: a default route that is created in place on an internal node which already has a
next hop object. The new object is counted, and the old one is not let go.
-/

namespace OpxSai

open Fib

variable {route : Route} {s : Fib} {route' : Route} {g q : Ptr} {f : Route → Route}
variable {entry : RouteEntry} {attr_list : List RouteAttr} {env : Env}

/-! ## Route calls -/

section Routes

variable {t : Fib} {r : Ptr}

/-- **Rerouting.** One route leaves the object `d` and joins the object `d'`; either may be none. -/
theorem RefState.reroute (h : RefState s) (d d') (hsame : SameBonds s t)
    (hr : RouteTrees t)
    (hsum : ∀ obj, obj ≠ .none → routeRefs t obj + (if d = obj then 1 else 0) =
      routeRefs s obj + if d' = obj then 1 else 0)
    (hnh : ∀ n, (t.nh n).ref_count + (if d = .nextHop n then 1 else 0) =
      (s.nh n).ref_count + if d' = .nextHop n then 1 else 0)
    (hgroup : ∀ g, (t.group g).ref_count + (if d = .nextHopGroup g then 1 else 0) =
      (s.group g).ref_count + if d' = .nextHopGroup g then 1 else 0)
    (hused : ∀ n, d' = .nextHop n → (s.nh n).owner_flag.next_hop = true) : RefState t := by
  refine RefState.build h.toNodeState hsame.toSameOwners (hsame.linksOk h.toLinksOk) hr
    (fun n hn => ?_) (fun n => ?_) fun g => ?_
  · rw [hsame.owner_flag]
    by_cases hd : d' = .nextHop n
    · exact hused n hd
    have hcount := hnh n
    rw [if_neg hd] at hcount
    exact h.used n (by omega)
  · have hcount := hnh n
    have hrefs := h.nh_refs n
    have hroutes := hsum (.nextHop n) (by simp)
    rw [hsame.memberRefs]
    omega
  · have hcount := hgroup g
    have hrefs := h.group_refs g
    have hroutes := hsum (.nextHopGroup g) (by simp)
    rw [hsame.nh_count]
    omega

theorem sameBonds_routeNhRefCountIncr (route) (s) :
    SameBonds s (routeNhRefCountIncr route s) := by
  unfold routeNhRefCountIncr
  split
  · exact SameBonds.modNh (f := Nh.incrRef) (fun _ => rfl) (fun _ => rfl) _
  · exact SameBonds.modGroup (f := Group.incrRef) (fun _ => rfl) _
  · exact SameBonds.refl s

theorem sameBonds_routeNhRefCountDecr (route) (s) :
    SameBonds s (routeNhRefCountDecr route s) := by
  unfold routeNhRefCountDecr
  split
  · exact SameBonds.modNh (f := Nh.decrRef) (fun _ => rfl) (fun _ => rfl) _
  · exact SameBonds.modGroup (f := Group.decrRef) (fun _ => rfl) _
  · exact SameBonds.refl s

@[simp] theorem routes_routeNhRefCountIncr (route) (s) :
    (routeNhRefCountIncr route s).routes = s.routes := by
  unfold routeNhRefCountIncr
  split <;> rfl

@[simp] theorem routes_routeNhRefCountDecr (route) (s) :
    (routeNhRefCountDecr route s).routes = s.routes := by
  unfold routeNhRefCountDecr
  split <;> rfl

@[simp] theorem vrf_tree_routeNhRefCountIncr (route) (s) :
    (routeNhRefCountIncr route s).vrf_tree = s.vrf_tree := by
  unfold routeNhRefCountIncr
  split <;> rfl

@[simp] theorem vrf_tree_routeNhRefCountDecr (route) (s) :
    (routeNhRefCountDecr route s).vrf_tree = s.vrf_tree := by
  unfold routeNhRefCountDecr
  split <;> rfl

theorem nh_ref_count_incr (hlive : ∀ n, route.nhObj = .nextHop n → s.NhLive n)
    (n) : ((routeNhRefCountIncr route s).nh n).ref_count =
      (s.nh n).ref_count + if route.nhObj = .nextHop n then 1 else 0 := by
  unfold routeNhRefCountIncr
  split
  next m hobj =>
    rw [nh_modNh (hlive m hobj), hobj]
    by_cases hn : n = m
    · rw [if_pos hn, if_pos (by rw [hn])]
      rfl
    · rw [if_neg hn, if_neg fun heq => hn (RouteNhObj.nextHop.inj heq).symm, Nat.add_zero]
  next hobj =>
    rw [hobj, if_neg (by simp)]
    rfl
  next hobj => rw [hobj, if_neg (by simp), Nat.add_zero]

theorem group_ref_count_incr (hlive : ∀ g, route.nhObj = .nextHopGroup g → s.GroupLive g) (g) :
    ((routeNhRefCountIncr route s).group g).ref_count =
      (s.group g).ref_count + if route.nhObj = .nextHopGroup g then 1 else 0 := by
  unfold routeNhRefCountIncr
  split
  next hobj =>
    rw [hobj, if_neg (by simp)]
    rfl
  next m hobj =>
    rw [group_modGroup (hlive m hobj), hobj]
    by_cases hg : g = m
    · rw [if_pos hg, if_pos (by rw [hg])]
      rfl
    · rw [if_neg hg, if_neg fun heq => hg (RouteNhObj.nextHopGroup.inj heq).symm, Nat.add_zero]
  next hobj => rw [hobj, if_neg (by simp), Nat.add_zero]

theorem nh_ref_count_decr (route) (s) (n) :
    ((routeNhRefCountDecr route s).nh n).ref_count =
      (s.nh n).ref_count - if route.nhObj = .nextHop n then 1 else 0 := by
  unfold routeNhRefCountDecr
  split
  next m hobj =>
    rw [nh_modNh_lens (f := Nh.decrRef) Nh.ref_count (fun c => c - 1) (fun _ => rfl)
      (fun _ => rfl), hobj]
    by_cases hn : n = m
    · rw [if_pos hn, if_pos (by rw [hn])]
    · rw [if_neg hn, if_neg fun heq => hn (RouteNhObj.nextHop.inj heq).symm, Nat.sub_zero]
  next hobj =>
    rw [hobj, if_neg (by simp)]
    rfl
  next hobj => rw [hobj, if_neg (by simp), Nat.sub_zero]

theorem group_ref_count_decr (route) (s) (g) :
    ((routeNhRefCountDecr route s).group g).ref_count =
      (s.group g).ref_count - if route.nhObj = .nextHopGroup g then 1 else 0 := by
  unfold routeNhRefCountDecr
  split
  next hobj =>
    rw [hobj, if_neg (by simp)]
    rfl
  next m hobj =>
    rw [group_modGroup_lens (f := Group.decrRef) Group.ref_count (fun c => c - 1) (fun _ => rfl)
      (fun _ => rfl), hobj]
    by_cases hg : g = m
    · rw [if_pos hg, if_pos (by rw [hg])]
    · rw [if_neg hg, if_neg fun heq => hg (RouteNhObj.nextHopGroup.inj heq).symm, Nat.sub_zero]
  next hobj => rw [hobj, if_neg (by simp), Nat.sub_zero]

theorem RefState.nh_counted (h : RefState s) (hr : s.RouteLive r) {n}
    (hobj : (s.route r).nhObj = .nextHop n) :
    1 ≤ (s.nh n).ref_count ∧ (s.nh n).owner_flag.next_hop = true := by
  have hone := one_le_routeRefs hr
  rw [hobj] at hone
  have hrefs := h.nh_refs n
  exact ⟨by omega, h.used n (by omega)⟩

theorem RefState.group_counted (h : RefState s) (hr : s.RouteLive r)
    (hobj : (s.route r).nhObj = .nextHopGroup g) : 1 ≤ (s.group g).ref_count := by
  have hone := one_le_routeRefs hr
  rw [hobj] at hone
  have hrefs := h.group_refs g
  omega

theorem groupLive_of_ref_count (hg : 1 ≤ (s.group g).ref_count) : s.GroupLive g := by
  by_contra hdead
  rw [group_of_not_live hdead] at hg
  simp [Group.zero] at hg

/-! ### Up to the core -/

theorem core_routeNhRefCountIncr (hobj : route.nhObj = route'.nhObj) (hcore : s.core = t.core) :
    (routeNhRefCountIncr route s).core = (routeNhRefCountIncr route' t).core := by
  unfold routeNhRefCountIncr
  rw [hobj]
  cases route'.nhObj with
  | none => exact hcore
  | nextHop n => rw [core_modNh (f := Nh.incrRef) (fun _ => rfl), hcore,
      ← core_modNh (f := Nh.incrRef) (fun _ => rfl)]
  | nextHopGroup g => rw [core_modGroup (f := Group.incrRef) (fun _ => rfl), hcore,
      ← core_modGroup (f := Group.incrRef) (fun _ => rfl)]

theorem core_routeNhRefCountDecr (hobj : route.nhObj = route'.nhObj) (hcore : s.core = t.core) :
    (routeNhRefCountDecr route s).core = (routeNhRefCountDecr route' t).core := by
  unfold routeNhRefCountDecr
  rw [hobj]
  cases route'.nhObj with
  | none => exact hcore
  | nextHop n => rw [core_modNh (f := Nh.decrRef) (fun _ => rfl), hcore,
      ← core_modNh (f := Nh.decrRef) (fun _ => rfl)]
  | nextHopGroup g => rw [core_modGroup (f := Group.decrRef) (fun _ => rfl), hcore,
      ← core_modGroup (f := Group.decrRef) (fun _ => rfl)]

theorem core_modRoute_of_core (f' : Route → Route)
    (hf : ∀ x, (f x).core = f' x.core) (hcore : s.core = t.core) (r) :
    (s.modRoute r f).core = (t.modRoute r f).core := by
  have hsemi : ∀ u : Fib, (u.modRoute r f).core = u.core.modRoute r f' := by
    intro u
    unfold core modRoute
    rw [Heap.map_modify_of_semiconj hf]
  rw [hsemi, hsemi, hcore]

theorem routeCreateFinish_core (env) (r) (s) :
    (routeCreateFinish env r s).core = (routeNhRefCountIncr (s.route r) s).core := by
  have hcore := routeAffectedEncapNhUpdate_core env r .create s
  unfold routeCreateFinish
  simp only
  rw [encapNhDepRouteAdd_core]
  exact core_routeNhRefCountIncr
    (route_field_of_core (f := Route.nhObj) (fun _ => rfl) hcore r) hcore

/-! ### Create -/

def ObjLive (s : Fib) (route : Route) : Prop :=
  (∀ n, route.nhObj = .nextHop n → s.NhLive n ∧ (s.nh n).owner_flag.next_hop = true) ∧
    ∀ g, route.nhObj = .nextHopGroup g → s.GroupLive g

theorem objLive_of_none (h : route.nhObj = .none) : ObjLive s route := by
  unfold ObjLive
  rw [h]
  exact ⟨fun n hn => by simp at hn, fun g hg => by simp at hg⟩

theorem ObjLive.of_same (h : ObjLive s route) (hsame : SameBonds s t) :
    ObjLive t route := by
  refine ⟨fun n hn => ?_, fun g hg => ?_⟩
  · rw [hsame.places.live, hsame.owner_flag]
    exact h.1 n hn
  · rw [groupLive_of_get_map (hsame.groups g)]
    exact h.2 g hg

theorem RefState.objLive (h : RefState s) (hr : s.RouteLive r) : ObjLive s (s.route r) := by
  refine ⟨fun n hn => ?_, fun g hg => groupLive_of_ref_count (h.group_counted hr hg)⟩
  have hflag := (h.nh_counted hr hn).2
  exact ⟨nhLive_of_next_hop hflag, hflag⟩

theorem RefState.objLive_parsed (h : RefState s)
    (hparsed : RouteParsed s route route') (hold : ObjLive s route) : ObjLive s route' := by
  rcases hparsed.obj with ⟨htype, hinfo⟩ | ⟨oid, n, hn, hobj⟩ | ⟨oid, g, hg, hobj⟩
  · have hobj : route'.nhObj = route.nhObj := by
      unfold Route.nhObj
      rw [htype, hinfo]
    unfold ObjLive
    rw [hobj]
    exact hold
  · obtain ⟨-, hflag, -⟩ := (h.ids oid n).mp hn
    unfold ObjLive
    rw [hobj]
    refine ⟨fun m hm => ?_, fun g hg => by simp at hg⟩
    obtain rfl := RouteNhObj.nextHop.inj hm
    exact ⟨(h.toLinksOk.nhs oid n hn).1, hflag⟩
  unfold ObjLive
  rw [hobj]
  refine ⟨fun m hm => by simp at hm, fun g' hg' => ?_⟩
  obtain rfl := RouteNhObj.nextHopGroup.inj hg'
  exact (h.groups oid g hg).1

theorem RefState.join (h : RefState s) {u} (hsame : SameBonds s u)
    (hnhs : u.nhs = s.nhs) (hgroups : u.groups = s.groups) (hr : RouteTrees u)
    (hsum : ∀ obj, obj ≠ .none → routeRefs u obj =
      routeRefs s obj + if route.nhObj = obj then 1 else 0)
    (hlive : ObjLive s route) : RefState (routeNhRefCountIncr route u) := by
  have hnh : ∀ n, u.nh n = s.nh n := fun n => by
    unfold Fib.nh
    rw [hnhs]
  have hgr : ∀ g, u.group g = s.group g := fun g => by
    unfold Fib.group
    rw [hgroups]
  have hnlive : ∀ n, route.nhObj = .nextHop n → u.NhLive n := fun n hn => by
    unfold NhLive
    rw [hnhs]
    exact (hlive.1 n hn).1
  have hglive : ∀ g, route.nhObj = .nextHopGroup g → u.GroupLive g := fun g hg => by
    unfold GroupLive
    rw [hgroups]
    exact hlive.2 g hg
  refine h.reroute .none route.nhObj
    (hsame.trans (sameBonds_routeNhRefCountIncr route u))
    (hr.of_same ⟨fun q => by rw [routes_routeNhRefCountIncr], fun v => ?_⟩) (fun obj hobj => ?_)
    (fun n => ?_) (fun g => ?_) fun n hn => (hlive.1 n hn).2
  · unfold Fib.vrf
    rw [vrf_tree_routeNhRefCountIncr]
  · rw [if_neg (Ne.symm hobj), Nat.add_zero, ← hsum obj hobj]
    exact routeRefs_congr (fun q => by rw [routes_routeNhRefCountIncr]) obj
  · rw [if_neg (by simp), Nat.add_zero, nh_ref_count_incr hnlive, hnh]
  · rw [if_neg (by simp), Nat.add_zero, group_ref_count_incr hglive, hgr]

theorem RefState.of_routes_get (h : RefState s) (hget : ∀ q, t.routes.get q = s.routes.get q)
    (hrest : { t with routes := s.routes }.core = s.core) : RefState t := by
  have hbonds : SameBonds s t := by
    refine SameBonds.trans (t := { t with routes := s.routes }) ?_
      ⟨⟨rfl, fun _ => rfl, rfl, rfl⟩, fun _ => rfl, fun _ => rfl, rfl⟩
    have hsame := SameNodes.of_core hrest
    refine ⟨⟨?_, hsame.vrfs, hsame.rifs, hsame.ids⟩, hsame.nh_group_list,
      groups_get_of_core (fun _ => rfl) hrest, nh_group_tree_of_core hrest⟩
    have hmap := congrArg (fun u : Fib => u.nhs.map Nh.owner) hrest
    simp only [Fib.core, Heap.map_map] at hmap
    exact hmap
  refine h.reroute .none .none hbonds
    (h.toRouteTrees.of_same ⟨fun q => by rw [hget], (SameHomes.of_core hrest).vrfs⟩)
    (fun obj _ => ?_) (fun n => ?_) (fun g => ?_) (by simp)
  · exact congrArg (· + _) (routeRefs_congr (fun q => by rw [hget]) obj)
  · exact congrArg (· + _) (nh_field_of_core (f := Nh.ref_count) (fun _ => rfl) hrest n)
  · exact congrArg (· + _) (group_field_of_core (f := Group.ref_count) (fun _ => rfl) hrest g)

theorem RefState.routeCreateNew (h : RefState s) {vrf}
    (hv : s.vrf entry.vr_id = some vrf) (hfind : Tree.find vrf.sai_route_tree entry.key = none)
    (attr_list) : RefState (routeCreateNew env entry attr_list s).2 := by
  unfold OpxSai.routeCreateNew
  split
  · exact h
  simp only
  rw [routeAttributesParse_congr (s := s) (t := routeNodeAlloc (routeNodeInit entry) s) rfl rfl]
  -- the node is freed again whatever fails
  have hback : ∀ c, RefState (routeNodeFree s.routes.next
      ((routeNodeAlloc (routeNodeInit entry) s).call env c).2) := fun c =>
    h.of_routes_get (routes_allocFree _ s) rfl
  split
  · exact h.of_routes_get (routes_allocFree _ s) rfl
  rename_i route hparse
  obtain ⟨hparsed, -⟩ := routeAttributesParse_ok hparse
  have hlive := h.objLive_parsed hparsed (objLive_of_none rfl)
  unfold routeNpuCall
  simp only
  by_cases hnpu : env.status (.routeCreate route) = .success
  · have hcall : ((routeNodeAlloc (routeNodeInit entry) s).call env
        (.routeCreate route)).1 = .success := hnpu
    rw [if_pos hcall, hcall]
    simp only
    generalize hroute : route.setHwInfo (env.hw_info (.routeCreate route) route.hw_info) =
      route'
    have hhome : route'.home = (entry.vr_id, entry.key) := by
      rw [← hroute]
      exact hparsed.home
    have hobj : route'.nhObj = route.nhObj := by
      rw [← hroute]
      rfl
    -- the write to the new node is the allocation of the parsed route
    have hnode : ((routeNodeAlloc (routeNodeInit entry) s).call env
        (.routeCreate route)).2.modRoute s.routes.next (fun _ => route') =
        ((routeNodeAlloc route' s).call env (.routeCreate route)).2 := by
      unfold modRoute call routeNodeAlloc
      simp only
      rw [Heap.modify_alloc_next]
    rw [hnode]
    split
    · refine RefState.of_core (s := routeNhRefCountIncr route' (vrfRouteTreeInsert
        entry.vr_id entry.key s.routes.next (routeNodeAlloc route' s))) ?_ ?_
      · refine h.join ?_ rfl rfl ?_ (fun obj _ => Heap.sum_alloc _ _ _) ?_
        · exact SameBonds.of_routes rfl rfl (nhTree_modVrf (f := fun v => { v with
            sai_route_tree := Tree.insert v.sai_route_tree entry.key s.routes.next })
            (fun _ => rfl) _ _) rfl rfl rfl
        · have hins := h.toRouteTrees.insert _
            (by rw [hhome]; exact hv) (by rw [hhome]; exact hfind)
          rw [hhome] at hins
          exact hins
        · unfold ObjLive
          rw [hobj]
          exact hlive
      · rw [routeCreateFinish_core]
        refine core_routeNhRefCountIncr ?_ rfl
        have hread := route_routeNodeAlloc route' s s.routes.next
        rw [if_pos rfl] at hread
        exact congrArg Route.nhObj hread
    · refine h.of_routes_get (fun q => ?_) rfl
      show ((((s.routes.alloc route').free s.routes.next).free s.routes.next).get q) = _
      rw [Heap.get_free]
      split
      next hq => rw [hq, Heap.get_next]
      · exact routes_allocFree _ s q
  · have hcall : ((routeNodeAlloc (routeNodeInit entry) s).call env
        (.routeCreate route)).1 ≠ .success := hnpu
    rw [if_neg hcall]
    split
    next heq => exact absurd (congrArg Prod.fst heq) hcall
    rename_i heq
    obtain ⟨-, -, rfl⟩ := heq
    exact hback _

/-- The default route created in place has no next hop object yet, or the request fails. -/
def RouteCreateClean (env : Env) (entry : RouteEntry) (attr_list : List RouteAttr) (s : Fib) :
    Prop :=
  ∀ r route, routeNodeGet entry s = some r → isDefaultRouteEntry entry = true →
    (s.route r).hw_info = none →
    routeInputParamsValidate entry attr_list.length = .success →
    routeAttributesParse env attr_list ((s.route r).setPacketAction .forward) s = .ok route →
    env.status (.routeCreate route) = .success → (s.route r).nhObj = .none

theorem sameBonds_modRoute (s) (r) :
    SameBonds s (s.modRoute r f) :=
  SameBonds.of_routes rfl rfl (fun _ => rfl) rfl rfl rfl

theorem RefState.routeCreateDefault (h : RefState s) (hr : s.RouteLive r)
    (hclean : ∀ route, routeAttributesParse env attr_list ((s.route r).setPacketAction .forward) s =
      .ok route → env.status (.routeCreate route) = .success → (s.route r).nhObj = .none) :
    RefState (routeCreateDefault env attr_list r s).2 := by
  unfold OpxSai.routeCreateDefault
  split
  · exact h
  rename_i route hparse
  obtain ⟨hparsed, -⟩ := routeAttributesParse_ok hparse
  unfold routeNpuCall
  simp only
  by_cases hnpu : env.status (.routeCreate route) = .success
  · have hcall : (s.call env (.routeCreate route)).1 = .success := hnpu
    have hnone : (s.route r).nhObj = .none := hclean route hparse hnpu
    have hlive := h.objLive_parsed hparsed (objLive_of_none hnone)
    rw [if_pos hcall, hcall]
    simp only
    generalize hroute : route.setHwInfo _ = route'
    have hhome : route'.home = (s.route r).home := by
      rw [← hroute]
      exact hparsed.home
    have hobj : route'.nhObj = route.nhObj := by
      rw [← hroute]
      rfl
    refine RefState.of_core (s := routeNhRefCountIncr route' (s.modRoute r fun _ => route')) ?_ ?_
    · refine h.join (sameBonds_modRoute s r) rfl rfl
        (h.toRouteTrees.of_same (SameHomes.modRoute s r hhome)) (fun obj hne => ?_) ?_
      · have hsum := routeRefs_modRoute hr (fun _ => route') obj
        rw [hnone, if_neg (Ne.symm hne), Nat.add_zero] at hsum
        exact hsum
      · unfold ObjLive
        rw [hobj]
        exact hlive
    · rw [routeCreateFinish_core]
      refine core_routeNhRefCountIncr ?_ rfl
      have hread := route_modRoute (s := (s.call env (.routeCreate route)).2) hr
        (fun _ => route') r
      rw [if_pos rfl] at hread
      exact congrArg Route.nhObj hread
  · have hcall : (s.call env (.routeCreate route)).1 ≠ .success := hnpu
    rw [if_neg hcall]
    split
    next heq => exact absurd (congrArg Prod.fst heq) hcall
    rename_i heq
    obtain ⟨-, -, rfl⟩ := heq
    exact h.of_core (call_core env _ s)

theorem RefState.routeCreate (h : RefState s) (hclean : RouteCreateClean env entry attr_list s) :
    RefState (routeCreate env entry attr_list s).2 := by
  unfold OpxSai.routeCreate
  simp only
  split
  · exact h
  rename_i hvalid
  split
  · exact h
  rename_i vrf hv
  split
  next hnone =>
    refine h.routeCreateNew hv ?_ attr_list
    unfold routeNodeGet at hnone
    rw [hv, Option.bind_some] at hnone
    exact hnone
  rename_i r hget
  split
  · exact h
  rename_i hdefault
  split
  · exact h
  rename_i hhw
  refine h.routeCreateDefault (h.toRouteTrees.nodeGet hget).1
    fun route hparse hnpu => ?_
  exact hclean r route hget (by simpa using hdefault) (by simpa using hhw)
    (not_not.mp hvalid) hparse hnpu

/-! ### Remove and set -/

theorem RefState.leave (h : RefState s) (hr : s.RouteLive r)
    (hhome : (f (s.route r)).home = (s.route r).home) (hobj : (f (s.route r)).nhObj = .none) :
    RefState (routeNhRefCountDecr (s.route r) (s.modRoute r f)) := by
  have hsum := fun obj => routeRefs_modRoute hr f obj
  refine h.reroute (s.route r).nhObj .none
    ((sameBonds_modRoute s r).trans (sameBonds_routeNhRefCountDecr _ _))
    (h.toRouteTrees.of_same ((SameHomes.modRoute s r hhome).trans
      ⟨fun q => by rw [routes_routeNhRefCountDecr], fun v => ?_⟩)) (fun obj _ => ?_)
    (fun n => ?_) (fun g => ?_) (by simp)
  · unfold Fib.vrf
    rw [vrf_tree_routeNhRefCountDecr]
  · rw [hobj] at hsum
    rw [← hsum obj]
    exact congrArg (· + _) (routeRefs_congr (fun q => by rw [routes_routeNhRefCountDecr]) obj)
  · have hno : (if RouteNhObj.none = .nextHop n then 1 else 0) = 0 := if_neg (by simp)
    rw [nh_ref_count_decr, hno, Nat.add_zero]
    show (s.nh n).ref_count - _ + _ = _
    split
    next hn => exact Nat.sub_add_cancel (h.nh_counted hr hn).1
    · rfl
  · have hno : (if RouteNhObj.none = .nextHopGroup g then 1 else 0) = 0 := if_neg (by simp)
    rw [group_ref_count_decr, hno, Nat.add_zero]
    show (s.group g).ref_count - _ + _ = _
    split
    next hg => exact Nat.sub_add_cancel (h.group_counted hr hg)
    · rfl

theorem RefState.forget (h : RefState s) (hr : s.RouteLive r) {v} {key}
    (hhome : (s.route r).home = (v, key)) (hobj : (s.route r).nhObj = .none) :
    RefState (routeNodeFree r (vrfRouteTreeRemove v key s)) := by
  refine h.reroute .none .none
    (SameBonds.of_routes rfl rfl (nhTree_modVrf (f := fun w => { w with
      sai_route_tree := Tree.erase w.sai_route_tree key }) (fun _ => rfl) s v) rfl rfl rfl)
    (h.toRouteTrees.remove hr hhome) (fun obj hne => ?_) (fun n => rfl) (fun g => rfl) (by simp)
  have hsum := Heap.sum_free (get_of_routeLive hr) fun q => if q.nhObj = obj then 1 else 0
  rw [hobj, if_neg (Ne.symm hne), Nat.add_zero] at hsum
  exact congrArg (· + _) hsum

/-- What becomes of the route, without the encap next hops. -/
def routeRemoved (entry : RouteEntry) (r : Ptr) (s : Fib) : Fib :=
  let t := routeNhRefCountDecr (s.route r) (s.modRoute r fun x =>
    (if isDefaultRouteEntry entry then x.setPacketAction .drop else x).clearNhType)
  if isDefaultRouteEntry entry then t
  else routeNodeFree r (vrfRouteTreeRemove entry.vr_id entry.key t)

theorem modRoute_routeNhRefCountDecr (route) (f : Route → Route) (r) (s) :
    (routeNhRefCountDecr route s).modRoute r f = routeNhRefCountDecr route (s.modRoute r f) := by
  unfold routeNhRefCountDecr
  split <;> rfl

theorem vrfRouteTreeRemove_routeNhRefCountDecr (route) (v) (key)
    (s) : routeNhRefCountDecr route (vrfRouteTreeRemove v key s) =
      vrfRouteTreeRemove v key (routeNhRefCountDecr route s) := by
  unfold routeNhRefCountDecr
  split <;> rfl

theorem routeRemoveNode_core {r} {s} :
    (routeRemoveNode env entry r s).core = (routeRemoved entry r s).core := by
  -- the encap next hops are taken care of between the tree and the counts
  have hstep : ∀ u : Fib, (u.route r).nhObj = (s.route r).nhObj →
      ((routeNhRefCountDecr ((encapNhDepRouteRemove env r
          (routeAffectedEncapNhUpdate env r .remove u)).route r)
        (encapNhDepRouteRemove env r (routeAffectedEncapNhUpdate env r .remove u))).modRoute r
          Route.clearNhType).core =
        (routeNhRefCountDecr (s.route r) (u.modRoute r Route.clearNhType)).core := by
    intro u hu
    have hcore : (encapNhDepRouteRemove env r
        (routeAffectedEncapNhUpdate env r .remove u)).core = u.core := by
      rw [encapNhDepRouteRemove_core, routeAffectedEncapNhUpdate_core]
    have hobj : ((encapNhDepRouteRemove env r
        (routeAffectedEncapNhUpdate env r .remove u)).route r).nhObj = (s.route r).nhObj :=
      (route_field_of_core (f := Route.nhObj) (fun _ => rfl) hcore r).trans hu
    rw [← modRoute_routeNhRefCountDecr]
    exact core_modRoute_of_core Route.clearNhType (fun _ => rfl)
      (core_routeNhRefCountDecr hobj hcore) r
  unfold routeRemoveNode routeRemoved
  by_cases hdefault : isDefaultRouteEntry entry = true
  · simp only [hdefault, if_true]
    have hread : ((s.modRoute r (Route.setPacketAction .drop)).route r).nhObj =
        (s.route r).nhObj :=
      route_modRoute_field (f := Route.setPacketAction .drop) Route.nhObj (fun _ => rfl) s r r
    rw [hstep _ hread, modRoute_modRoute]
  have hno : isDefaultRouteEntry entry = false := by simpa using hdefault
  simp only [hno, Bool.false_eq_true, if_false]
  have hfree : ∀ u w : Fib, u.core = w.core →
      (routeNodeFree r u).core = (routeNodeFree r w).core := by
    intro u w huw
    have hsemi : ∀ u : Fib, (routeNodeFree r u).core = routeNodeFree r u.core := by
      intro u
      unfold routeNodeFree core
      congr 1
      refine Heap.ext (fun q => ?_) rfl rfl
      rw [Heap.get_map, Heap.get_free, Heap.get_free]
      split <;> rfl
    rw [hsemi, hsemi, huw]
  refine hfree _ _ ?_
  rw [hstep (vrfRouteTreeRemove entry.vr_id entry.key s) rfl,
    ← vrfRouteTreeRemove_routeNhRefCountDecr]
  rfl

theorem RefState.routeRemove (h : RefState s) (env) (entry) :
    RefState (routeRemove env entry s).2 := by
  unfold OpxSai.routeRemove
  split
  · exact h
  split
  · exact h
  split
  · exact h
  rename_i r hget
  obtain ⟨hr, hhome⟩ := h.toRouteTrees.nodeGet hget
  unfold routeNpuCall
  simp only
  by_cases hnpu : env.status (.routeRemove (s.route r)) = .success
  · have hcall : (s.call env (.routeRemove (s.route r))).1 = .success := hnpu
    rw [if_pos hcall, hcall]
    simp only
    generalize hu : (s.call env (.routeRemove (s.route r))).2.modRoute r _ = u
    -- only the handle differs before the route is taken apart
    have hread : u.route r = (s.route r).setHwInfo
        (env.hw_info (.routeRemove (s.route r)) (s.route r).hw_info) := by
      rw [← hu]
      exact (route_modRoute (s := (s.call env (.routeRemove (s.route r))).2) hr _ r).trans
        (if_pos rfl)
    have hur : u.RouteLive r := by
      rw [← hu]
      exact (routeLive_modRoute _).mpr hr
    have hstate : RefState u := by
      rw [← hu]
      have hcallState : RefState (s.call env (.routeRemove (s.route r))).2 :=
        h.of_core (call_core env _ s)
      refine hcallState.reroute .none .none (sameBonds_modRoute _ r)
        (hcallState.toRouteTrees.of_same (SameHomes.modRoute _ r rfl)) (fun obj _ => ?_)
        (fun _ => rfl) (fun _ => rfl) (by simp)
      have hsum := routeRefs_modRoute (s := (s.call env (.routeRemove (s.route r))).2) hr
        (fun _ => (s.route r).setHwInfo
          (env.hw_info (.routeRemove (s.route r)) (s.route r).hw_info)) obj
      have hkeep : (if ((s.call env (.routeRemove (s.route r))).2.route r).nhObj = obj
          then 1 else 0) = if ((s.route r).setHwInfo (env.hw_info
            (.routeRemove (s.route r)) (s.route r).hw_info)).nhObj = obj then 1 else 0 := rfl
      omega
    refine RefState.of_core ?_ routeRemoveNode_core
    have hhome' : (u.route r).home = (entry.vr_id, entry.key) := by
      rw [hread]
      exact hhome
    unfold routeRemoved
    simp only
    split
    · exact hstate.leave hur rfl rfl
    have hleft := hstate.leave (f := fun x => x.clearNhType) hur rfl rfl
    have hread' : (routeNhRefCountDecr (u.route r)
        (u.modRoute r fun x => x.clearNhType)).route r = (u.route r).clearNhType := by
      unfold Fib.route
      rw [routes_routeNhRefCountDecr]
      exact (route_modRoute hur _ r).trans (if_pos rfl)
    refine hleft.forget ?_ ?_ ?_
    · unfold RouteLive
      rw [routes_routeNhRefCountDecr]
      exact (routeLive_modRoute _).mpr hur
    · rw [hread']
      exact hhome'
    · rw [hread']
      rfl
  · have hcall : (s.call env (.routeRemove (s.route r))).1 ≠ .success := hnpu
    rw [if_neg hcall]
    split
    next heq => exact absurd (congrArg Prod.fst heq) hcall
    rename_i heq
    obtain ⟨-, -, rfl⟩ := heq
    exact h.of_core (call_core env _ s)

theorem core_modRoute_const (hcore : s.core = t.core) (r) :
    (s.modRoute r fun _ => route).core = (t.modRoute r fun _ => route).core :=
  core_modRoute_of_core (fun _ => route.core) (fun _ => rfl) hcore r

theorem nhObj_of_match (h : routeIsNhInfoMatch route route' = true) :
    route'.nhObj = route.nhObj := by
  unfold routeIsNhInfoMatch at h
  obtain ⟨htype, hinfo⟩ := Bool.and_eq_true_iff.mp h
  unfold Route.nhObj
  rw [← of_decide_eq_true htype, ← of_decide_eq_true hinfo]

theorem RefState.routeAttributeCommit (h : RefState s) (hr : s.RouteLive r)
    (hhome : route.home = (s.route r).home) (hlive : ObjLive s route) :
    RefState (routeAttributeCommit env r route s) := by
  unfold OpxSai.routeAttributeCommit
  cases hmatch : routeIsNhInfoMatch (s.route r) route with
  | true =>
    simp only [Bool.not_true, Bool.false_eq_true, if_false]
    refine RefState.of_core (s := s.modRoute r fun _ => route) ?_
      (core_modRoute_const (routeAttrSetAffectedEncapNhUpdate_core env r route s) r)
    refine h.reroute .none .none (sameBonds_modRoute s r)
      (h.toRouteTrees.of_same (SameHomes.modRoute s r hhome)) (fun obj _ => ?_)
      (fun _ => rfl) (fun _ => rfl) (by simp)
    have hsum := routeRefs_modRoute hr (fun _ => route) obj
    rw [nhObj_of_match hmatch] at hsum
    omega
  | false =>
    simp only [Bool.not_false, if_true]
    -- first without an object, then with the new one
    have hleft : RefState (routeNhRefCountDecr (s.route r) (s.modRoute r Route.clearNhType)) :=
      h.leave hr rfl rfl
    have hbonds : SameBonds s (routeNhRefCountDecr (s.route r) (s.modRoute r Route.clearNhType)) :=
      (sameBonds_modRoute s r).trans (sameBonds_routeNhRefCountDecr _ _)
    have hleftr : (routeNhRefCountDecr (s.route r) (s.modRoute r Route.clearNhType)).RouteLive r := by
      unfold RouteLive
      rw [routes_routeNhRefCountDecr]
      exact (routeLive_modRoute _).mpr hr
    have hread : (routeNhRefCountDecr (s.route r) (s.modRoute r Route.clearNhType)).route r =
        (s.route r).clearNhType := by
      unfold Fib.route
      rw [routes_routeNhRefCountDecr]
      exact (route_modRoute hr _ r).trans (if_pos rfl)
    have hjoined : RefState (routeNhRefCountIncr route
        ((routeNhRefCountDecr (s.route r) (s.modRoute r Route.clearNhType)).modRoute r
          fun _ => route)) := by
      refine hleft.join (sameBonds_modRoute _ r) rfl rfl
        (hleft.toRouteTrees.of_same (SameHomes.modRoute _ r ?_)) (fun obj hne => ?_)
        (hlive.of_same hbonds)
      · rw [hread]
        exact hhome
      · have hsum := routeRefs_modRoute hleftr (fun _ => route) obj
        rw [hread] at hsum
        have hnone : ((s.route r).clearNhType).nhObj = .none := rfl
        rw [hnone, if_neg (Ne.symm hne), Nat.add_zero] at hsum
        exact hsum
    rw [modRoute_routeNhRefCountDecr, modRoute_modRoute, ← modRoute_routeNhRefCountDecr] at hjoined
    refine hjoined.of_core ?_
    rw [encapNhDepRouteAdd_core]
    have hcore : (routeAttrSetAffectedEncapNhUpdate env r route (encapNhDepRouteRemove env r
        (routeNhRefCountDecr (s.route r) s))).core = (routeNhRefCountDecr (s.route r) s).core := by
      rw [routeAttrSetAffectedEncapNhUpdate_core, encapNhDepRouteRemove_core]
    refine core_routeNhRefCountIncr ?_ (core_modRoute_const hcore r)
    have hthere : (routeAttrSetAffectedEncapNhUpdate env r route (encapNhDepRouteRemove env r
        (routeNhRefCountDecr (s.route r) s))).RouteLive r := by
      rw [routeLive_of_core hcore]
      unfold RouteLive
      rw [routes_routeNhRefCountDecr]
      exact hr
    rw [route_modRoute hthere, if_pos rfl]

theorem RefState.routeAttributeSet (h : RefState s) (env) (entry)
    (attr) : RefState (routeAttributeSet env entry attr s).2 := by
  unfold OpxSai.routeAttributeSet
  simp only
  split
  · exact h
  split
  · exact h
  split
  · exact h
  rename_i r hget
  have hr := (h.toRouteTrees.nodeGet hget).1
  split
  · exact h
  rename_i route hparse
  obtain ⟨hparsed, -⟩ := routeAttributesParse_ok hparse
  unfold routeNpuCall
  simp only
  by_cases hnpu : env.status (.routeAttrSet route) = .success
  · have hcall : (s.call env (.routeAttrSet route)).1 = .success := hnpu
    rw [if_pos hcall, hcall]
    simp only
    have hstate : RefState (s.call env (.routeAttrSet route)).2 :=
      h.of_core (call_core env _ s)
    have hlive : ObjLive s route := h.objLive_parsed hparsed (h.objLive hr)
    exact hstate.routeAttributeCommit hr hparsed.home hlive
  · have hcall : (s.call env (.routeAttrSet route)).1 ≠ .success := hnpu
    rw [if_neg hcall]
    split
    next heq => exact absurd (congrArg Prod.fst heq) hcall
    rename_i heq
    obtain ⟨-, -, rfl⟩ := heq
    exact h.of_core (call_core env _ s)

end Routes

theorem ipNextHopRemove_live (env) {p} (hne : q ≠ p) (hq : s.NhLive q) :
    (ipNextHopRemove env p s).2.NhLive q := by
  unfold ipNextHopRemove
  split
  · exact hq
  have hnpu : (nextHopNpuRemove env p s).2.NhLive q :=
    (nhLive_of_core (nextHopNpuRemove_core env p s) q).mpr hq
  refine andThen_keeps (P := fun t => t.NhLive q) hnpu fun h => ?_
  have hreset := (nhLive_modNh (nextHopNpuRemove env p s).2 p q Nh.nextHopInfoReset).mpr h
  simp only
  unfold checkAndDeleteIpNextHopNode
  split
  · split
    · exact hreset
    · exact (nhLive_nhNodeFree _ q).mpr ⟨hne, hreset⟩
  · exact hreset

theorem nextHopRemove_live (hq : s.NhLive q) (hcount : (s.nh q).ref_count ≠ 0) {next_hop_id} :
    (nextHopRemove env next_hop_id s).2.NhLive q := by
  unfold nextHopRemove
  split
  · exact hq
  split
  · exact hq
  rename_i p _
  split
  · exact hq
  split
  · exact hq
  rename_i hrefs
  have hne : q ≠ p := by
    rintro rfl
    exact hrefs hcount
  have hout : (nhIdTreeRemove p s).2.NhLive q := by
    unfold nhIdTreeRemove
    simp only
    split <;> exact hq
  unfold nextHopRemoveNode
  simp only
  split
  · exact hout
  have hleft := ipNextHopRemove_live env hne hout
  split
  · exact hleft
  unfold nhIdTreeInsert
  simp only
  split <;> exact hleft

/-! ## Runs -/

/-- The routes over `obj`. -/
def routesOver (s : Fib) (obj : RouteNhObj) : Set Ptr :=
  {r | IsRoute s r ∧ (s.route r).nhObj = obj}

/-- The reference counts are the numbers of references, and nothing that is referred to can be
removed. -/
structure RefCounts (s : Fib) : Prop where
  nh : ∀ n, s.NhLive n → (s.nh n).ref_count =
    (routesOver s (.nextHop n)).ncard + s.groups.sum fun g => WList.weight g.nh_list n
  group : ∀ g, s.GroupLive g → (s.group g).ref_count =
    (s.group g).nh_count + (routesOver s (.nextHopGroup g)).ncard
  nh_kept : ∀ env next_hop_id n, ((∃ r, r ∈ routesOver s (.nextHop n)) ∨
      ∃ g, s.GroupLive g ∧ WList.has (s.group g).nh_list n = true) →
    (nextHopRemove env next_hop_id s).2.NhLive n
  group_kept : ∀ env nh_group_id g, (∃ r, r ∈ routesOver s (.nextHopGroup g)) →
    (nextHopGroupRemove env nh_group_id s).2.GroupLive g

theorem RefState.routesOver_ncard (h : RefState s) (obj) :
    (routesOver s obj).ncard = routeRefs s obj := by
  unfold routeRefs
  rw [Heap.sum_eq_ncard]
  congr 1
  ext r
  simp only [routesOver, Set.mem_ofPred_eq, h.toRouteTrees.isRoute_iff]
  constructor
  · rintro ⟨hr, hobj⟩
    exact ⟨_, get_of_routeLive hr, hobj⟩
  · rintro ⟨a, ha, hobj⟩
    rw [route_of_get ha]
    exact ⟨Option.isSome_iff_exists.mpr ⟨a, ha⟩, hobj⟩

theorem RefState.refCounts (h : RefState s) : RefCounts s where
  nh := by
    intro n _
    rw [h.routesOver_ncard]
    exact h.nh_refs n
  group := by
    intro g _
    rw [h.routesOver_ncard]
    exact h.group_refs g
  nh_kept := by
    intro env next_hop_id n href
    have hcount : (s.nh n).ref_count ≠ 0 := by
      rcases href with ⟨r, hr, hobj⟩ | ⟨g, hg, hhas⟩
      · have hone := (h.nh_counted ((h.toRouteTrees.isRoute_iff r).mp hr) hobj).1
        omega
      have hpos := (WList.has_iff_weight_pos (h.group_wf g)).mp hhas
      have hle := weight_le_memberRefs hg n
      have hrefs := h.nh_refs n
      omega
    exact nextHopRemove_live (nhLive_of_next_hop (h.used n hcount)) hcount
  group_kept := by
    intro env nh_group_id g href
    obtain ⟨r, hr, hobj⟩ := href
    have hone := h.group_counted ((h.toRouteTrees.isRoute_iff r).mp hr) hobj
    have hg : s.GroupLive g := groupLive_of_ref_count hone
    have hempty : ∀ g, (s.group g).ref_count = 0 → (s.group g).nh_count = 0 := fun g hg => by
      have hcount := h.group_refs g
      omega
    rcases nextHopGroupRemove_cases hempty with
      hcore | ⟨q, u, -, hrefs, hcore, heq⟩
    · exact (groupLive_of_core hcore g).mpr hg
    · have hne : g ≠ q := by
        rintro rfl
        omega
      rw [heq]
      show ((u.groups.free q).get g).isSome
      rw [Heap.get_free_of_ne _ hne]
      exact (groupLive_of_core hcore g).mpr hg

/-- Routes without next hop objects, and neither next hops, neighbors nor groups: what virtual
routers and router interfaces come with. -/
structure NoReferences (s : Fib) : Prop extends NoNextHops s, RouteTrees s where
  no_groups : ∀ g, ¬ s.GroupLive g
  no_group_tree : ∀ id, s.nh_group_tree id = none
  no_objects : ∀ r, (s.route r).nhObj = .none

theorem NoReferences.refState (h : NoReferences s) : RefState s := by
  have hnh : ∀ n, s.nh n = Nh.zero := fun n => nh_of_not_live (h.nhs n)
  have hgroup : ∀ g, s.group g = Group.zero := fun g => group_of_not_live (h.no_groups g)
  have hroutes : ∀ obj, obj ≠ .none → routeRefs s obj = 0 := by
    intro obj hne
    refine Heap.sum_eq_zero.mpr fun r a ha => if_neg ?_
    have hnone := h.no_objects r
    rw [route_of_get ha] at hnone
    rw [hnone]
    exact Ne.symm hne
  have hmember : ∀ n, memberRefs s n = 0 := by
    intro n
    refine Heap.sum_eq_zero.mpr fun g a ha => ?_
    exact absurd (Option.isSome_iff_exists.mpr ⟨a, ha⟩) (h.no_groups g)
  refine ⟨h.toNoNextHops.nodeState, ⟨⟨fun g => ?_, fun n => ?_, fun g n => ?_⟩, fun g => ?_,
    fun id g hg => ?_, fun id n hn => ?_⟩, h.toRouteTrees, fun n hn => ?_, fun n => ?_, fun g => ?_⟩
  · rw [hgroup]
    exact WList.wf_nil
  · rw [hnh]
    exact WList.wf_nil
  · rw [hgroup, hnh]
    rfl
  · rw [hgroup]
    rfl
  · rw [h.no_group_tree] at hg
    simp at hg
  · rw [h.ids] at hn
    simp at hn
  · rw [hnh] at hn
    exact absurd rfl hn
  · rw [hnh, hroutes _ (by simp), hmember]
    rfl
  · rw [hgroup, hroutes _ (by simp)]
    rfl

/-- The calls on next hops, groups, members and routes. Insertions into the id tree of next hops
and the link nodes succeed; the NPU may refuse anything. -/
inductive RefCall : Call → Fib → Prop where
  | nextHopCreate {env : Env} {attr_list : List NextHopAttr} {s : Fib}
      (henv : NextHopCreateClean env s) : RefCall ⟨env, .nextHopCreate attr_list⟩ s
  | nextHopRemove {env : Env} {next_hop_id : Oid} {s : Fib}
      (henv : NextHopRemoveClean env) : RefCall ⟨env, .nextHopRemove next_hop_id⟩ s
  | groupCreate {env : Env} {attr_list : List GroupAttr} {s : Fib} :
      RefCall ⟨env, .nextHopGroupCreate attr_list⟩ s
  | groupRemove {env : Env} {nh_group_id : Oid} {s : Fib} :
      RefCall ⟨env, .nextHopGroupRemove nh_group_id⟩ s
  | memberCreate {env : Env} {attr_list : List MemberAttr} {s : Fib}
      (henv : env.avail (.groupLink 0) = true ∧ env.avail (.nhLink 0) = true) :
      RefCall ⟨env, .nextHopGroupMemberCreate attr_list⟩ s
  | memberRemove {env : Env} {member_id : Oid} {s : Fib} :
      RefCall ⟨env, .nextHopGroupMemberRemove member_id⟩ s
  | routeCreate {env : Env} {entry : RouteEntry} {attr_list : List RouteAttr} {s : Fib}
      (hclean : RouteCreateClean env entry attr_list s) :
      RefCall ⟨env, .routeCreate entry attr_list⟩ s
  | routeRemove {env : Env} {entry : RouteEntry} {s : Fib} :
      RefCall ⟨env, .routeRemove entry⟩ s
  | routeAttributeSet {env : Env} {entry : RouteEntry} {attr : RouteAttr} {s : Fib} :
      RefCall ⟨env, .routeAttributeSet entry attr⟩ s

theorem RefState.step {c} (hc : RefCall c s) (h : RefState s) :
    RefState (fibStep c s) := by
  cases hc with
  | nextHopCreate henv => exact h.nextHopCreate henv _
  | nextHopRemove henv => exact h.nextHopRemove henv _
  | groupCreate => exact h.groupCreate _ _
  | groupRemove => exact h.groupRemove _ _
  | memberCreate henv => exact h.memberCreate henv _
  | memberRemove => exact h.memberRemove _ _
  | routeCreate hclean => exact h.routeCreate hclean
  | routeRemove => exact h.routeRemove _ _
  | routeAttributeSet => exact h.routeAttributeSet _ _ _

/-- **Reference counts are references** in every state that such calls reach. -/
theorem refCounts_of_run {s t : Fib} (hs : NoReferences s) (hrun : FibRun RefCall s t) :
    RefCounts t :=
  (hrun.induct (P := RefState) (fun _ _ h hc => h.step hc) hs.refState).refCounts

/-! ## One virtual router -/

/-- The virtual router 1 with its default routes and one router interface. -/
def oneRifDefaults : Fib :=
  vrfDefaultRouteAdd (Env.good 1) ⟨.virtualRouter, 1⟩ (oneRif .port ⟨.port, 1⟩)

theorem routeTrees_oneRif (type) (attachment) :
    RouteTrees (oneRif type attachment) := by
  have htree : ∀ v vrf, (oneRif type attachment).vrf v = some vrf → vrf.sai_route_tree = [] := by
    intro v vrf hv
    change (if v = _ then some _ else none) = some vrf at hv
    split at hv
    · cases hv
      rfl
    · simp at hv
  refine ⟨fun v vrf hv => ?_, fun v vrf key r hv hmem => ?_, fun r hr => ?_⟩
  · rw [htree v vrf hv]
    exact List.nodup_nil
  · rw [htree v vrf hv] at hmem
    simp at hmem
  · simp [RouteLive, oneRif, Fib.init] at hr

theorem NoReferences.internalDefaultRouteNodeAdd (h : NoReferences s) (env)
    {vr_id} {af} (hv : (s.vrf vr_id).isSome)
    (hnone : routeNodeGet (defaultRouteEntry vr_id af) s = none) :
    NoReferences (internalDefaultRouteNodeAdd env vr_id af s).2 := by
  have htrees := h.toRouteTrees.internalDefaultRouteNodeAdd env hv hnone
  rcases internalDefaultRouteNodeAdd_cases env hnone with heq | heq | heq
  · rw [heq]
    exact h
  · rw [heq] at htrees ⊢
    refine ⟨⟨h.nhs, h.ids, h.vrfs, h.rifs, h.refs⟩, htrees, h.no_groups, h.no_group_tree,
      fun r => ?_⟩
    unfold Fib.route
    rw [routes_allocFree]
    exact h.no_objects r
  rw [heq] at htrees ⊢
  refine ⟨⟨h.nhs, h.ids, fun v vrf hvrf => ?_, h.rifs, h.refs⟩, htrees, h.no_groups,
    h.no_group_tree, fun r => ?_⟩
  · have htree := nhTree_modVrf (f := fun w => { w with
      sai_route_tree := Tree.insert w.sai_route_tree (defaultRouteEntry vr_id af).key
        s.routes.next }) (fun _ => rfl) s vr_id v
    obtain ⟨vrf', hvrf', hid, hnh⟩ := vrf_of_nhTree htree hvrf
    rw [← hid, ← hnh]
    exact h.vrfs v _ hvrf'
  · have hread := route_routeNodeAlloc (internalDefaultRoute vr_id af) s r
    refine (congrArg Route.nhObj hread).trans ?_
    split
    · rfl
    · exact h.no_objects r

theorem noReferences_oneRifDefaults : NoReferences oneRifDefaults := by
  have hbase : NoReferences (oneRif .port ⟨.port, 1⟩) :=
    ⟨noNextHops_oneRif _ _, routeTrees_oneRif _ _, fun g => by simp [GroupLive, oneRif, Fib.init],
      fun _ => rfl, fun _ => rfl⟩
  exact (hbase.internalDefaultRouteNodeAdd _ rfl (by decide)).internalDefaultRouteNodeAdd _
    (by decide) (by decide)

def overNextHop1 : List RouteAttr := [.nextHopId ⟨.nextHop, 1⟩]

/-- The default route gets the next hop while it is an internal node, and is then created over
the same next hop: one route, counted twice. -/
def defaultRouteTwice : Fib :=
  fibStep ⟨Env.good 1, .routeCreate ⟨⟨.virtualRouter, 1⟩, .zero4, 0⟩ overNextHop1⟩
    (fibStep ⟨Env.good 1, .routeAttributeSet ⟨⟨.virtualRouter, 1⟩, .zero4, 0⟩
        (.nextHopId ⟨.nextHop, 1⟩)⟩
      (fibStep ⟨Env.good 1, .nextHopCreate oneNhAttrs⟩ oneRifDefaults))

/-- One route is over the next hop, and it has the count two. -/
theorem not_refCounts_defaultRouteTwice :
    NoReferences oneRifDefaults ∧ ¬ RefCounts defaultRouteTwice := by
  refine ⟨noReferences_oneRifDefaults, fun h => ?_⟩
  have hcount := h.nh 1 (by rfl)
  have htwo : (defaultRouteTwice.nh 1).ref_count = 2 := by decide
  have hgroups : (defaultRouteTwice.groups.sum fun g => WList.weight g.nh_list 1) = 0 := by
    decide
  -- the only route over the next hop is the default route at address 1
  have hone : (routesOver defaultRouteTwice (.nextHop 1)).ncard ≤ 1 := by
    have hsub : routesOver defaultRouteTwice (.nextHop 1) ⊆ {1} := by
      rintro r ⟨-, hobj⟩
      have hlive : defaultRouteTwice.RouteLive r := by
        by_contra hdead
        rw [route_of_not_live hdead] at hobj
        simp [Route.zero, Route.nhObj] at hobj
      obtain ⟨a, ha⟩ := Option.isSome_iff_exists.mp hlive
      have hcases : ∀ n : Nat, n < 3 → n = 0 ∨ n = 1 ∨ n = 2 := by omega
      rcases hcases r (Heap.lt_next_of_get ha) with rfl | rfl | rfl
      · cases hobj
      · rfl
      · cases hobj
    calc (routesOver defaultRouteTwice (.nextHop 1)).ncard
        ≤ Set.ncard {1} := Set.ncard_le_ncard hsub
      _ = 1 := Set.ncard_singleton 1
  omega

theorem refCounts_of_run_routeToGroup :
    RefCounts (fibStep ⟨Env.good 1, .nextHopGroupMemberRemove ⟨.nextHopGroupMember, 0⟩⟩
      (fibStep ⟨Env.good 1, .routeAttributeSet ⟨⟨.virtualRouter, 1⟩, .ip4 0x0b000000, 8⟩
          (.nextHopId ⟨.nextHopGroup, 1⟩)⟩
        (fibStep ⟨Env.good 1, .routeCreate ⟨⟨.virtualRouter, 1⟩, .ip4 0x0b000000, 8⟩ overNextHop1⟩
          (fibStep ⟨Env.good 1, .nextHopGroupMemberCreate oneMemberAttrs⟩
            (fibStep ⟨Env.good 1, .nextHopGroupCreate [.type 0]⟩
              (fibStep ⟨Env.good 1, .nextHopCreate oneNhAttrs⟩ oneRifDefaults)))))) := by
  refine refCounts_of_run noReferences_oneRifDefaults
    (.snoc _ (.snoc _ (.snoc _ (.snoc _ (.snoc _ (.snoc _ (.nil _) (.nextHopCreate (.inr fun _ => rfl)))
      .groupCreate) (.memberCreate ⟨rfl, rfl⟩)) (.routeCreate ?_)) .routeAttributeSet) .memberRemove)
  intro r route _ hdefault
  cases hdefault

end OpxSai
