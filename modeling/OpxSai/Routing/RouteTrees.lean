import OpxSai.Routing.NodeLifetime
import OpxSai.Routing.Route

/-!
# Routing — routes and their trees

A route node is in the route tree of its VRF under its radix key, and a tree entry leads to a
live node with that VRF and that key. The route calls keep this: an ordinary route comes with
its entry and goes with it, and the default route stays with its entry, except that a request
for a prefix of length zero with a non-zero address has the radix key of the default route.

* `routeAttributesParse_ok` — what an accepted attribute list can change in a route.
-/

namespace OpxSai

open Fib
variable {q : Ptr} {s : Fib} {vr_id : Oid} {af : IpAddress} {attr_list : List RouteAttr}
variable {t : Fib} {env : Env}

/-! ## Where a route is found -/

def Route.home (r : Route) : Oid × List Bool := (r.vrf_id, routeKey r.prefix_ip r.prefix_len)

variable {route' : Route} {route : Route}

structure SameHomes (s t : Fib) : Prop where
  routes : ∀ r, (t.routes.get r).map Route.home = (s.routes.get r).map Route.home
  vrfs : ∀ v, (t.vrf v).map Vrf.sai_route_tree = (s.vrf v).map Vrf.sai_route_tree

theorem SameHomes.trans {u} (h : SameHomes s t) (k : SameHomes t u) : SameHomes s u :=
  ⟨fun r => (k.routes r).trans (h.routes r), fun v => (k.vrfs v).trans (h.vrfs v)⟩

theorem SameHomes.of_core (h : t.core = s.core) : SameHomes s t where
  routes := routes_get_of_core (fun _ => rfl) h
  vrfs := fun v => by
    unfold Fib.vrf
    rw [vrf_tree_of_core h]

theorem SameHomes.modRoute {f : Route → Route} (s) (r)
    (hf : (f (s.route r)).home = (s.route r).home) : SameHomes s (s.modRoute r f) where
  routes := by
    intro q
    have hmap : (s.routes.modify r f).map Route.home = s.routes.map Route.home := by
      refine Heap.map_modify_of_get fun a ha => ?_
      rw [route_of_get ha] at hf
      exact hf
    exact congrArg (fun k => Heap.get k q) hmap
  vrfs := fun _ => rfl

theorem SameHomes.live (h : SameHomes s t) (r) :
    t.RouteLive r ↔ s.RouteLive r :=
  routeLive_of_get_map (h.routes r)

theorem SameHomes.home (h : SameHomes s t) (r) :
    (t.route r).home = (s.route r).home :=
  route_of_get_map (h.routes r)

structure RouteTrees (s : Fib) : Prop where
  route_keyed : ∀ v vrf, s.vrf v = some vrf → Tree.Keyed vrf.sai_route_tree
  route_node : ∀ v vrf key r, s.vrf v = some vrf → (key, r) ∈ vrf.sai_route_tree →
    s.RouteLive r ∧ (s.route r).home = (v, key)
  route_entry : ∀ r, s.RouteLive r → ∃ vrf, s.vrf (s.route r).home.1 = some vrf ∧
    ((s.route r).home.2, r) ∈ vrf.sai_route_tree

/-- The route `r` is in the tree of some virtual router. -/
def IsRoute (s : Fib) (r : Ptr) : Prop :=
  ∃ v vrf key, s.vrf v = some vrf ∧ (key, r) ∈ vrf.sai_route_tree

section RouteTrees

variable {r : Ptr}

theorem RouteTrees.isRoute_iff (h : RouteTrees s) (r) : IsRoute s r ↔ s.RouteLive r := by
  constructor
  · rintro ⟨v, vrf, key, hv, hmem⟩
    exact (h.route_node v vrf key r hv hmem).1
  · intro hr
    obtain ⟨vrf, hv, hmem⟩ := h.route_entry r hr
    exact ⟨_, vrf, _, hv, hmem⟩

theorem RouteTrees.of_same (h : RouteTrees s) (hsame : SameHomes s t) : RouteTrees t := by
  refine ⟨fun v vrf hv => ?_, fun v vrf key r hv hmem => ?_, fun r hr => ?_⟩
  · obtain ⟨vrf', hv', htree⟩ := Option.map_eq_some_iff.mp
      ((hsame.vrfs v).symm.trans (congrArg (Option.map Vrf.sai_route_tree) hv))
    rw [← htree]
    exact h.route_keyed v _ hv'
  · obtain ⟨vrf', hv', htree⟩ := Option.map_eq_some_iff.mp
      ((hsame.vrfs v).symm.trans (congrArg (Option.map Vrf.sai_route_tree) hv))
    rw [← htree] at hmem
    rw [hsame.live, hsame.home]
    exact h.route_node v _ key r hv' hmem
  · rw [hsame.live] at hr
    rw [hsame.home]
    obtain ⟨vrf, hv, hmem⟩ := h.route_entry r hr
    obtain ⟨vrf', hv', htree⟩ := Option.map_eq_some_iff.mp
      ((hsame.vrfs _).trans (congrArg (Option.map Vrf.sai_route_tree) hv))
    exact ⟨vrf', hv', htree ▸ hmem⟩

theorem RouteTrees.of_core (h : RouteTrees s) (hcore : t.core = s.core) : RouteTrees t :=
  h.of_same (SameHomes.of_core hcore)

theorem RouteTrees.nodeGet (h : RouteTrees s) {entry}
    (hget : routeNodeGet entry s = some r) :
    s.RouteLive r ∧ (s.route r).home = (entry.vr_id, entry.key) := by
  unfold routeNodeGet at hget
  obtain ⟨vrf, hv, hfind⟩ := Option.bind_eq_some_iff.mp hget
  exact h.route_node _ vrf _ r hv (Tree.mem_of_find hfind)

theorem RouteTrees.home_inj (h : RouteTrees s) (hr : s.RouteLive r)
    (hq : s.RouteLive q) (hhome : (s.route r).home = (s.route q).home) : r = q := by
  obtain ⟨vrf, hv, hmem⟩ := h.route_entry r hr
  obtain ⟨vrf', hv', hmem'⟩ := h.route_entry q hq
  rw [hhome] at hv hmem
  obtain rfl := Option.some.inj (hv.symm.trans hv')
  exact (h.route_keyed _ vrf hv).eq_of_key hmem hmem'

/-! ## How a route comes and goes -/

theorem routeLive_routeNodeAlloc {route} (q) :
    (routeNodeAlloc route s).RouteLive q ↔ q = s.routes.next ∨ s.RouteLive q := by
  unfold RouteLive routeNodeAlloc
  simp only [Heap.get_alloc]
  split
  next hq => simp [hq]
  next hq => simp [hq]

theorem route_routeNodeAlloc (route) (s) (q) :
    (routeNodeAlloc route s).route q = if q = s.routes.next then route else s.route q := by
  unfold Fib.route routeNodeAlloc
  simp only [Heap.get_alloc]
  split <;> rfl

theorem not_routeLive_next : ¬ s.RouteLive s.routes.next := by
  simp [RouteLive]

theorem routeLive_routeNodeFree {r} (s) :
    (routeNodeFree r s).RouteLive q ↔ q ≠ r ∧ s.RouteLive q := by
  unfold RouteLive routeNodeFree
  simp only [Heap.get_free]
  split
  next hq => simp [hq]
  next hq => simp [hq]

theorem route_routeNodeFree_of_ne (hq : q ≠ r) (s) :
    (routeNodeFree r s).route q = s.route q := by
  unfold Fib.route routeNodeFree
  simp only [Heap.get_free_of_ne _ hq]

theorem RouteTrees.insert (h : RouteTrees s) (route) {vrf}
    (hv : s.vrf route.home.1 = some vrf)
    (hfind : Tree.find vrf.sai_route_tree route.home.2 = none) :
    RouteTrees (vrfRouteTreeInsert route.home.1 route.home.2 s.routes.next
      (routeNodeAlloc route s)) := by
  have hread : ∀ q, (vrfRouteTreeInsert route.home.1 route.home.2 s.routes.next
      (routeNodeAlloc route s)).route q = if q = s.routes.next then route else s.route q :=
    route_routeNodeAlloc _ s
  have hlive : ∀ q, (vrfRouteTreeInsert route.home.1 route.home.2 s.routes.next
      (routeNodeAlloc route s)).RouteLive q ↔ q = s.routes.next ∨ s.RouteLive q :=
    routeLive_routeNodeAlloc
  have hvrf : ∀ v, (vrfRouteTreeInsert route.home.1 route.home.2 s.routes.next
      (routeNodeAlloc route s)).vrf v = if v = route.home.1 then
        (s.vrf v).map fun w => { w with
          sai_route_tree := Tree.insert w.sai_route_tree route.home.2 s.routes.next }
      else s.vrf v := fun v => vrf_modVrf _ _ _ v
  -- a node that was there is at another address than the new one
  have hold : ∀ q, s.RouteLive q → q ≠ s.routes.next := fun q hq heq =>
    not_routeLive_next (heq ▸ hq)
  refine ⟨fun v w hw => ?_, fun v w key q hw hmem => ?_, fun q hq => ?_⟩
  · rw [hvrf] at hw
    split at hw
    next hvid =>
      rw [hvid, hv] at hw
      cases hw
      exact (h.route_keyed _ vrf hv).insert _ hfind
    · exact h.route_keyed v w hw
  · rw [hvrf] at hw
    have hkept : (∃ w', s.vrf v = some w' ∧ (key, q) ∈ w'.sai_route_tree) →
        (vrfRouteTreeInsert route.home.1 route.home.2 s.routes.next
          (routeNodeAlloc route s)).RouteLive q ∧
        ((vrfRouteTreeInsert route.home.1 route.home.2 s.routes.next
          (routeNodeAlloc route s)).route q).home = (v, key) := by
      rintro ⟨w', hw', hin⟩
      obtain ⟨hl, hhome⟩ := h.route_node v w' key q hw' hin
      rw [hlive, hread, if_neg (hold q hl)]
      exact ⟨.inr hl, hhome⟩
    split at hw
    next hvid =>
      obtain ⟨w', hw', rfl⟩ := Option.map_eq_some_iff.mp hw
      rcases Tree.mem_insert.mp hmem with hin | hnew
      · exact hkept ⟨w', hw', hin⟩
      cases hnew
      rw [hlive, hread, if_pos rfl, hvid]
      exact ⟨.inl rfl, rfl⟩
    · exact hkept ⟨w, hw, hmem⟩
  · rw [hlive] at hq
    by_cases hqn : q = s.routes.next
    · rw [hread, if_pos hqn, hvrf, if_pos rfl, hv]
      exact ⟨_, rfl, Tree.mem_insert.mpr (.inr (by rw [hqn]))⟩
    rw [hread, if_neg hqn, hvrf]
    obtain ⟨w, hw, hmem⟩ := h.route_entry q (hq.resolve_left hqn)
    split
    · rw [hw]
      exact ⟨_, rfl, Tree.mem_insert.mpr (.inl hmem)⟩
    · exact ⟨w, hw, hmem⟩

theorem RouteTrees.remove (h : RouteTrees s) {v} {key}
    (hr : s.RouteLive r) (hhome : (s.route r).home = (v, key)) :
    RouteTrees (routeNodeFree r (vrfRouteTreeRemove v key s)) := by
  have hread : ∀ q, q ≠ r → (routeNodeFree r (vrfRouteTreeRemove v key s)).route q = s.route q :=
    fun q hq => route_routeNodeFree_of_ne hq _
  have hlive : ∀ q, (routeNodeFree r (vrfRouteTreeRemove v key s)).RouteLive q ↔
      q ≠ r ∧ s.RouteLive q := fun q => routeLive_routeNodeFree _
  have hvrf : ∀ u, (routeNodeFree r (vrfRouteTreeRemove v key s)).vrf u = if u = v then
        (s.vrf u).map fun w => { w with sai_route_tree := Tree.erase w.sai_route_tree key }
      else s.vrf u := fun u => vrf_modVrf _ _ _ u
  refine ⟨fun u w hw => ?_, fun u w k q hw hmem => ?_, fun q hq => ?_⟩
  · rw [hvrf] at hw
    split at hw
    · obtain ⟨w', hw', rfl⟩ := Option.map_eq_some_iff.mp hw
      exact (h.route_keyed u w' hw').erase key
    · exact h.route_keyed u w hw
  · rw [hvrf] at hw
    -- an entry that is left is not the one of `r`
    have hkept : ∀ w', s.vrf u = some w' → (k, q) ∈ w'.sai_route_tree → (u = v → k ≠ key) →
        (routeNodeFree r (vrfRouteTreeRemove v key s)).RouteLive q ∧
        ((routeNodeFree r (vrfRouteTreeRemove v key s)).route q).home = (u, k) := by
      intro w' hw' hin hk
      obtain ⟨hl, hq⟩ := h.route_node u w' k q hw' hin
      have hne : q ≠ r := by
        rintro rfl
        rw [hhome] at hq
        cases hq
        exact hk rfl rfl
      rw [hlive, hread q hne]
      exact ⟨⟨hne, hl⟩, hq⟩
    split at hw
    · obtain ⟨w', hw', rfl⟩ := Option.map_eq_some_iff.mp hw
      obtain ⟨hin, hk⟩ := Tree.mem_erase.mp hmem
      exact hkept w' hw' hin fun _ => hk
    next hu => exact hkept w hw hmem fun heq => absurd heq hu
  · obtain ⟨hne, hl⟩ := (hlive q).mp hq
    obtain ⟨w, hw, hmem⟩ := h.route_entry q hl
    rw [hread q hne, hvrf]
    split
    next hu =>
      rw [hw]
      refine ⟨_, rfl, Tree.mem_erase.mpr ⟨hmem, fun hk => hne ?_⟩⟩
      refine h.home_inj hl hr ?_
      rw [hhome]
      exact Prod.ext hu hk
    · exact ⟨w, hw, hmem⟩

theorem routes_allocFree (route) (s) (q) :
    (routeNodeFree s.routes.next (routeNodeAlloc route s)).routes.get q = s.routes.get q := by
  unfold routeNodeFree routeNodeAlloc
  simp only [Heap.get_free, Heap.get_alloc]
  split
  next hq => rw [hq, Heap.get_next]
  · rfl

theorem internalDefaultRouteNodeAdd_cases (env)
    (hnone : routeNodeGet (defaultRouteEntry vr_id af) s = none) :
    (internalDefaultRouteNodeAdd env vr_id af s).2 = s ∨
      (internalDefaultRouteNodeAdd env vr_id af s).2 = routeNodeFree s.routes.next
        (routeNodeAlloc (internalDefaultRoute vr_id af) s) ∨
      (internalDefaultRouteNodeAdd env vr_id af s).2 = vrfRouteTreeInsert vr_id
        (defaultRouteEntry vr_id af).key s.routes.next
        (routeNodeAlloc (internalDefaultRoute vr_id af) s) := by
  unfold internalDefaultRouteNodeAdd
  split
  · exact .inl rfl
  simp only
  split
  · exact .inr (.inl rfl)
  have hget : routeNodeGet (defaultRouteEntry vr_id af)
      (routeNodeAlloc (internalDefaultRoute vr_id af) s) = none := hnone
  rw [hget]
  exact .inr (.inr rfl)

theorem RouteTrees.internalDefaultRouteNodeAdd (h : RouteTrees s) (env) (hv : (s.vrf vr_id).isSome)
    (hnone : routeNodeGet (defaultRouteEntry vr_id af) s = none) :
    RouteTrees (internalDefaultRouteNodeAdd env vr_id af s).2 := by
  rcases internalDefaultRouteNodeAdd_cases env hnone with heq | heq | heq
  · rw [heq]
    exact h
  · rw [heq]
    exact h.of_same ⟨fun q => by rw [routes_allocFree], fun _ => rfl⟩
  obtain ⟨vrf, hvrf⟩ := Option.isSome_iff_exists.mp hv
  rw [heq]
  refine h.insert _ hvrf ?_
  unfold routeNodeGet at hnone
  change (s.vrf vr_id).bind _ = none at hnone
  rw [hvrf, Option.bind_some] at hnone
  exact hnone

end RouteTrees

/-! ## Requests -/

/-- What an accepted attribute list leaves of a route, and where its next hop object is from. -/
structure RouteParsed (s : Fib) (route route' : Route) : Prop where
  home : route'.home = route.home
  entry : (route'.prefix_ip, route'.prefix_len) = (route.prefix_ip, route.prefix_len)
  hw : route'.hw_info = route.hw_info
  deps : route'.dep_encap_nh_list = route.dep_encap_nh_list
  obj : (route'.nh_type = route.nh_type ∧ route'.nh_info = route.nh_info) ∨
    (∃ oid n, s.nh_id_tree oid = some n ∧ route'.nhObj = .nextHop n) ∨
    ∃ oid g, s.nh_group_tree oid = some g ∧ route'.nhObj = .nextHopGroup g

theorem RouteParsed.refl (s) (route) : RouteParsed s route route :=
  ⟨rfl, rfl, rfl, rfl, .inl ⟨rfl, rfl⟩⟩

theorem routeAttrSet_parsed {route₀} {attr} (h : RouteParsed s route₀ route)
    (hset : routeAttrSet env s route attr = .ok route') : RouteParsed s route₀ route' := by
  unfold routeAttrSet at hset
  cases attr with
  | nextHopId oid =>
    simp only [routeNhIdAttrSet] at hset
    split at hset
    · split at hset
      · simp at hset
      rename_i n hn
      cases hset
      exact ⟨h.home, h.entry, h.hw, h.deps, .inr (.inl ⟨oid, n, hn, rfl⟩)⟩
    · split at hset
      · simp at hset
      rename_i g hg
      cases hset
      exact ⟨h.home, h.entry, h.hw, h.deps, .inr (.inr ⟨oid, g, hg, rfl⟩)⟩
    · simp at hset
  | packetAction s32 =>
    simp only at hset
    split at hset
    · simp at hset
    · cases hset
      exact ⟨h.home, h.entry, h.hw, h.deps, h.obj⟩
  | trapPriority u8 =>
    cases hset
    exact ⟨h.home, h.entry, h.hw, h.deps, h.obj⟩
  | metaData u32 =>
    simp only at hset
    split at hset
    · simp at hset
    split at hset
    · simp at hset
    · cases hset
      exact ⟨h.home, h.entry, h.hw, h.deps, h.obj⟩
  | other id => simp at hset

theorem routeAttributesParse_ok (h : routeAttributesParse env attr_list route s = .ok route') :
    RouteParsed s route route' ∧ (route'.packet_action.isForward = true → route'.nh_type ≠ .none) := by
  unfold routeAttributesParse at h
  split at h
  · simp at h
  rename_i parsed hparse
  have hkept := attrListParse_keeps (P := RouteParsed s route)
    (fun _ _ _ hkept hset => routeAttrSet_parsed hkept hset) (RouteParsed.refl s _) hparse
  split at h
  · simp at h
  rename_i hmissing
  cases h
  exact ⟨hkept, fun hfwd hnone => hmissing ⟨hfwd, hnone⟩⟩

theorem routeAttributesParse_congr
    (hids : t.nh_id_tree = s.nh_id_tree) (hgroups : t.nh_group_tree = s.nh_group_tree) :
    routeAttributesParse env attr_list route t = routeAttributesParse env attr_list route s := by
  have hset : routeAttrSet env t = routeAttrSet env s := by
    funext route attr
    unfold routeAttrSet routeNhIdAttrSet
    rw [hids, hgroups]
  unfold routeAttributesParse
  rw [hset]

end OpxSai
