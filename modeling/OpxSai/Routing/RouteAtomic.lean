import OpxSai.Routing.VrRemove

/-!
# Routing — a route create that fails

A new route is programmed before its node goes into the tree. When the tree has no room for it, the
helper that inserts frees the node, the exit frees it again, and the NPU keeps the route. Every other
exit is clean, for a new route and for a default route that is there.

* `RouteCreateAtomic` — what a failed call must leave as it was;
* `routeCreateAtomic_iff` — it does exactly when the tree does not refuse a route that the NPU took.
-/

namespace OpxSai

open Fib

variable {env : Env} {entry : RouteEntry} {attr_list : List RouteAttr} {s t : Fib}

/-! ## The property and the condition -/

/-- What a call changes of the routes that the NPU has. -/
def npuRouteWrite (routes : Oid × List Bool → Option Route) (c : ExtCall × Status) :
    Oid × List Bool → Option Route :=
  match c with
  | (.routeCreate route, .success) | (.routeAttrSet route, .success) =>
    fun home => if home = route.home then some route else routes home
  | (.routeRemove route, .success) => fun home => if home = route.home then none else routes home
  | _ => routes

/-- The routes that are programmed in the NPU, by router and prefix. -/
def npuRoutes (s : Fib) : Oid × List Bool → Option Route :=
  s.npu_log.foldl npuRouteWrite fun _ => none

/-- All is as it was, and a node that was allocated in between has been freed once. -/
structure RouteCreateUndone (s t : Fib) : Prop where
  trees : t.vrf_tree = s.vrf_tree
  routes : ∀ r, t.routes.get r = s.routes.get r
  nhs : t.nhs = s.nhs
  groups : t.groups = s.groups
  npu : npuRoutes t = npuRoutes s
  frees : ∀ r, t.routes.frees r =
    s.routes.frees r + if s.routes.next ≤ r ∧ r < t.routes.next then 1 else 0

def RouteCreateAtomic (env : Env) (entry : RouteEntry) (attr_list : List RouteAttr) (s : Fib) : Prop :=
  (routeCreate env entry attr_list s).1 ≠ .success →
    RouteCreateUndone s (routeCreate env entry attr_list s).2

/-- A new route is programmed, and the tree does not take its node. -/
def RouteInsertRefused (env : Env) (entry : RouteEntry) (attr_list : List RouteAttr) (s : Fib) : Prop :=
  routeInputParamsValidate entry attr_list.length = .success ∧ (s.vrf entry.vr_id).isSome ∧
    routeNodeGet entry s = none ∧ env.avail .routeNode = true ∧
    (∃ route, routeAttributesParse env attr_list (routeNodeInit entry) s = .ok route ∧
      env.status (.routeCreate route) = .success) ∧
    env.avail .routeTree = false

/-! ## The exits -/

namespace RouteCreateUndone

theorem refl (s : Fib) : RouteCreateUndone s s :=
  ⟨rfl, fun _ => rfl, rfl, rfl, rfl, fun r => by rw [if_neg (by omega), Nat.add_zero]⟩

/-- A route that the NPU refuses is not programmed. -/
theorem refused (h : RouteCreateUndone s t) {route : Route}
    (hrc : env.status (.routeCreate route) ≠ .success) :
    RouteCreateUndone s (t.call env (.routeCreate route)).2 where
  trees := h.trees
  routes := h.routes
  nhs := h.nhs
  groups := h.groups
  npu := by
    rw [← h.npu]
    unfold npuRoutes call
    rw [List.foldl_append]
    generalize env.status _ = rc at hrc
    cases rc <;> first | exact absurd rfl hrc | rfl
  frees := h.frees

theorem allocFree (route : Route) (s : Fib) :
    RouteCreateUndone s (routeNodeFree s.routes.next (routeNodeAlloc route s)) where
  trees := rfl
  routes := Heap.get_free_alloc_next _ _
  nhs := rfl
  groups := rfl
  npu := rfl
  frees := fun r => by
    show (if r = s.routes.next then s.routes.frees r + 1 else s.routes.frees r) =
      s.routes.frees r + if s.routes.next ≤ r ∧ r < s.routes.next + 1 then 1 else 0
    by_cases hr : r = s.routes.next
    · rw [if_pos hr, if_pos (by omega)]
    · rw [if_neg hr, if_neg (by omega)]
      rfl

end RouteCreateUndone

theorem routeNpuCall_refused {route : Route} (hrc : env.status (.routeCreate route) ≠ .success) (s : Fib) :
    routeNpuCall env (.routeCreate route) route s =
      (env.status (.routeCreate route), route, (s.call env (.routeCreate route)).2) :=
  if_neg hrc

/-- **A default route**: every exit leaves the node as it was. -/
theorem routeCreateDefault_undone {r : Ptr} (hfail : (routeCreateDefault env attr_list r s).1 ≠ .success) :
    RouteCreateUndone s (routeCreateDefault env attr_list r s).2 := by
  unfold routeCreateDefault at hfail ⊢
  cases hparse : routeAttributesParse env attr_list ((s.route r).setPacketAction .forward) s with
  | error status => exact .refl s
  | ok route =>
    simp only [hparse] at hfail
    by_cases hrc : env.status (.routeCreate route) = .success
    · simp [routeNpuCall, call, hrc] at hfail
    dsimp only
    rw [routeNpuCall_refused hrc]
    split
    next heq => exact absurd (congrArg Prod.fst heq) hrc
    rename_i heq
    obtain ⟨-, -, rfl⟩ := heq
    exact (RouteCreateUndone.refl s).refused hrc

/-- **A new route**: every exit frees the node once and leaves the NPU without the route, but for the one
behind the tree. -/
theorem routeCreateNew_undone_iff :
    ((routeCreateNew env entry attr_list s).1 ≠ .success →
      RouteCreateUndone s (routeCreateNew env entry attr_list s).2) ↔
    ¬ (env.avail .routeNode = true ∧
      (∃ route, routeAttributesParse env attr_list (routeNodeInit entry) s = .ok route ∧
        env.status (.routeCreate route) = .success) ∧ env.avail .routeTree = false) := by
  unfold routeCreateNew
  by_cases hnode : env.avail .routeNode = true
  · rw [if_neg (by simp [hnode])]
    simp only
    rw [routeAttributesParse_congr (s := s) (t := routeNodeAlloc (routeNodeInit entry) s) rfl rfl]
    have hfreed := RouteCreateUndone.allocFree (routeNodeInit entry) s
    cases hparse : routeAttributesParse env attr_list (routeNodeInit entry) s with
    | error status => exact iff_of_true (fun _ => hfreed) (by simp)
    | ok route =>
      by_cases hrc : env.status (.routeCreate route) = .success
      · have hnpu : routeNpuCall env (.routeCreate route) route (routeNodeAlloc (routeNodeInit entry) s) =
            (.success, route.setHwInfo (env.hw_info (.routeCreate route) route.hw_info),
              ((routeNodeAlloc (routeNodeInit entry) s).call env (.routeCreate route)).2) :=
          (if_pos hrc).trans (by rw [show (call env (.routeCreate route) _).1 = _ from hrc])
        simp only [hnpu]
        cases htree : env.avail .routeTree with
        | true => exact iff_of_true (fun hno => absurd rfl hno) (by simp)
        | false =>
          refine iff_of_false (fun hall => ?_) (by simp [hnode, hrc])
          -- the node has been freed twice
          have hfrees := (hall (by simp)).frees s.routes.next
          simp [routeNodeFree, routeNodeAlloc, call, modRoute, Heap.free, Heap.modify, Heap.alloc,
            Heap.next] at hfrees
      · refine iff_of_true (fun _ => ?_) (by simp [hrc])
        dsimp only
        rw [routeNpuCall_refused hrc]
        split
        next heq => exact absurd (congrArg Prod.fst heq) hrc
        rename_i heq
        obtain ⟨-, -, rfl⟩ := heq
        exact hfreed.refused hrc
  · exact iff_of_true (fun _ => by rw [if_pos (by simp [hnode])]; exact .refl s) (by simp [hnode])

/-- **A failed route create changes nothing** exactly when it is not one whose node the tree refuses
after the NPU has taken the route. -/
theorem routeCreateAtomic_iff (env : Env) (entry : RouteEntry) (attr_list : List RouteAttr) (s : Fib) :
    RouteCreateAtomic env entry attr_list s ↔ ¬ RouteInsertRefused env entry attr_list s := by
  unfold RouteCreateAtomic RouteInsertRefused routeCreate
  by_cases hparams : routeInputParamsValidate entry attr_list.length = .success
  · simp only [hparams]
    rw [if_neg (by simp)]
    cases hvrf : s.vrf entry.vr_id with
    | none => exact iff_of_true (fun _ => .refl s) (by simp)
    | some vrf =>
      cases hget : routeNodeGet entry s with
      | none =>
        refine routeCreateNew_undone_iff.trans (not_congr ?_)
        simp
      | some r =>
        refine iff_of_true ?_ (by simp)
        dsimp only
        split
        · exact fun _ => .refl s
        split
        · exact fun _ => .refl s
        · exact routeCreateDefault_undone
  · refine iff_of_true (fun _ => ?_) (by simp [hparams])
    rw [if_pos hparams]
    exact .refl s

/-- A route of the virtual router, that the tree does not take. -/
theorem not_routeCreateAtomic :
    FibRun (fun _ _ => True) (Fib.init 4) oneVr ∧
      ¬ RouteCreateAtomic { Env.good 1 with avail := fun a => a ≠ .routeTree }
        ⟨⟨.virtualRouter, 1⟩, .ip4 10, 8⟩ [.packetAction 0] oneVr := by
  refine ⟨.snoc (⟨Env.good 1, .virtualRouterCreate []⟩ : Call) (.nil _) trivial, fun h => ?_⟩
  have hfrees := (h (by decide)).frees oneVr.routes.next
  revert hfrees
  decide

end OpxSai
