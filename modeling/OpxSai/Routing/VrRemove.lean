import OpxSai.Routing.LagRifMap
import OpxSai.Routing.RouteHomes

/-!
# Routing — a virtual router remove that fails

`virtualRouterRemove` takes the default routes out of the route tree before it looks whether
the virtual router is in use, and puts new ones in when it may not go. So a failed remove
leaves everything as it was exactly when the new nodes cannot be told from the old ones: both
default routes are still as they were made with the virtual router, there is room for two new
nodes, and no encap next hop resolves through the old ones.

* `vrRemoveAtomic_iff` — the two are the same, in every state of every run.
-/

namespace OpxSai

open Fib

/-! ## The property -/

/-- No encap next hop resolves through a route that has been freed; `brk` bounds the addresses
that were handed out. -/
def LpmRoutesLive (brk : Ptr) (s : Fib) : Prop :=
  ∀ e r, (s.nh e).lpm_route = some r → r < brk → s.RouteLive r

/-- The routes of every tree with all they hold, and what is counted, are as they were. -/
structure VrUnchanged (s t : Fib) : Prop where
  routes : ∀ v key, t.routeAt v key = s.routeAt v key
  nhs : ∀ n, (t.nh n).ref_count = (s.nh n).ref_count
  groups : ∀ g, (t.group g).ref_count = (s.group g).ref_count
  lpm : LpmRoutesLive s.routes.next t

def VrRemoveAtomic (env : Env) (vr_id : Oid) (s : Fib) : Prop :=
  (virtualRouterRemove env vr_id s).1 ≠ .success →
    VrUnchanged s (virtualRouterRemove env vr_id s).2

/-! ## The condition -/

/-- The virtual router may not go: it is in use, or the NPU keeps it. -/
def VrRemoveRefused (env : Env) (vrf : Vrf) : Prop :=
  VrInUse vrf.withoutDefaults ∨ env.status (.vrRemove vrf.withoutDefaults) ≠ .success

/-- The default routes are put in again: not when the NPU does not know the virtual router. -/
def VrDefaultsAgain (env : Env) (vrf : Vrf) : Prop :=
  VrInUse vrf.withoutDefaults ∨ env.status (.vrRemove vrf.withoutDefaults) ≠ .invalidObjectId

instance (env : Env) (vrf : Vrf) : Decidable (VrRemoveRefused env vrf) :=
  inferInstanceAs (Decidable (_ ∨ _))

instance (env : Env) (vrf : Vrf) : Decidable (VrDefaultsAgain env vrf) :=
  inferInstanceAs (Decidable (_ ∨ _))

/-- The default route of a family is what the remove will put in its place, and no encap next
hop resolves through it. -/
structure DefaultRouteUntouched (env : Env) (vr_id : Oid) (vrf : Vrf) (af : IpAddress)
    (s : Fib) : Prop where
  route : s.routeAt vr_id (defaultRouteKey af) =
    if VrDefaultsAgain env vrf ∧ defaultRouteReady env af = true then
      some (internalDefaultRoute vr_id af)
    else none
  lpm : ∀ e, (s.nh e).lpm_route = none ∨
    (s.nh e).lpm_route ≠ s.routeNodeAt vr_id (defaultRouteKey af)

def VrRemoveClean (env : Env) (vr_id : Oid) (s : Fib) : Prop :=
  (vr_id.type ≠ .virtualRouter ∨ (∀ vrf, s.vrf vr_id = some vrf → VrRemoveRefused env vrf) →
    LpmRoutesLive s.routes.next s) ∧
  (vr_id.type = .virtualRouter → ∀ vrf, s.vrf vr_id = some vrf → VrRemoveRefused env vrf →
    DefaultRouteUntouched env vr_id vrf .zero4 s ∧ DefaultRouteUntouched env vr_id vrf .zero6 s)

/-! ## The two are the same -/

section Atomic

variable {env : Env} {s t u : Fib} {vr_id : Oid} {vrf : Vrf}

theorem VrUnchanged.refl (h : LpmRoutesLive s.routes.next s) : VrUnchanged s s :=
  ⟨fun _ _ => rfl, fun _ => rfl, fun _ => rfl, h⟩

theorem nh_of_nhs (h : t.nhs = s.nhs) (p : Ptr) : t.nh p = s.nh p := by
  unfold Fib.nh
  rw [h]

theorem group_of_groups (h : t.groups = s.groups) (g : Ptr) : t.group g = s.group g := by
  unfold Fib.group
  rw [h]

/-- What a failed remove leaves: the default routes are gone, and may have come again. -/
structure VrRemoveLeft (env : Env) (s t : Fib) (vr_id : Oid) (vrf : Vrf) : Prop where
  default : ∀ af, af = .zero4 ∨ af = .zero6 → t.routeAt vr_id (defaultRouteKey af) =
    if VrDefaultsAgain env vrf ∧ defaultRouteReady env af = true then
      some (internalDefaultRoute vr_id af)
    else none
  route : ∀ v k, ¬ (v = vr_id ∧ (k = defaultRouteKey .zero4 ∨ k = defaultRouteKey .zero6)) →
    t.routeAt v k = s.routeAt v k
  live : ∀ q, q < s.routes.next → (t.RouteLive q ↔ s.RouteLive q ∧
    s.routeNodeAt vr_id (defaultRouteKey .zero4) ≠ some q ∧
    s.routeNodeAt vr_id (defaultRouteKey .zero6) ≠ some q)
  nhs : t.nhs = s.nhs
  groups : t.groups = s.groups

theorem DefaultRoutesGone.left (hgone : DefaultRoutesGone s t vr_id vrf)
    (hagain : ¬ VrDefaultsAgain env vrf) : VrRemoveLeft env s t vr_id vrf where
  default := fun af haf => by
    rw [if_neg fun hand => hagain hand.1, hgone.route, if_pos]
    exact ⟨rfl, haf.imp (congrArg _) (congrArg _)⟩
  route := fun v k hkey => by rw [hgone.route, if_neg hkey]
  live := fun q _ => hgone.live q
  nhs := hgone.nhs
  groups := hgone.groups

theorem DefaultRoutesMade.left (hgone : DefaultRoutesGone s t vr_id vrf)
    (hmade : DefaultRoutesMade env t u vr_id) (hagain : VrDefaultsAgain env vrf) :
    VrRemoveLeft env s u vr_id vrf where
  default := fun af haf => by
    simp only [hagain, true_and]
    rcases haf with rfl | rfl
    · exact hmade.route4
    · exact hmade.route6
  route := fun v k hkey => by rw [hmade.route v k hkey, hgone.route, if_neg hkey]
  live := fun q hq => by
    rw [hmade.live q (by rw [hgone.next]; exact hq)]
    exact hgone.live q
  nhs := hmade.nhs.trans hgone.nhs
  groups := hmade.groups.trans hgone.groups

theorem virtualRouterRemove_refused (h : RouteState s) (htype : vr_id.type = .virtualRouter)
    (hv : s.vrf vr_id = some vrf) (hrefused : VrRemoveRefused env vrf) :
    (virtualRouterRemove env vr_id s).1 ≠ .success ∧
      VrRemoveLeft env s (virtualRouterRemove env vr_id s).2 vr_id vrf := by
  obtain ⟨t, hstate, hgone, heq⟩ := virtualRouterRemove_cases h env htype hv
  have hmade := (vrfDefaultRouteAdd_made hstate env hgone.vrf
    ((hgone.node _ _).trans (if_pos ⟨rfl, .inl rfl⟩))
    ((hgone.node _ _).trans (if_pos ⟨rfl, .inr rfl⟩))).2
  rw [heq]
  by_cases huse : VrInUse vrf.withoutDefaults
  · rw [if_pos huse]
    exact ⟨by simp, hmade.left hgone (.inl huse)⟩
  have hnpu := hrefused.resolve_left huse
  rw [if_neg huse, if_neg hnpu]
  by_cases hid : env.status (.vrRemove vrf.withoutDefaults) = .invalidObjectId
  · rw [if_pos hid]
    refine ⟨by simp, hgone.left fun hagain => ?_⟩
    exact (hagain.resolve_left huse) hid
  · rw [if_neg hid]
    exact ⟨hnpu, hmade.left hgone (.inr hid)⟩

/-- Left as it was, in terms of the state before. -/
theorem VrRemoveLeft.unchanged_iff (hleft : VrRemoveLeft env s t vr_id vrf) (hs : RouteTrees s) :
    VrUnchanged s t ↔ LpmRoutesLive s.routes.next s ∧
      DefaultRouteUntouched env vr_id vrf .zero4 s ∧
      DefaultRouteUntouched env vr_id vrf .zero6 s := by
  have hroute4 := hleft.default _ (.inl rfl)
  have hroute6 := hleft.default .zero6 (.inr rfl)
  have hnh := nh_of_nhs hleft.nhs
  constructor
  · intro h
    have hlive : ∀ e r, (s.nh e).lpm_route = some r → r < s.routes.next → s.RouteLive r ∧
        s.routeNodeAt vr_id (defaultRouteKey .zero4) ≠ some r ∧
        s.routeNodeAt vr_id (defaultRouteKey .zero6) ≠ some r := by
      intro e r hr hlt
      rw [← hnh] at hr
      exact (hleft.live r hlt).mp (h.lpm e r hr hlt)
    have hold : LpmRoutesLive s.routes.next s := fun e r hr hlt => (hlive e r hr hlt).1
    have huntouched : ∀ af, af = .zero4 ∨ af = .zero6 →
        DefaultRouteUntouched env vr_id vrf af s := by
      intro af haf
      refine ⟨(h.routes _ _).symm.trans (hleft.default af haf), fun e => ?_⟩
      cases hr : (s.nh e).lpm_route with
      | none => exact .inl rfl
      | some r =>
        refine .inr fun hat => ?_
        -- the default route is live, so its address has been handed out
        have hlt : r < s.routes.next := by
          obtain ⟨a, ha⟩ := Option.isSome_iff_exists.mp (hs.routeNodeAt_eq_some.mp hat.symm).1
          exact Heap.lt_next_of_get ha
        obtain ⟨-, h4, h6⟩ := hlive e r hr hlt
        rcases haf with rfl | rfl
        · exact h4 hat.symm
        · exact h6 hat.symm
    exact ⟨hold, huntouched .zero4 (.inl rfl), huntouched .zero6 (.inr rfl)⟩
  · rintro ⟨hlpm, h4, h6⟩
    refine ⟨fun v k => ?_, fun n => by rw [hnh], fun g => by rw [group_of_groups hleft.groups],
      fun e r hr hlt => ?_⟩
    · by_cases hkey : v = vr_id ∧ (k = defaultRouteKey .zero4 ∨ k = defaultRouteKey .zero6)
      · obtain ⟨rfl, rfl | rfl⟩ := hkey
        · exact hroute4.trans h4.route.symm
        · exact hroute6.trans h6.route.symm
      · exact hleft.route v k hkey
    · rw [hnh] at hr
      have hne : ∀ af, DefaultRouteUntouched env vr_id vrf af s →
          s.routeNodeAt vr_id (defaultRouteKey af) ≠ some r := by
        intro af haf hat
        rcases haf.lpm e with hnone | hne
        · rw [hnone] at hr
          simp at hr
        · exact hne (hr.trans hat.symm)
      exact (hleft.live r hlt).mpr ⟨hlpm e r hr hlt, hne _ h4, hne _ h6⟩

theorem vrRemoveAtomic_iff_clean (hs : RouteState s) :
    VrRemoveAtomic env vr_id s ↔ VrRemoveClean env vr_id s := by
  unfold VrRemoveAtomic VrRemoveClean
  by_cases htype : vr_id.type = .virtualRouter
  · cases hv : s.vrf vr_id with
    | none =>
      have hrun : virtualRouterRemove env vr_id s = (.invalidObjectId, s) := by
        unfold virtualRouterRemove
        rw [if_ok htype, hv]
      rw [hrun]
      constructor
      · exact fun h => ⟨fun _ => (h (by simp)).lpm, by simp⟩
      · exact fun h _ => .refl (h.1 (.inr (by simp)))
    | some vrf =>
      by_cases hrefused : VrRemoveRefused env vrf
      · obtain ⟨hfail, hleft⟩ := virtualRouterRemove_refused hs htype hv hrefused
        rw [forall_prop_of_true hfail, hleft.unchanged_iff hs.toRouteTrees]
        simp [htype, hrefused]
      have hdone : (virtualRouterRemove env vr_id s).1 = .success := by
        obtain ⟨t, -, -, heq⟩ := virtualRouterRemove_cases hs env htype hv
        unfold VrRemoveRefused at hrefused
        simp only [not_or, not_not] at hrefused
        rw [heq, if_neg hrefused.1, if_pos hrefused.2]
      simp [htype, hrefused, hdone]
  · have hrun : virtualRouterRemove env vr_id s = (.invalidObjectType, s) := by
      unfold virtualRouterRemove
      rw [if_pos htype]
    rw [hrun]
    constructor
    · exact fun h => ⟨fun _ => (h (by simp)).lpm, fun ht => absurd ht htype⟩
    · exact fun h _ => .refl (h.1 (.inl htype))

end Atomic

/-! ## Every reachable state -/

variable {s t : Fib} in
/-- **Virtual router remove**, in every state that calls of any kind lead to. -/
theorem vrRemoveAtomic_iff (hs : NoRoutes s) (hrun : FibRun (fun _ _ => True) s t) (env : Env)
    (vr_id : Oid) : VrRemoveAtomic env vr_id t ↔ VrRemoveClean env vr_id t :=
  vrRemoveAtomic_iff_clean (routeState_of_run hs hrun)

/-- A router interface on port 1, and the default route of the virtual router trapping. -/
def trappingDefault : Fib :=
  fibStep ⟨Env.good 1, .routeCreate ⟨⟨.virtualRouter, 1⟩, .zero4, 0⟩ [.packetAction 4]⟩
    (fibStep ⟨Env.good 1, .routerInterfaceCreate .null
      [.virtualRouterId ⟨.virtualRouter, 1⟩, .type 0, .portId ⟨.port, 1⟩]⟩ oneVr)

/-- The remove is refused because of the router interface, and the default route drops. -/
theorem not_vrRemoveAtomic_trapping :
    FibRun (fun _ _ => True) (Fib.init 4) trappingDefault ∧
      (virtualRouterRemove (Env.good 1) ⟨.virtualRouter, 1⟩ trappingDefault).1 = .objectInUse ∧
      ¬ VrRemoveAtomic (Env.good 1) ⟨.virtualRouter, 1⟩ trappingDefault := by
  refine ⟨.snoc _ (.snoc _ (.snoc _ (.nil _) trivial) trivial) trivial, by decide, fun h => ?_⟩
  have hroute := (h (by decide)).routes ⟨.virtualRouter, 1⟩ (defaultRouteKey .zero4)
  revert hroute
  decide

def vrKept : Env :=
  { Env.good 1 with
    status := fun c => match c with
      | .vrRemove _ => .failure
      | _ => .success }

theorem vrRemoveAtomic_iff_vrKept :
    (virtualRouterRemove vrKept ⟨.virtualRouter, 1⟩ oneVr).1 = .failure ∧
      VrRemoveAtomic vrKept ⟨.virtualRouter, 1⟩ oneVr := by
  have hrun : FibRun (fun _ _ => True) (Fib.init 4) oneVr :=
    .snoc (⟨Env.good 1, .virtualRouterCreate []⟩ : Call) (.nil _) trivial
  have hnone : ∀ e, (oneVr.nh e).lpm_route = none := fun _ => rfl
  have hstart : NoRoutes (Fib.init 4) := ⟨fun _ => rfl, fun r => by simp [RouteLive, Fib.init]⟩
  refine ⟨by decide, (vrRemoveAtomic_iff hstart hrun _ _).mpr
    (And.intro (fun _ e r hr => ?_) (fun _ vrf _ _ => ?_))⟩
  · rw [hnone] at hr
    simp at hr
  · have hagain : VrDefaultsAgain vrKept vrf := .inr (by simp [vrKept])
    exact ⟨⟨by rw [if_pos ⟨hagain, by decide⟩]; decide, fun e => .inl (hnone e)⟩,
      ⟨by rw [if_pos ⟨hagain, by decide⟩]; decide, fun e => .inl (hnone e)⟩⟩

end OpxSai
