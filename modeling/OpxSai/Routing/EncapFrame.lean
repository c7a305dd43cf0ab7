import OpxSai.Routing.EncapNextHop

/-!
# Routing — what the resolution of an encap next hop leaves alone

Every function of `Routing.EncapNextHop` works on behalf of one encap next hop or of
a list of them. `EncapWrites` says which writes it makes, and what it leaves alone is read
off the writes. `EncapFrame P s t` says that only the encap next hops in `P` were
worked on: the core is the same, the resolution of every other node is the same,
and every other node is where it was on the dependent lists of next hop nodes.
-/

namespace OpxSai

open Fib

def ExtCall.neighborCreated : ExtCall → Option Nh
  | .neighborCreate nh => some nh
  | _ => none

/-- The neighbors the NPU was asked for, oldest first. -/
def Fib.neighborsCreated (s : Fib) : List Nh := s.npu_log.filterMap fun x => x.1.neighborCreated

theorem neighborsCreated_call (env : Env) (c : ExtCall) (s : Fib) :
    (s.call env c).2.neighborsCreated = s.neighborsCreated ++ c.neighborCreated.toList := by
  unfold neighborsCreated call
  rw [List.filterMap_append]
  cases hc : c.neighborCreated <;> simp [hc]

/-- Only the resolution of the nodes in `P` has changed. -/
structure EncapFrame (P : Ptr → Prop) (s t : Fib) : Prop where
  core : t.core = s.core
  action : ∀ q, ¬ P q → (t.nh q).packet_action = (s.nh q).packet_action
  lpm_route : ∀ q, ¬ P q → (t.nh q).lpm_route = (s.nh q).lpm_route
  neighbor : ∀ q, ¬ P q → (t.nh q).neighbor = (s.nh q).neighbor
  deps : ∀ q x, ¬ P x →
    (t.nh q).dep_encap_nh_list.count x = (s.nh q).dep_encap_nh_list.count x
  created : t.neighborsCreated = s.neighborsCreated

namespace EncapFrame

variable {P : Ptr → Prop} {s t u : Fib}

theorem refl (P : Ptr → Prop) (s) : EncapFrame P s s :=
  ⟨rfl, fun _ _ => rfl, fun _ _ => rfl, fun _ _ => rfl, fun _ _ _ => rfl, rfl⟩

theorem trans (h : EncapFrame P s t) (k : EncapFrame P t u) : EncapFrame P s u :=
  ⟨k.core.trans h.core, fun q hq => (k.action q hq).trans (h.action q hq),
    fun q hq => (k.lpm_route q hq).trans (h.lpm_route q hq),
    fun q hq => (k.neighbor q hq).trans (h.neighbor q hq),
    fun q x hx => (k.deps q x hx).trans (h.deps q x hx), k.created.trans h.created⟩

theorem of_nhs (hcore : t.core = s.core) (hnhs : t.nhs = s.nhs)
    (hcreated : t.neighborsCreated = s.neighborsCreated) : EncapFrame P s t := by
  have hnh : ∀ q, t.nh q = s.nh q := fun q => by
    unfold Fib.nh
    rw [hnhs]
  exact ⟨hcore, fun q _ => by rw [hnh], fun q _ => by rw [hnh], fun q _ => by rw [hnh],
    fun q x _ => by rw [hnh], hcreated⟩

end EncapFrame

/-! ## The writes -/

/-- `t` comes from `s` by the writes of a resolution of encap next hops in `P`. -/
inductive EncapWrites (env : Env) (P : Ptr → Prop) : Fib → Fib → Prop
  | refl (s : Fib) : EncapWrites env P s s
  | trans {s t u : Fib} (h : EncapWrites env P s t) (k : EncapWrites env P t u) :
      EncapWrites env P s u
  -- any call but the one that creates a neighbor
  | call {c : ExtCall} (hc : c.neighborCreated = none) (s : Fib) :
      EncapWrites env P s (s.call env c).2
  -- a dependent list
  | addDep {e : Ptr} (he : P e) (u : Ptr) (s : Fib) :
      EncapWrites env P s (s.modNh u (Nh.addDepEncapNh e))
  | removeDep {e : Ptr} (he : P e) (u : Ptr) (s : Fib) :
      EncapWrites env P s (s.modNh u (Nh.removeDepEncapNh e))
  | route {f : Route → Route} (r : Ptr) (s : Fib)
      (hf : ∀ r, (f r).core = r.core) :
      EncapWrites env P s (s.modRoute r f)
  | group {f : Group → Group} (g : Ptr) (s : Fib)
      (hf : ∀ g, (f g).core = g.core) :
      EncapWrites env P s (s.modGroup g f)
  -- a field of the encap next hop itself
  | self {e : Ptr} {f : Nh → Nh} (he : P e) (s : Fib)
      (hcore : ∀ n, (f n).core = n.core)
      (hdeps : ∀ n, (f n).dep_encap_nh_list = n.dep_encap_nh_list) :
      EncapWrites env P s (s.modNh e f)

namespace EncapWrites

variable {env : Env} {P : Ptr → Prop} {s t : Fib}

theorem andThen {x} {k : Fib → Status × Fib} (hx : EncapWrites env P s x.2)
    (hk : ∀ t, EncapWrites env P t (k t).2) : EncapWrites env P s (Fib.andThen x k).2 :=
  andThen_keeps (P := fun t => EncapWrites env P s t) hx fun h => h.trans (hk _)

theorem foldl {α : Type} {f : Fib → α → Fib} {l : List α}
    (hf : ∀ a ∈ l, ∀ t, EncapWrites env P t (f t a)) (s) :
    EncapWrites env P s (l.foldl f s) := by
  induction l generalizing s with
  | nil => exact refl s
  | cons a l ih =>
    rw [List.foldl_cons]
    exact (hf a List.mem_cons_self s).trans
      (ih (fun b hb => hf b (List.mem_cons_of_mem _ hb)) (f s a))

theorem frame (h : EncapWrites env P s t) : EncapFrame P s t := by
  induction h with
  | refl s => exact .refl P s
  | trans _ _ hst htu => exact hst.trans htu
  | call hc s =>
    refine .of_nhs (call_core env _ s) rfl ?_
    rw [neighborsCreated_call, hc]
    exact List.append_nil _
  | @addDep e he u s =>
    have hfield := fun {α : Type} (g : Nh → α) hg =>
      nh_modNh_field (f := Nh.addDepEncapNh e) g hg s u
    refine ⟨modNh_core (by exact fun _ => rfl), fun q _ => hfield _ (fun _ => rfl) q,
      fun q _ => hfield _ (fun _ => rfl) q, fun q _ => hfield _ (fun _ => rfl) q,
      fun q x hx => hfield (fun n => n.dep_encap_nh_list.count x) (fun n => ?_) q, rfl⟩
    have hne : e ≠ x := fun h => hx (h ▸ he)
    simp [Nh.addDepEncapNh, List.count_append, hne]
  | @removeDep e he u s =>
    have hfield := fun {α : Type} (g : Nh → α) hg =>
      nh_modNh_field (f := Nh.removeDepEncapNh e) g hg s u
    refine ⟨modNh_core (by exact fun _ => rfl), fun q _ => hfield _ (fun _ => rfl) q,
      fun q _ => hfield _ (fun _ => rfl) q, fun q _ => hfield _ (fun _ => rfl) q,
      fun q x hx => hfield (fun n => n.dep_encap_nh_list.count x) (fun n => ?_) q, rfl⟩
    have hne : x ≠ e := fun h => hx (h ▸ he)
    exact List.count_erase_of_ne hne
  | route r s hf => exact .of_nhs (modRoute_core hf) rfl rfl
  | group g s hf => exact .of_nhs (modGroup_core hf) rfl rfl
  | @self e f he s hcore hdeps =>
    have hother : ∀ q, ¬ P q → (s.modNh e f).nh q = s.nh q := fun q hq =>
      nh_modNh_of_ne s f fun h => hq (h ▸ he)
    exact ⟨modNh_core hcore, fun q hq => by rw [hother q hq], fun q hq => by rw [hother q hq],
      fun q hq => by rw [hother q hq], fun q x _ => congrArg (List.count x)
        (nh_modNh_field (f := f) Nh.dep_encap_nh_list hdeps s e q), rfl⟩

theorem core (h : EncapWrites env (fun _ => True) s t) : t.core = s.core := h.frame.core

theorem tunnels (h : EncapWrites env P s t) : t.tunnels = s.tunnels := by
  induction h with
  | trans _ _ hst htu => exact htu.trans hst
  | _ => rfl

end EncapWrites

/-! ## The functions -/

section Functions

variable (env : Env) {P : Ptr → Prop} {e : Ptr} (he : P e)

include he

variable (vrf : Vrf) (g : Ptr) (r : Route) (s : Fib)

theorem encapNextHopAddToUnderlayNh_writes (u) (s) :
    EncapWrites env P s (encapNextHopAddToUnderlayNh env e u s).2 := by
  unfold encapNextHopAddToUnderlayNh
  split
  · exact .refl s
  split
  · exact .addDep he u s
  · exact .refl s

theorem encapNextHopAddToUnderlayNhg_writes :
    EncapWrites env P s (encapNextHopAddToUnderlayNhg env e g s).2 := by
  have hfold : ∀ (l : List Ptr) (x : Status × Fib), EncapWrites env P s x.2 →
      EncapWrites env P s (l.foldl (fun x nh => encapNextHopAddToUnderlayNh env e nh x.2) x).2 := by
    intro l
    induction l with
    | nil => intro x hx; exact hx
    | cons u l ih =>
      intro x hx
      rw [List.foldl_cons]
      exact ih _ (hx.trans (encapNextHopAddToUnderlayNh_writes env he u x.2))
  exact hfold _ _ (.group g s fun _ => by rfl)

theorem encapNextHopRemoveFromUnderlayNhg_writes :
    EncapWrites env P s (encapNextHopRemoveFromUnderlayNhg env e g s) :=
  .trans (.group g s fun _ => by rfl) (.foldl (fun u _ t => .removeDep he u t) _)

theorem encapNextHopAddToUnderlayRouteNh_writes :
    EncapWrites env P s (encapNextHopAddToUnderlayRouteNh env e r s).2 := by
  unfold encapNextHopAddToUnderlayRouteNh
  split
  · exact encapNextHopAddToUnderlayNhg_writes env he _ s
  · exact encapNextHopAddToUnderlayNh_writes env he _ s
  · exact .refl s

theorem encapNextHopRemoveFromUnderlayRouteNh_writes :
    EncapWrites env P s (encapNextHopRemoveFromUnderlayRouteNh env e r s) := by
  unfold encapNextHopRemoveFromUnderlayRouteNh
  split
  · exact encapNextHopRemoveFromUnderlayNhg_writes env he _ s
  · exact .removeDep he _ s
  · exact .refl s

theorem encapNextHopRemoveFromUnderlayObj_writes :
    EncapWrites env P s (encapNextHopRemoveFromUnderlayObj env e s) := by
  have hneighbor : EncapWrites env P s (encapNextHopRemoveFromNeighbor e s) := by
    unfold encapNextHopRemoveFromNeighbor
    split
    · exact .refl s
    · exact .trans (.removeDep he _ s) (.self he _ (fun _ => by rfl) fun _ => by rfl)
  unfold encapNextHopRemoveFromUnderlayObj encapNextHopRemoveFromLpmRoute
  split
  · exact hneighbor
  · exact ((hneighbor.trans (encapNextHopRemoveFromUnderlayRouteNh_writes env he _ _)).trans
      (.route _ _ fun _ => by rfl)).trans (.self he _ (fun _ => by rfl) fun _ => by rfl)

omit he in
theorem encapNhDepRoutesAddToChangelist_writes {e : Ptr} (s) :
    EncapWrites env P s (encapNhDepRoutesAddToChangelist env e s) :=
  .foldl (fun _ _ t => .call rfl t) s

theorem encapNhLpmRouteAttrSet_writes : EncapWrites env P s (encapNhLpmRouteAttrSet env e r s).2 := by
  have hswap : ∀ (old : Option Ptr) t, EncapWrites env P t (encapNhUnderlaySwap env e old r t).2 := by
    intro old t
    refine EncapWrites.andThen ?_ (encapNhDepRoutesAddToChangelist_writes env)
    refine EncapWrites.trans ?_ (encapNextHopAddToUnderlayRouteNh_writes env he r _)
    cases old with
    | none => exact .refl t
    | some o => exact encapNextHopRemoveFromUnderlayRouteNh_writes env he _ t
  unfold encapNhLpmRouteAttrSet
  split
  · exact .refl s
  · exact EncapWrites.andThen (.trans (.self he s (fun _ => by rfl) fun _ => by rfl) (.call rfl _))
      (hswap _)

theorem encapNhLpmRouteResolve_writes : EncapWrites env P s (encapNhLpmRouteResolve env vrf e s).2 := by
  have hmove : ∀ (old : Option Ptr) r t, EncapWrites env P t (encapNhLpmRouteMove env e old r t) := by
    intro old r t
    have hlpm : EncapWrites env P t (t.modNh e (Nh.setLpmRoute (some r))) := .self he t (fun _ => by rfl) fun _ => by rfl
    cases old with
    | none => exact hlpm.trans (.route r _ fun _ => by rfl)
    | some o => exact (hlpm.trans (.route o _ fun _ => by rfl)).trans (.route r _ fun _ => by rfl)
  unfold encapNhLpmRouteResolve
  split
  · exact .refl s
  simp only
  split
  · exact .refl s
  · exact EncapWrites.andThen (encapNhLpmRouteAttrSet_writes env he _ s) (hmove _ _)

theorem encapNhNeighborResolve_writes {n} {s} :
    EncapWrites env P s (encapNhNeighborResolve env e n s).2 := by
  refine EncapWrites.andThen (.trans (.self he s (fun _ => by rfl) fun _ => by rfl) (.call rfl _))
    fun t => ?_
  refine EncapWrites.trans ?_ (encapNhDepRoutesAddToChangelist_writes env _)
  exact .trans (.self he t (fun _ => by rfl) fun _ => by rfl)
    (encapNextHopAddToUnderlayNh_writes env he n _)

theorem encapNhUnderlayObjResolve_writes : EncapWrites env P s (encapNhUnderlayObjResolve env e s).2 := by
  unfold encapNhUnderlayObjResolve
  split
  · exact .refl s
  split
  · exact encapNhNeighborResolve_writes env he
  · exact encapNhLpmRouteResolve_writes env he _ s

theorem neighborAffectedEncapNhStep_writes (n) (op) (s) :
    EncapWrites env P s (neighborAffectedEncapNhStep env vrf n op s e) := by
  have hrm := encapNextHopRemoveFromUnderlayObj_writes env he s
  unfold neighborAffectedEncapNhStep
  cases op with
  | create => exact hrm.trans (encapNhNeighborResolve_writes env he)
  | remove =>
    exact (hrm.trans (.self he _ (fun _ => by rfl) fun _ => by rfl)).trans
      (encapNhLpmRouteResolve_writes env he vrf _)

theorem encapNextHopCreate_frame : EncapFrame P s (encapNextHopCreate env e s).2 := by
  unfold encapNextHopCreate
  refine andThen_keeps (P := fun t => EncapFrame P s t) (EncapWrites.call rfl s).frame fun h => ?_
  have hres := h.trans (encapNhUnderlayObjResolve_writes env he _).frame
  simp only
  split
  · exact hres.trans (.of_nhs (modTunnel_core (by exact fun _ => rfl) _ _) rfl rfl)
  · exact hres.trans (EncapWrites.call rfl _).frame

theorem encapNextHopRemove_frame : EncapFrame P s (encapNextHopRemove env e s).2 := by
  unfold encapNextHopRemove
  refine andThen_keeps (P := fun t => EncapFrame P s t) (EncapWrites.call rfl s).frame fun h => ?_
  exact (h.trans (encapNextHopRemoveFromUnderlayObj_writes env he _).frame).trans
    (.of_nhs (modTunnel_core (by exact fun _ => rfl) _ _) rfl rfl)

end Functions

/-! ## The core -/

section Core

variable (env : Env)

variable (n e r : Ptr) (s : Fib)

theorem encapNextHopCreate_core : (encapNextHopCreate env e s).2.core = s.core :=
  (encapNextHopCreate_frame env (P := fun _ => True) trivial s).core

theorem encapNextHopRemove_core : (encapNextHopRemove env e s).2.core = s.core :=
  (encapNextHopRemove_frame env (P := fun _ => True) trivial s).core

theorem encapNhDepRouteAdd_core : (encapNhDepRouteAdd r s).core = s.core := by
  unfold encapNhDepRouteAdd
  split
  · exact modNh_core (by exact fun _ => rfl)
  · rfl

theorem encapNhDepRouteRemove_core : (encapNhDepRouteRemove env r s).core = s.core := by
  unfold encapNhDepRouteRemove
  split
  · exact modNh_core (by exact fun _ => rfl)
  · rfl

theorem routeAttrSetAffectedEncapNhUpdate_core (new) (s) :
    (routeAttrSetAffectedEncapNhUpdate env r new s).core = s.core := by
  unfold routeAttrSetAffectedEncapNhUpdate
  split
  · rfl
  · exact foldl_core (fun s e => (encapNhLpmRouteAttrSet_writes (e := e) env trivial new s).core) _ s

theorem routeAffectedEncapNhUpdate_core (op) (s) :
    (routeAffectedEncapNhUpdate env r op s).core = s.core := by
  unfold routeAffectedEncapNhUpdate
  split
  · exact routeAttrSetAffectedEncapNhUpdate_core env r _ s
  have hresolve := fun vrf s e => (encapNhLpmRouteResolve_writes (e := e) env trivial vrf s).core
  cases op with
  | create =>
    simp only [routeCreateAffectedEncapNhUpdate]
    split
    · rfl
    refine foldl_core (fun s p => foldl_core (fun s e => ?_) _ s) _ s
    split
    · exact hresolve _ s e
    · rfl
  | remove =>
    simp only [routeDelAffectedEncapNhUpdate]
    split
    · rfl
    · exact foldl_core (hresolve _) _ s

theorem neighborAffectedEncapNhResolve_core (op) (s) :
    (neighborAffectedEncapNhResolve env n op s).core = s.core := by
  unfold neighborAffectedEncapNhResolve
  split
  · rfl
  · exact foldl_core
      (fun s e => (neighborAffectedEncapNhStep_writes (e := e) env trivial _ n op s).core) _ s

theorem neighborDepEncapNhListUpdate_core (attr) (flags)
    (s) : (neighborDepEncapNhListUpdate env n attr flags s).core = s.core := by
  unfold neighborDepEncapNhListUpdate
  exact foldl_core (fun s e => call_core env _ s) _ s

theorem nhGroupDepEncapNhUpdate_core (g u) (is_add : Bool) {s} :
    (nhGroupDepEncapNhUpdate env g u is_add s).core = s.core := by
  refine foldl_core (fun s e => ?_) _ s
  split
  · exact (encapNextHopAddToUnderlayNh_writes (e := e) env trivial u s).core
  · exact modNh_core (by exact fun _ => rfl)

end Core

theorem nhTreeIpWalk_tunnelEncap {vrf} {ip} {p}
    (h : p ∈ nhTreeIpWalk vrf .tunnelEncap ip) :
    ∃ key, (key, p) ∈ vrf.sai_nh_tree ∧ key.nh_type = .tunnelEncap ∧ key.ip_addr = ip := by
  unfold nhTreeIpWalk at h
  obtain ⟨⟨key, q⟩, he, rfl⟩ := List.mem_map.mp h
  obtain ⟨hmem, hrank, hcont⟩ := Tree.walkFrom_subset he
  refine ⟨key, hmem, ?_, by simpa using hcont⟩
  -- the type is the first thing keys are ordered by
  by_contra hip
  have htype : key.nh_type = .ip := by
    cases hkey : key.nh_type with
    | ip => rfl
    | tunnelEncap => exact absurd hkey hip
  unfold NhKey.rank at hrank
  simp only [htype] at hrank
  have hlt := List.cons_lt_cons_iff.mp hrank
  omega

end OpxSai
