import OpxSai.Lib.Heap
import OpxSai.Lib.MultiMap
import OpxSai.Lib.Tree
import OpxSai.Routing.Types

/-!
# Routing — state

`Fib` is what the global configuration of the routing module reaches: the heaps of
next hop, route and group nodes, the trees over them, the router interfaces, the
`sai_map` entries the module owns, and the log of the calls it made to the outside.

A read through a dangling pointer gives the zeroed node (`Fib.nh` and its
siblings) and a write through one does nothing; the invariants of the later
modules say where no pointer dangles.

`Fib.core` forgets what the resolution of tunnel encap next hops writes. Every
function of `Routing.EncapNextHop` keeps the core, so the invariants about the
rest of the state need not look into it.
-/

namespace OpxSai

variable {p : Ptr} {γ : Type} {q : Ptr}

/-! ## The sai_map entries -/

inductive MapType where
  | nhGrp2MemberList | nhMember2GrpInfo | lagRifInfo
deriving DecidableEq

/-- `sai_map_key_t` -/
structure MapKey where
  type : MapType
  id1 : Oid
deriving DecidableEq

/-- `sai_map_data_t` -/
structure MapData where
  val1 : Oid
  val2 : Oid
deriving DecidableEq

/-! ## The state -/

structure Fib where
  nhs : Heap Nh
  routes : Heap Route
  groups : Heap Group
  vrf_tree : Oid → Option Vrf
  router_interface_tree : List Rif
  nh_id_tree : Oid → Option Ptr
  nh_group_tree : Oid → Option Ptr
  neighbor_mac_tree : MacKey → Option (List Ptr)
  sai_map : MultiMap MapKey MapData
  max_ecmp_paths : Nat
  tunnels : Oid → Option Tunnel
  port_fwd_mode : Oid → PortFwdMode
  /-- The calls to the outside, oldest first, each with its answer. -/
  npu_log : List (ExtCall × Status)

variable {s : Fib} {x : Status × Fib} {t : Fib}

variable (env : Env) (g : Route → γ) {f : Route → γ}

namespace Fib

/-- The state after initialisation: nothing is configured. -/
def init (max_ecmp_paths : Nat) : Fib where
  nhs := .empty
  routes := .empty
  groups := .empty
  vrf_tree := fun _ => none
  router_interface_tree := []
  nh_id_tree := fun _ => none
  nh_group_tree := fun _ => none
  neighbor_mac_tree := fun _ => none
  sai_map := fun _ => none
  max_ecmp_paths := max_ecmp_paths
  tunnels := fun _ => none
  port_fwd_mode := fun _ => .unknown
  npu_log := []

/-! ## Reading -/

def nh (s : Fib) (p : Ptr) : Nh := (s.nhs.get p).getD Nh.zero

def route (s : Fib) (p : Ptr) : Route := (s.routes.get p).getD Route.zero

def group (s : Fib) (p : Ptr) : Group := (s.groups.get p).getD Group.zero

/-- `sai_fib_router_interface_node_get` -/
def rif (s : Fib) (id : Oid) : Option Rif :=
  s.router_interface_tree.find? fun r => r.rif_id = id

/-- `sai_fib_vrf_node_get` -/
def vrf (s : Fib) (id : Oid) : Option Vrf := s.vrf_tree id

/-- `sai_fib_get_vrf_node_for_rif` -/
def vrfForRif (s : Fib) (rif_id : Oid) : Option Vrf :=
  (s.rif rif_id).bind fun r => s.vrf r.vrf_id

/-- `dn_sai_tunnel_underlay_vr_get` -/
def tunnelUnderlayVr (s : Fib) (tunnel_id : Oid) : Oid :=
  ((s.tunnels tunnel_id).map Tunnel.underlay_vrf).getD .null

/-! ## Writing -/

def modNh (p : Ptr) (f : Nh → Nh) (s : Fib) : Fib := { s with nhs := s.nhs.modify p f }

def modRoute (p : Ptr) (f : Route → Route) (s : Fib) : Fib :=
  { s with routes := s.routes.modify p f }

def modGroup (p : Ptr) (f : Group → Group) (s : Fib) : Fib :=
  { s with groups := s.groups.modify p f }

def modVrf (id : Oid) (f : Vrf → Vrf) (s : Fib) : Fib :=
  { s with vrf_tree := fun v => if v = id then (s.vrf_tree v).map f else s.vrf_tree v }

/-- Router interfaces are changed in place; `rif_id` is the key of the tree. -/
def modRif (id : Oid) (f : Rif → Rif) (s : Fib) : Fib :=
  { s with router_interface_tree :=
      s.router_interface_tree.map fun r => if r.rif_id = id then f r else r }

def modTunnel (id : Oid) (f : Tunnel → Tunnel) (s : Fib) : Fib :=
  { s with tunnels := fun t => if t = id then (s.tunnels t).map f else s.tunnels t }

def call (c : ExtCall) (s : Fib) : Status × Fib :=
  (env.status c, { s with npu_log := s.npu_log ++ [(c, env.status c)] })

/-- Go on with `k` when `x` succeeded; otherwise leave with the status of `x`. -/
def andThen (x : Status × Fib) (k : Fib → Status × Fib) : Status × Fib :=
  if x.1 = .success then k x.2 else x

/-! ## Reading after writing -/

def NhLive (s : Fib) (p : Ptr) : Prop := (s.nhs.get p).isSome

def GroupLive (s : Fib) (p : Ptr) : Prop := (s.groups.get p).isSome

def RouteLive (s : Fib) (p : Ptr) : Prop := (s.routes.get p).isSome

theorem nh_of_get {n} (h : s.nhs.get p = some n) : s.nh p = n := by
  simp [nh, h]

theorem route_of_get {r} (h : s.routes.get p = some r) :
    s.route p = r := by
  simp [route, h]

theorem group_of_get {g} (h : s.groups.get p = some g) :
    s.group p = g := by
  simp [group, h]

theorem nh_of_not_live (h : ¬ s.NhLive p) : s.nh p = Nh.zero := by
  have hp : s.nhs.get p = none := by simpa [NhLive] using h
  simp [nh, hp]

theorem route_of_not_live (h : ¬ s.RouteLive p) :
    s.route p = Route.zero := by
  have hp : s.routes.get p = none := by simpa [RouteLive] using h
  simp [route, hp]

theorem group_of_not_live (h : ¬ s.GroupLive p) :
    s.group p = Group.zero := by
  have hp : s.groups.get p = none := by simpa [GroupLive] using h
  simp [group, hp]

theorem get_of_nhLive (h : s.NhLive p) :
    s.nhs.get p = some (s.nh p) := by
  obtain ⟨n, hn⟩ := Option.isSome_iff_exists.mp h
  rw [hn, nh_of_get hn]

theorem get_of_routeLive (h : s.RouteLive p) :
    s.routes.get p = some (s.route p) := by
  obtain ⟨r, hr⟩ := Option.isSome_iff_exists.mp h
  rw [hr, route_of_get hr]

theorem get_of_groupLive (h : s.GroupLive p) :
    s.groups.get p = some (s.group p) := by
  obtain ⟨g, hg⟩ := Option.isSome_iff_exists.mp h
  rw [hg, group_of_get hg]

theorem nh_modNh (hp : s.NhLive p) (f : Nh → Nh) (q) :
    (s.modNh p f).nh q = if q = p then f (s.nh q) else s.nh q := by
  unfold nh modNh
  rw [Heap.get_modify]
  split
  next hq =>
    subst hq
    rw [get_of_nhLive hp]
    rfl
  · rfl

theorem route_modRoute (hp : s.RouteLive p) (f : Route → Route) (q) :
    (s.modRoute p f).route q = if q = p then f (s.route q) else s.route q := by
  unfold route modRoute
  rw [Heap.get_modify]
  split
  next hq =>
    subst hq
    rw [get_of_routeLive hp]
    rfl
  · rfl

theorem group_modGroup (hp : s.GroupLive p) (f : Group → Group) (q) :
    (s.modGroup p f).group q = if q = p then f (s.group q) else s.group q := by
  unfold group modGroup
  rw [Heap.get_modify]
  split
  next hq =>
    subst hq
    rw [get_of_groupLive hp]
    rfl
  · rfl

theorem nh_modNh_of_ne (s : Fib) (f : Nh → Nh) (h : q ≠ p) :
    (s.modNh p f).nh q = s.nh q := by
  simp [nh, modNh, Heap.get_modify, h]

theorem route_modRoute_of_ne {f : Route → Route} (h : q ≠ p) :
    (s.modRoute p f).route q = s.route q := by
  simp [route, modRoute, Heap.get_modify, h]

theorem group_modGroup_of_ne {f : Group → Group} (h : q ≠ p) :
    (s.modGroup p f).group q = s.group q := by
  simp [group, modGroup, Heap.get_modify, h]

/-- How a field reads after a write that changes it by `k`. A dangling pointer is no
exception when `k` does nothing to the field of the zeroed node. -/
theorem nh_modNh_lens (g : Nh → γ) (k : γ → γ) {f : Nh → Nh} (hf : ∀ n, g (f n) = k (g n))
    (h0 : ¬ s.NhLive p → k (g Nh.zero) = g Nh.zero) (q : Ptr) :
    g ((s.modNh p f).nh q) = if q = p then k (g (s.nh q)) else g (s.nh q) := by
  by_cases hp : s.NhLive p
  · rw [nh_modNh hp]
    split
    · exact hf _
    · rfl
  split
  next hq =>
    subst hq
    have hdead : ¬ (s.modNh q f).NhLive q := by simpa [NhLive, modNh] using hp
    rw [nh_of_not_live hdead, nh_of_not_live hp, h0 hp]
  next hq => rw [nh_modNh_of_ne s f hq]

theorem route_modRoute_lens (k : γ → γ) {f : Route → Route} (hf : ∀ r, g (f r) = k (g r))
    (h0 : ¬ s.RouteLive p → k (g Route.zero) = g Route.zero) (q) :
    g ((s.modRoute p f).route q) = if q = p then k (g (s.route q)) else g (s.route q) := by
  by_cases hp : s.RouteLive p
  · rw [route_modRoute hp]
    split
    · exact hf _
    · rfl
  split
  next hq =>
    subst hq
    have hdead : ¬ (s.modRoute q f).RouteLive q := by simpa [RouteLive, modRoute] using hp
    rw [route_of_not_live hdead, route_of_not_live hp, h0 hp]
  next hq => rw [route_modRoute_of_ne hq]

theorem group_modGroup_lens (g : Group → γ) (k : γ → γ) {f : Group → Group} (hf : ∀ x, g (f x) = k (g x))
    (h0 : ¬ s.GroupLive p → k (g Group.zero) = g Group.zero) (q) :
    g ((s.modGroup p f).group q) = if q = p then k (g (s.group q)) else g (s.group q) := by
  by_cases hp : s.GroupLive p
  · rw [group_modGroup hp]
    split
    · exact hf _
    · rfl
  split
  next hq =>
    subst hq
    have hdead : ¬ (s.modGroup q f).GroupLive q := by simpa [GroupLive, modGroup] using hp
    rw [group_of_not_live hdead, group_of_not_live hp, h0 hp]
  next hq => rw [group_modGroup_of_ne hq]

theorem nh_modNh_field (g : Nh → γ) {f : Nh → Nh} (hgf : ∀ n, g (f n) = g n)
    (s : Fib) (p q : Ptr) : g ((s.modNh p f).nh q) = g (s.nh q) := by
  rw [nh_modNh_lens g id hgf fun _ => rfl]
  split <;> rfl

theorem route_modRoute_field {f : Route → Route} (hgf : ∀ r, g (f r) = g r) (s : Fib) (p q : Ptr) :
    g ((s.modRoute p f).route q) = g (s.route q) := by
  rw [route_modRoute_lens g id hgf fun _ => rfl]
  split <;> rfl

theorem group_modGroup_field (g : Group → γ) {f : Group → Group}
    (hgf : ∀ x, g (f x) = g x) (s : Fib) (p q : Ptr) :
    g ((s.modGroup p f).group q) = g (s.group q) := by
  rw [group_modGroup_lens g id hgf fun _ => rfl]
  split <;> rfl

@[simp] theorem nhLive_modNh (s : Fib) (p q : Ptr) (f : Nh → Nh) :
    (s.modNh p f).NhLive q ↔ s.NhLive q := by
  unfold NhLive modNh
  rw [Heap.get_modify]
  split
  · rw [Option.isSome_map]
  · rfl

@[simp] theorem routeLive_modRoute {p q} (f : Route → Route) :
    (s.modRoute p f).RouteLive q ↔ s.RouteLive q := by
  unfold RouteLive modRoute
  rw [Heap.get_modify]
  split
  · rw [Option.isSome_map]
  · rfl

@[simp] theorem groupLive_modGroup (s : Fib) (p q : Ptr) (f : Group → Group) :
    (s.modGroup p f).GroupLive q ↔ s.GroupLive q := by
  unfold GroupLive modGroup
  rw [Heap.get_modify]
  split
  · rw [Option.isSome_map]
  · rfl

theorem modNh_modNh (s : Fib) (p : Ptr) (f g : Nh → Nh) :
    (s.modNh p f).modNh p g = s.modNh p (fun n => g (f n)) := by
  unfold modNh
  rw [Heap.modify_modify]

theorem modRoute_modRoute (s : Fib) (p : Ptr) (f g : Route → Route) :
    (s.modRoute p f).modRoute p g = s.modRoute p (fun r => g (f r)) := by
  unfold modRoute
  rw [Heap.modify_modify]

theorem modGroup_modGroup (s : Fib) (p : Ptr) (f g : Group → Group) :
    (s.modGroup p f).modGroup p g = s.modGroup p (fun r => g (f r)) := by
  unfold modGroup
  rw [Heap.modify_modify]

theorem modGroup_congr {f g : Group → Group} (hfg : f (s.group p) = g (s.group p)) :
    s.modGroup p f = s.modGroup p g := by
  unfold modGroup
  rw [Heap.modify_congr fun a ha => ?_]
  rw [group_of_get ha] at hfg
  exact hfg

theorem modGroup_of_fixed {f : Group → Group} (hf : f (s.group p) = s.group p) : s.modGroup p f = s:= by
  unfold modGroup
  rw [Heap.modify_of_fixed fun a ha => ?_]
  rw [group_of_get ha] at hf
  exact hf

theorem modNh_of_fixed {f : Nh → Nh} (hf : f (s.nh p) = s.nh p) : s.modNh p f = s:= by
  unfold modNh
  rw [Heap.modify_of_fixed fun a ha => ?_]
  rw [nh_of_get ha] at hf
  exact hf

theorem modGroup_modNh (s : Fib) (p q : Ptr) (f : Nh → Nh) (g : Group → Group) :
    (s.modNh p f).modGroup q g = (s.modGroup q g).modNh p f := rfl

theorem nh_of_get_map {f : Nh → γ} (h : (t.nhs.get p).map f = (s.nhs.get p).map f) :
    f (t.nh p) = f (s.nh p) := by
  have hget := congrArg (fun o => Option.getD o (f Nh.zero)) h
  simp only [Option.getD_map] at hget
  exact hget

theorem route_of_get_map (h : (t.routes.get p).map f = (s.routes.get p).map f) :
    f (t.route p) = f (s.route p) := by
  have hget := congrArg (fun o => Option.getD o (f Route.zero)) h
  simp only [Option.getD_map] at hget
  exact hget

theorem group_of_get_map {f : Group → γ} (h : (t.groups.get p).map f = (s.groups.get p).map f) :
    f (t.group p) = f (s.group p) := by
  have hget := congrArg (fun o => Option.getD o (f Group.zero)) h
  simp only [Option.getD_map] at hget
  exact hget

theorem routeLive_of_get_map (h : (t.routes.get p).map f = (s.routes.get p).map f) :
    t.RouteLive p ↔ s.RouteLive p := by
  have hget := congrArg Option.isSome h
  simp only [Option.isSome_map] at hget
  unfold RouteLive
  rw [hget]

theorem groupLive_of_get_map {f : Group → γ} (h : (t.groups.get p).map f = (s.groups.get p).map f) :
    t.GroupLive p ↔ s.GroupLive p := by
  have hget := congrArg Option.isSome h
  simp only [Option.isSome_map] at hget
  unfold GroupLive
  rw [hget]

/-! ## Sequencing -/

theorem andThen_of_success (h : x.1 = .success) (k : Fib → Status × Fib) : andThen x k = k x.2 := by
  simp [andThen, h]

theorem andThen_of_failure (h : x.1 ≠ .success) (k : Fib → Status × Fib) : andThen x k = x := by
  simp [andThen, h]

/-- A property of the state goes through `andThen` when both halves keep it. -/
theorem andThen_keeps {P : Fib → Prop} {k : Fib → Status × Fib} (hx : P x.2) (hk : P x.2 → P (k x.2).2) :
    P (andThen x k).2 := by
  unfold andThen
  split
  · exact hk hx
  · exact hx

/-! ## The core -/

end Fib

/-- A next hop node without what the resolution of encap next hops writes. -/
def Nh.core (n : Nh) : Nh :=
  { n with packet_action := .drop, dep_encap_nh_list := [], dep_route_list := [],
           lpm_route := none, neighbor := none }

def Route.core (r : Route) : Route := { r with dep_encap_nh_list := [] }

def Group.core (g : Group) : Group := { g with dep_encap_nh_list := [] }

def Tunnel.core (t : Tunnel) : Tunnel := { t with tunnel_encap_nh_list := [] }

namespace Fib

def core (s : Fib) : Fib :=
  { s with nhs := s.nhs.map Nh.core, routes := s.routes.map Route.core,
           groups := s.groups.map Group.core,
           tunnels := fun t => (s.tunnels t).map Tunnel.core, npu_log := [] }

@[simp] theorem core_nh (s : Fib) (p : Ptr) : s.core.nh p = (s.nh p).core := by
  unfold nh core
  rw [Heap.get_map]
  cases s.nhs.get p <;> rfl

@[simp] theorem core_route (s : Fib) (p : Ptr) : s.core.route p = (s.route p).core := by
  unfold route core
  rw [Heap.get_map]
  cases s.routes.get p <;> rfl

@[simp] theorem core_group (s : Fib) (p : Ptr) : s.core.group p = (s.group p).core := by
  unfold group core
  rw [Heap.get_map]
  cases s.groups.get p <;> rfl

theorem routes_get_of_core (hf : ∀ r, f r.core = f r) (h : t.core = s.core) (p) :
    (t.routes.get p).map f = (s.routes.get p).map f := by
  have hget := congrArg (fun u : Fib => (u.routes.get p).map f) h
  simpa only [core, Heap.get_map, Option.map_map, Function.comp_def, hf] using hget

theorem groups_get_of_core {f : Group → γ} (hf : ∀ g, f g.core = f g) (h : t.core = s.core) (p) :
    (t.groups.get p).map f = (s.groups.get p).map f := by
  have hget := congrArg (fun u : Fib => (u.groups.get p).map f) h
  simpa only [core, Heap.get_map, Option.map_map, Function.comp_def, hf] using hget

theorem modNh_core {f : Nh → Nh} (hf : ∀ n, (f n).core = n.core) {p} :
    (s.modNh p f).core = s.core := by
  unfold core modNh
  rw [Heap.map_modify_of_comp hf]

theorem modRoute_core {f : Route → Route} (hf : ∀ r, (f r).core = r.core) {p} :
    (s.modRoute p f).core = s.core := by
  unfold core modRoute
  rw [Heap.map_modify_of_comp hf]

theorem modGroup_core {f : Group → Group} (hf : ∀ g, (f g).core = g.core) {p} :
    (s.modGroup p f).core = s.core := by
  unfold core modGroup
  rw [Heap.map_modify_of_comp hf]

theorem core_modNh {f : Nh → Nh} (hf : ∀ n, (f n).core = f n.core) (p : Ptr) (s : Fib) :
    (s.modNh p f).core = s.core.modNh p f := by
  unfold core modNh
  rw [Heap.map_modify_of_semiconj hf]

theorem core_modGroup {f : Group → Group} (hf : ∀ g, (f g).core = f g.core) (p : Ptr)
    (s : Fib) : (s.modGroup p f).core = s.core.modGroup p f := by
  unfold core modGroup
  rw [Heap.map_modify_of_semiconj hf]

theorem modTunnel_core {f : Tunnel → Tunnel} (hf : ∀ t, (f t).core = t.core) (id : Oid)
    (s : Fib) : (s.modTunnel id f).core = s.core := by
  unfold core modTunnel
  congr 1
  funext t
  simp only
  split
  · rw [Option.map_map]
    exact congrArg (fun k => Option.map k (s.tunnels t)) (funext hf)
  · rfl

theorem nh_field_of_core {f : Nh → γ} (hf : ∀ n, f n.core = f n) (h : s.core = t.core) (p : Ptr) :
    f (s.nh p) = f (t.nh p) := by
  rw [← hf, ← hf (t.nh p), ← core_nh, ← core_nh, h]

theorem route_field_of_core (hf : ∀ r, f r.core = f r) (h : s.core = t.core) (p : Ptr) :
    f (s.route p) = f (t.route p) := by
  rw [← hf, ← hf (t.route p), ← core_route, ← core_route, h]

theorem group_field_of_core {f : Group → γ} (hf : ∀ g, f g.core = f g) (h : s.core = t.core) (p : Ptr) :
    f (s.group p) = f (t.group p) := by
  rw [← hf, ← hf (t.group p), ← core_group, ← core_group, h]

@[simp] theorem nhLive_core (s : Fib) (p : Ptr) : s.core.NhLive p ↔ s.NhLive p := by
  simp [NhLive, core]

@[simp] theorem routeLive_core (s : Fib) (p : Ptr) : s.core.RouteLive p ↔ s.RouteLive p := by
  simp [RouteLive, core]

@[simp] theorem groupLive_core (s : Fib) (p : Ptr) : s.core.GroupLive p ↔ s.GroupLive p := by
  simp [GroupLive, core]

theorem nhLive_of_core (h : s.core = t.core) (p : Ptr) : s.NhLive p ↔ t.NhLive p := by
  rw [← nhLive_core, h, nhLive_core]

theorem routeLive_of_core (h : s.core = t.core) (p : Ptr) :
    s.RouteLive p ↔ t.RouteLive p := by
  rw [← routeLive_core, h, routeLive_core]

theorem groupLive_of_core (h : s.core = t.core) (p : Ptr) :
    s.GroupLive p ↔ t.GroupLive p := by
  rw [← groupLive_core, h, groupLive_core]

theorem nh_id_tree_of_core (h : s.core = t.core) : s.nh_id_tree = t.nh_id_tree := by
  have := congrArg Fib.nh_id_tree h
  exact this

theorem nh_group_tree_of_core (h : s.core = t.core) :
    s.nh_group_tree = t.nh_group_tree := by
  have := congrArg Fib.nh_group_tree h
  exact this

theorem vrf_tree_of_core (h : s.core = t.core) : s.vrf_tree = t.vrf_tree := by
  have := congrArg Fib.vrf_tree h
  exact this

theorem rif_tree_of_core (h : s.core = t.core) :
    s.router_interface_tree = t.router_interface_tree := by
  have := congrArg Fib.router_interface_tree h
  exact this

theorem sai_map_of_core (h : s.core = t.core) : s.sai_map = t.sai_map := by
  have := congrArg Fib.sai_map h
  exact this

theorem neighbor_mac_tree_of_core (h : s.core = t.core) :
    s.neighbor_mac_tree = t.neighbor_mac_tree := by
  have := congrArg Fib.neighbor_mac_tree h
  exact this

@[simp] theorem call_core (c : ExtCall) (s : Fib) : (s.call env c).2.core = s.core := rfl

theorem foldl_core {α : Type} {f : Fib → α → Fib} (hf : ∀ s a, (f s a).core = s.core)
    (l : List α) (s) : (l.foldl f s).core = s.core := by
  induction l generalizing s with
  | nil => rfl
  | cons a l ih => rw [List.foldl_cons, ih, hf]

end Fib

end OpxSai
