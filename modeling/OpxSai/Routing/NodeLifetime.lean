import OpxSai.Routing.EncapFrame
import OpxSai.Routing.System

/-!
# Routing — the lifetime of shared next hop nodes

A node is created by whichever of its two owners comes first and freed by
whichever leaves last. `NodeTrees` is what holds of nodes, trees and router
interfaces at every point of every call; `NodeState a b` adds the owner flags and
the id tree, with the node `a` allowed to have no owner for the moment, and the
node `b` kept out of the id tree for the moment.

* `nodeLifetime_of_run` — owners, trees, ids and counts agree in every state reached.
-/

namespace OpxSai

open Fib

variable {s t : Fib} {p : Ptr} {env : Env} {f : Rif → Rif} {x : Except Status Ptr} {u : Fib}
variable {attr_list : List NextHopAttr} {entry : NeighborEntry}

/-! ## What places and owners depend on -/

def Nh.place (n : Nh) : NhKey × Oid := (n.key, n.vrf_id)

/-- The place, and all that says who needs the node. -/
def Nh.life (n : Nh) : (NhKey × Oid) × Oid × OwnerFlag × List (WLink Ptr) × Nat :=
  (n.place, n.next_hop_id, n.owner_flag, n.nh_group_list, n.ref_count)

variable {nh_info : Nh}

def Vrf.nhTree (v : Vrf) : Oid × List (NhKey × Ptr) := (v.vrf_id, v.sai_nh_tree)

structure SamePlaces (s t : Fib) : Prop where
  nhs : t.nhs.map Nh.place = s.nhs.map Nh.place
  vrfs : ∀ v, (t.vrf v).map Vrf.nhTree = (s.vrf v).map Vrf.nhTree
  rifs : t.router_interface_tree = s.router_interface_tree

/-- The nodes are where they were, and so are their owners. -/
structure SameNodes (s t : Fib) : Prop where
  nhs : t.nhs.map Nh.life = s.nhs.map Nh.life
  vrfs : ∀ v, (t.vrf v).map Vrf.nhTree = (s.vrf v).map Vrf.nhTree
  rifs : t.router_interface_tree = s.router_interface_tree
  ids : t.nh_id_tree = s.nh_id_tree

theorem SameNodes.places (h : SameNodes s t) : SamePlaces s t where
  nhs := by
    have hmap := congrArg (fun k => Heap.map k Prod.fst) h.nhs
    simp only [Heap.map_map] at hmap
    exact hmap
  vrfs := h.vrfs
  rifs := h.rifs

theorem SamePlaces.trans (h : SamePlaces s t) (k : SamePlaces t u) :
    SamePlaces s u :=
  ⟨k.nhs.trans h.nhs, fun v => (k.vrfs v).trans (h.vrfs v), k.rifs.trans h.rifs⟩

theorem SameNodes.refl (s) : SameNodes s s := ⟨rfl, fun _ => rfl, rfl, rfl⟩

theorem SameNodes.trans (h : SameNodes s t) (k : SameNodes t u) : SameNodes s u :=
  ⟨k.nhs.trans h.nhs, fun v => (k.vrfs v).trans (h.vrfs v), k.rifs.trans h.rifs,
    k.ids.trans h.ids⟩

theorem SameNodes.of_core (h : t.core = s.core) : SameNodes s t where
  nhs := by
    have hmap := congrArg (fun u : Fib => u.nhs.map Nh.life) h
    simp only [Fib.core, Heap.map_map] at hmap
    exact hmap
  vrfs := fun v => by
    show (t.vrf_tree v).map _ = (s.vrf_tree v).map _
    rw [vrf_tree_of_core h]
  rifs := rif_tree_of_core h
  ids := nh_id_tree_of_core h

theorem SameNodes.modNh {f : Nh → Nh} (s) (p)
    (hf : (f (s.nh p)).life = (s.nh p).life) : SameNodes s (s.modNh p f) where
  nhs := Heap.map_modify_of_get fun a ha => by
    rw [nh_of_get ha] at hf
    exact hf
  vrfs := fun _ => rfl
  rifs := rfl
  ids := rfl

theorem SamePlaces.modNh {f : Nh → Nh} (s) (p)
    (hf : (f (s.nh p)).place = (s.nh p).place) : SamePlaces s (s.modNh p f) where
  nhs := Heap.map_modify_of_get fun a ha => by
    rw [nh_of_get ha] at hf
    exact hf
  vrfs := fun _ => rfl
  rifs := rfl

theorem SamePlaces.get (h : SamePlaces s t) (p) :
    (t.nhs.get p).map Nh.place = (s.nhs.get p).map Nh.place := by
  have hget := congrArg (fun k => Heap.get k p) h.nhs
  simpa using hget

theorem SamePlaces.live (h : SamePlaces s t) (p) : t.NhLive p ↔ s.NhLive p := by
  have hget := congrArg Option.isSome (h.get p)
  simp only [Option.isSome_map] at hget
  unfold NhLive
  rw [hget]

/-- What `f` sees of a node, a dangling pointer included. -/
theorem nh_map_congr {β : Type} {f : Nh → β}
    (h : (t.nhs.get p).map f = (s.nhs.get p).map f) : f (t.nh p) = f (s.nh p) := by
  unfold Fib.nh
  cases hs : s.nhs.get p with
  | none =>
    rw [hs] at h
    rw [Option.map_eq_none_iff.mp h]
  | some n =>
    rw [hs] at h
    obtain ⟨m, hm, heq⟩ := Option.map_eq_some_iff.mp h
    rw [hm]
    exact heq

theorem SamePlaces.place (h : SamePlaces s t) (p) : (t.nh p).place = (s.nh p).place :=
  nh_map_congr (h.get p)

theorem SamePlaces.key (h : SamePlaces s t) (p) : (t.nh p).key = (s.nh p).key :=
  congrArg Prod.fst (h.place p)

theorem SamePlaces.vrf_id (h : SamePlaces s t) (p) :
    (t.nh p).vrf_id = (s.nh p).vrf_id :=
  congrArg Prod.snd (h.place p)

theorem SameNodes.life (h : SameNodes s t) (p) : (t.nh p).life = (s.nh p).life :=
  nh_map_congr (by simpa using congrArg (fun k => Heap.get k p) h.nhs)

theorem SameNodes.owner_flag (h : SameNodes s t) (p) :
    (t.nh p).owner_flag = (s.nh p).owner_flag :=
  congrArg (fun x => x.2.2.1) (h.life p)

theorem SameNodes.nh_group_list (h : SameNodes s t) (p) :
    (t.nh p).nh_group_list = (s.nh p).nh_group_list :=
  congrArg (fun x => x.2.2.2.1) (h.life p)

theorem SameNodes.ref_count (h : SameNodes s t) (p) :
    (t.nh p).ref_count = (s.nh p).ref_count :=
  congrArg (fun x => x.2.2.2.2) (h.life p)

theorem SameNodes.next_hop_id (h : SameNodes s t) (p) :
    (t.nh p).next_hop_id = (s.nh p).next_hop_id :=
  congrArg (fun x => x.2.1) (h.life p)

theorem vrf_of_nhTree {a b} (h : a.map Vrf.nhTree = b.map Vrf.nhTree) {vrf}
    (ha : a = some vrf) :
    ∃ vrf', b = some vrf' ∧ vrf'.vrf_id = vrf.vrf_id ∧ vrf'.sai_nh_tree = vrf.sai_nh_tree := by
  rw [ha] at h
  obtain ⟨vrf', hb, htree⟩ := Option.map_eq_some_iff.mp h.symm
  exact ⟨vrf', hb, congrArg Prod.fst htree, congrArg Prod.snd htree⟩

/-! ## The trees and the counts -/

structure NodePlaces (s : Fib) : Prop where
  vrfs : ∀ v vrf, s.vrf v = some vrf → vrf.vrf_id = v ∧ Tree.Keyed vrf.sai_nh_tree
  node : ∀ v vrf key p, s.vrf v = some vrf → (key, p) ∈ vrf.sai_nh_tree →
    s.NhLive p ∧ (s.nh p).key = key ∧ (s.nh p).vrf_id = v
  entry : ∀ p, s.NhLive p →
    ∃ vrf, s.vrf (s.nh p).vrf_id = some vrf ∧ ((s.nh p).key, p) ∈ vrf.sai_nh_tree
  home : ∀ p, s.NhLive p →
    ∃ rif, s.rif (s.nh p).key.rif_id = some rif ∧ rif.vrf_id = (s.nh p).vrf_id
  rifs : (s.router_interface_tree.map Rif.rif_id).Nodup

/-- Nodes and tree entries are one to one, and each router interface counts its nodes. -/
structure NodeTrees (s : Fib) : Prop where
  vrfs : ∀ v vrf, s.vrf v = some vrf → vrf.vrf_id = v ∧ Tree.Keyed vrf.sai_nh_tree
  node : ∀ v vrf key p, s.vrf v = some vrf → (key, p) ∈ vrf.sai_nh_tree →
    s.NhLive p ∧ (s.nh p).key = key ∧ (s.nh p).vrf_id = v
  entry : ∀ p, s.NhLive p →
    ∃ vrf, s.vrf (s.nh p).vrf_id = some vrf ∧ ((s.nh p).key, p) ∈ vrf.sai_nh_tree
  home : ∀ p, s.NhLive p →
    ∃ rif, s.rif (s.nh p).key.rif_id = some rif ∧ rif.vrf_id = (s.nh p).vrf_id
  rifs : (s.router_interface_tree.map Rif.rif_id).Nodup
  refs : ∀ rif ∈ s.router_interface_tree,
    rif.ref_count = s.nhs.sum fun n => if n.key.rif_id = rif.rif_id then 1 else 0

theorem NodeTrees.nodePlaces (h : NodeTrees s) : NodePlaces s :=
  ⟨h.vrfs, h.node, h.entry, h.home, h.rifs⟩

theorem NodePlaces.counted (h : NodePlaces s) (hrefs : ∀ rif ∈ s.router_interface_tree,
      rif.ref_count = s.nhs.sum fun n => if n.key.rif_id = rif.rif_id then 1 else 0) : NodeTrees s :=
  ⟨h.vrfs, h.node, h.entry, h.home, h.rifs, hrefs⟩

/-- Where the nodes are is read off what lives, the places, and the trees. -/
theorem NodePlaces.of_views (h : NodePlaces s) (hlive : ∀ q, t.NhLive q ↔ s.NhLive q)
    (hplace : ∀ q, (t.nh q).place = (s.nh q).place)
    (hvrfs : ∀ v, (t.vrf v).map Vrf.nhTree = (s.vrf v).map Vrf.nhTree)
    (hrifs : t.router_interface_tree = s.router_interface_tree) : NodePlaces t := by
  have hkey : ∀ q, (t.nh q).key = (s.nh q).key := fun q => congrArg Prod.fst (hplace q)
  have hvrf_id : ∀ q, (t.nh q).vrf_id = (s.nh q).vrf_id := fun q => congrArg Prod.snd (hplace q)
  refine ⟨fun v vrf hv => ?_, fun v vrf key p hv hmem => ?_, fun p hp => ?_, fun p hp => ?_, ?_⟩
  · obtain ⟨vrf', hv', hid, htree⟩ := vrf_of_nhTree (hvrfs v) hv
    rw [← hid, ← htree]
    exact h.vrfs v _ hv'
  · obtain ⟨vrf', hv', -, htree⟩ := vrf_of_nhTree (hvrfs v) hv
    rw [hlive, hkey, hvrf_id]
    rw [← htree] at hmem
    exact h.node v _ key p hv' hmem
  · obtain ⟨vrf, hv, hmem⟩ := h.entry p ((hlive p).mp hp)
    obtain ⟨vrf', hv', -, htree⟩ := vrf_of_nhTree (hvrfs _).symm hv
    rw [hkey, hvrf_id]
    exact ⟨vrf', hv', htree ▸ hmem⟩
  · rw [hkey, hvrf_id]
    unfold Fib.rif
    rw [hrifs]
    exact h.home p ((hlive p).mp hp)
  · rw [hrifs]
    exact h.rifs

theorem NodePlaces.of_same (h : NodePlaces s) (hsame : SamePlaces s t) : NodePlaces t :=
  h.of_views hsame.live hsame.place hsame.vrfs hsame.rifs

theorem NodeTrees.of_same (h : NodeTrees s) (hsame : SamePlaces s t) :
    NodeTrees t := by
  refine (h.nodePlaces.of_same hsame).counted fun rif hrif => ?_
  rw [hsame.rifs] at hrif
  have hsum : ∀ u : Fib, (u.nhs.sum fun n => if n.key.rif_id = rif.rif_id then 1 else 0) =
      (u.nhs.map Nh.place).sum fun x => if x.1.rif_id = rif.rif_id then 1 else 0 := fun u =>
    (Heap.sum_map u.nhs Nh.place fun x => if x.1.rif_id = rif.rif_id then 1 else 0).symm
  rw [h.refs rif hrif, hsum s, hsum t, hsame.nhs]

theorem NodePlaces.nodeGet (h : NodePlaces s) {key}
    (hget : ipNextHopNodeGet key s = some p) : s.NhLive p ∧ (s.nh p).key = key := by
  unfold ipNextHopNodeGet at hget
  obtain ⟨vrf, hvrf, hfind⟩ := Option.bind_eq_some_iff.mp hget
  unfold vrfForRif at hvrf
  obtain ⟨rif, -, hv⟩ := Option.bind_eq_some_iff.mp hvrf
  obtain ⟨hlive, hkey, -⟩ := h.node _ vrf key p hv (Tree.mem_of_find hfind)
  exact ⟨hlive, hkey⟩

theorem NodeTrees.nodeGet (h : NodeTrees s) {key}
    (hget : ipNextHopNodeGet key s = some p) : s.NhLive p ∧ (s.nh p).key = key :=
  h.nodePlaces.nodeGet hget

theorem NodePlaces.home_of_vrfForRif (h : NodePlaces s) {rif_id vrf_id}
    (hvrf : ∃ vrf, s.vrfForRif rif_id = some vrf ∧ vrf.vrf_id = vrf_id) :
    ∃ rif, s.rif rif_id = some rif ∧ rif.vrf_id = vrf_id := by
  obtain ⟨vrf, hfor, hid⟩ := hvrf
  unfold vrfForRif at hfor
  obtain ⟨rif, hrif, hv⟩ := Option.bind_eq_some_iff.mp hfor
  exact ⟨rif, hrif, (h.vrfs _ _ hv).1.symm.trans hid⟩

theorem NodeTrees.home_of_vrfForRif (h : NodeTrees s) {rif_id vrf_id}
    (hvrf : ∃ vrf, s.vrfForRif rif_id = some vrf ∧ vrf.vrf_id = vrf_id) :
    ∃ rif, s.rif rif_id = some rif ∧ rif.vrf_id = vrf_id :=
  h.nodePlaces.home_of_vrfForRif hvrf

theorem NodePlaces.nodeGet_self (h : NodePlaces s) (hp : s.NhLive p) :
    ipNextHopNodeGet (s.nh p).key s = some p := by
  obtain ⟨rif, hrif, hvrf⟩ := h.home p hp
  obtain ⟨vrf, hv, hmem⟩ := h.entry p hp
  unfold ipNextHopNodeGet vrfForRif
  rw [hrif, Option.bind_some, hvrf, hv, Option.bind_some]
  exact Tree.find_of_mem (h.vrfs _ _ hv).2 hmem

theorem NodeTrees.nodeGet_self (h : NodeTrees s) (hp : s.NhLive p) :
    ipNextHopNodeGet (s.nh p).key s = some p :=
  h.nodePlaces.nodeGet_self hp

theorem nh_nhNodeAlloc (nh_info) (s) (q) :
    (nhNodeAlloc nh_info s).nh q = if q = s.nhs.next then
      { nh_info with nh_group_list := [], dep_encap_nh_list := [], dep_route_list := [] }
    else s.nh q := by
  unfold Fib.nh nhNodeAlloc
  rw [Heap.get_alloc]
  split <;> rfl

theorem nhLive_nhNodeAlloc (nh_info) (s) (q) :
    (nhNodeAlloc nh_info s).NhLive q ↔ q = s.nhs.next ∨ s.NhLive q := by
  unfold NhLive nhNodeAlloc
  rw [Heap.get_alloc]
  by_cases hq : q = s.nhs.next
  · simp [hq]
  · simp [hq]

theorem not_nhLive_next (s : Fib) : ¬ s.NhLive s.nhs.next := by
  simp [NhLive]

theorem nhLive_nhNodeFree {p} (s) (q) :
    (nhNodeFree p s).NhLive q ↔ q ≠ p ∧ s.NhLive q := by
  unfold NhLive nhNodeFree
  rw [Heap.get_free]
  by_cases hq : q = p
  · simp [hq]
  · simp [hq]

theorem nh_nhNodeFree_of_ne {p q} (hq : q ≠ p) (s) :
    (nhNodeFree p s).nh q = s.nh q := by
  unfold Fib.nh nhNodeFree
  rw [Heap.get_free_of_ne _ hq]

theorem vrf_modVrf (s : Fib) (id : Oid) (f : Vrf → Vrf) (v : Oid) :
    (s.modVrf id f).vrf v = if v = id then (s.vrf v).map f else s.vrf v := rfl

theorem rif_mem_modRif {id} {rif} :
    rif ∈ (s.modRif id f).router_interface_tree ↔
      ∃ r ∈ s.router_interface_tree, rif = if r.rif_id = id then f r else r := by
  unfold modRif
  rw [List.mem_map]
  constructor
  · rintro ⟨r, hr, rfl⟩
    exact ⟨r, hr, rfl⟩
  · rintro ⟨r, hr, rfl⟩
    exact ⟨r, hr, rfl⟩

theorem rif_ids_modRif (hf : ∀ r, (f r).rif_id = r.rif_id) (s : Fib) (id : Oid) :
    (s.modRif id f).router_interface_tree.map Rif.rif_id =
      s.router_interface_tree.map Rif.rif_id := by
  unfold modRif
  rw [List.map_map]
  refine List.map_congr_left fun r _ => ?_
  show (if r.rif_id = id then f r else r).rif_id = r.rif_id
  split
  · exact hf r
  · rfl

theorem rif_modRif (hf : ∀ r, (f r).rif_id = r.rif_id) (s : Fib) (id j : Oid) :
    (s.modRif id f).rif j = (s.rif j).map fun r => if r.rif_id = id then f r else r := by
  unfold Fib.rif modRif
  rw [List.find?_map]
  congr 2
  funext r
  show decide ((if r.rif_id = id then f r else r).rif_id = j) = decide (r.rif_id = j)
  split
  · rw [hf]
  · rfl

theorem home_modRif (hf : ∀ r, (f r).rif_id = r.rif_id)
    (hv : ∀ r, (f r).vrf_id = r.vrf_id) {id rif_id vrf_id}
    (h : ∃ rif, s.rif rif_id = some rif ∧ rif.vrf_id = vrf_id) :
    ∃ rif, (s.modRif id f).rif rif_id = some rif ∧ rif.vrf_id = vrf_id := by
  obtain ⟨rif, hrif, hvrf⟩ := h
  rw [rif_modRif hf, hrif]
  refine ⟨_, rfl, ?_⟩
  simp only
  split
  · rw [hv, hvrf]
  · exact hvrf

theorem NodePlaces.create (h : NodePlaces s) {vrf}
    (hv : s.vrf nh_info.vrf_id = some vrf) (hnew : Tree.find vrf.sai_nh_tree nh_info.key = none)
    (hhome : ∃ rif, s.rif nh_info.key.rif_id = some rif ∧ rif.vrf_id = nh_info.vrf_id) :
    NodePlaces (nhRifRefCountIncr s.nhs.next
      (vrfNhTreeInsert nh_info.vrf_id nh_info.key s.nhs.next (nhNodeAlloc nh_info s))) := by
  have hkey : ((vrfNhTreeInsert nh_info.vrf_id nh_info.key s.nhs.next (nhNodeAlloc nh_info s)).nh
      s.nhs.next).key = nh_info.key := by
    show ((nhNodeAlloc nh_info s).nh s.nhs.next).key = _
    rw [nh_nhNodeAlloc, if_pos rfl]
  unfold nhRifRefCountIncr
  rw [hkey]
  refine ⟨fun v vrf' hv' => ?_, fun v vrf' key p hv' hmem => ?_, fun p hp => ?_, fun p hp => ?_, ?_⟩
  · change (s.modVrf _ _).vrf v = some vrf' at hv'
    rw [vrf_modVrf] at hv'
    split at hv'
    next heq =>
      subst heq
      rw [hv] at hv'
      cases hv'
      obtain ⟨hid, hkeyed⟩ := h.vrfs _ vrf hv
      exact ⟨hid, hkeyed.insert _ hnew⟩
    · exact h.vrfs v _ hv'
  · change (s.modVrf _ _).vrf v = some vrf' at hv'
    show (nhNodeAlloc nh_info s).NhLive p ∧ ((nhNodeAlloc nh_info s).nh p).key = key ∧
      ((nhNodeAlloc nh_info s).nh p).vrf_id = v
    -- an entry of the old tree is not about the new node
    have hold : ∀ vrf₀, s.vrf v = some vrf₀ → (key, p) ∈ vrf₀.sai_nh_tree →
        (nhNodeAlloc nh_info s).NhLive p ∧ ((nhNodeAlloc nh_info s).nh p).key = key ∧
          ((nhNodeAlloc nh_info s).nh p).vrf_id = v := by
      intro vrf₀ hv₀ hmem₀
      obtain ⟨hlive, hk, hvid⟩ := h.node v _ key p hv₀ hmem₀
      have hne : p ≠ s.nhs.next := by
        rintro rfl
        exact not_nhLive_next s hlive
      rw [nhLive_nhNodeAlloc, nh_nhNodeAlloc, if_neg hne]
      exact ⟨.inr hlive, hk, hvid⟩
    rw [vrf_modVrf] at hv'
    split at hv'
    next heq =>
      subst heq
      rw [hv] at hv'
      cases hv'
      rcases Tree.mem_insert.mp hmem with hmem | heq
      · exact hold vrf hv hmem
      cases heq
      rw [nhLive_nhNodeAlloc, nh_nhNodeAlloc, if_pos rfl]
      exact ⟨.inl rfl, rfl, rfl⟩
    · exact hold vrf' hv' hmem
  · change (nhNodeAlloc nh_info s).NhLive p at hp
    show ∃ vrf', (s.modVrf _ _).vrf ((nhNodeAlloc nh_info s).nh p).vrf_id = some vrf' ∧
      (((nhNodeAlloc nh_info s).nh p).key, p) ∈ vrf'.sai_nh_tree
    rw [nh_nhNodeAlloc]
    by_cases hq : p = s.nhs.next
    · rw [if_pos hq, vrf_modVrf, if_pos rfl, hv]
      exact ⟨_, rfl, Tree.mem_insert.mpr (.inr (by rw [hq]))⟩
    have hlive : s.NhLive p := ((nhLive_nhNodeAlloc _ s p).mp hp).resolve_left hq
    obtain ⟨vrf', hv', hmem⟩ := h.entry p hlive
    rw [if_neg hq, vrf_modVrf]
    split
    · rw [hv']
      exact ⟨_, rfl, Tree.mem_insert.mpr (.inl hmem)⟩
    · exact ⟨vrf', hv', hmem⟩
  · refine home_modRif (s := s) (f := fun r => { r with ref_count := r.ref_count + 1 })
      (fun _ => rfl) (fun _ => rfl) ?_
    show ∃ rif, s.rif ((nhNodeAlloc nh_info s).nh p).key.rif_id = some rif ∧
      rif.vrf_id = ((nhNodeAlloc nh_info s).nh p).vrf_id
    rw [nh_nhNodeAlloc]
    split
    · exact hhome
    next hq => exact h.home p (((nhLive_nhNodeAlloc _ s p).mp hp).resolve_left hq)
  · rw [rif_ids_modRif (f := fun r => { r with ref_count := r.ref_count + 1 }) (fun _ => rfl)]
    exact h.rifs

theorem NodeTrees.create (h : NodeTrees s) {vrf}
    (hv : s.vrf nh_info.vrf_id = some vrf) (hnew : Tree.find vrf.sai_nh_tree nh_info.key = none)
    (hhome : ∃ rif, s.rif nh_info.key.rif_id = some rif ∧ rif.vrf_id = nh_info.vrf_id) :
    NodeTrees (nhRifRefCountIncr s.nhs.next
      (vrfNhTreeInsert nh_info.vrf_id nh_info.key s.nhs.next (nhNodeAlloc nh_info s))) := by
  have hkey : ((vrfNhTreeInsert nh_info.vrf_id nh_info.key s.nhs.next (nhNodeAlloc nh_info s)).nh
      s.nhs.next).key = nh_info.key := by
    show ((nhNodeAlloc nh_info s).nh s.nhs.next).key = _
    rw [nh_nhNodeAlloc, if_pos rfl]
  refine (h.nodePlaces.create hv hnew hhome).counted ?_
  unfold nhRifRefCountIncr
  rw [hkey]
  intro rif hrif
  obtain ⟨r, hr, rfl⟩ := rif_mem_modRif.mp hrif
  have hcount := h.refs r hr
  change _ = (s.nhs.alloc _).sum _
  rw [Heap.sum_alloc]
  by_cases hid : r.rif_id = nh_info.key.rif_id
  · rw [if_pos hid]
    simp only
    rw [if_pos hid.symm]
    omega
  have hne : ¬ nh_info.key.rif_id = r.rif_id := fun heq => hid heq.symm
  rw [if_neg hid]
  simp only
  rw [if_neg hne]
  omega

theorem NodePlaces.delete (h : NodePlaces s) (hp : s.NhLive p) :
    NodePlaces (nhNodeFree p (nhRifRefCountDecr p (vrfNhTreeRemove (s.nh p).vrf_id (s.nh p).key s))):= by
  have hkey : ((vrfNhTreeRemove (s.nh p).vrf_id (s.nh p).key s).nh p).key = (s.nh p).key := rfl
  unfold nhRifRefCountDecr
  rw [hkey]
  have hlive : ∀ q, (nhNodeFree p ((vrfNhTreeRemove (s.nh p).vrf_id (s.nh p).key s).modRif
      (s.nh p).key.rif_id fun r => { r with ref_count := r.ref_count - 1 })).NhLive q ↔
        q ≠ p ∧ s.NhLive q := fun q =>
    nhLive_nhNodeFree _ q
  have hread : ∀ q, q ≠ p → (nhNodeFree p ((vrfNhTreeRemove (s.nh p).vrf_id (s.nh p).key s).modRif
      (s.nh p).key.rif_id fun r => { r with ref_count := r.ref_count - 1 })).nh q = s.nh q :=
    fun q hq => nh_nhNodeFree_of_ne hq _
  refine ⟨fun v vrf' hv' => ?_, fun v vrf' key q hv' hmem => ?_, fun q hq => ?_, fun q hq => ?_, ?_⟩
  · change (s.modVrf _ _).vrf v = some vrf' at hv'
    rw [vrf_modVrf] at hv'
    split at hv'
    · obtain ⟨vrf, hv, rfl⟩ := Option.map_eq_some_iff.mp hv'
      obtain ⟨hid, hkeyed⟩ := h.vrfs v vrf hv
      exact ⟨hid, hkeyed.erase _⟩
    · exact h.vrfs v _ hv'
  · change (s.modVrf _ _).vrf v = some vrf' at hv'
    rw [vrf_modVrf] at hv'
    -- the entry that is left is not the one of the node that goes
    have hne : q ≠ p ∧ s.NhLive q ∧ (s.nh q).key = key ∧ (s.nh q).vrf_id = v := by
      split at hv'
      next heq =>
        obtain ⟨vrf, hv, rfl⟩ := Option.map_eq_some_iff.mp hv'
        obtain ⟨hmem, hk⟩ := Tree.mem_erase.mp hmem
        obtain ⟨hl, hkq, hvq⟩ := h.node v vrf key q hv hmem
        refine ⟨?_, hl, hkq, hvq⟩
        rintro rfl
        exact hk hkq.symm
      next hv₀ =>
        obtain ⟨hl, hkq, hvq⟩ := h.node v _ key q hv' hmem
        refine ⟨?_, hl, hkq, hvq⟩
        rintro rfl
        exact hv₀ hvq.symm
    obtain ⟨hne, hl, hkq, hvq⟩ := hne
    rw [hlive, hread q hne]
    exact ⟨⟨hne, hl⟩, hkq, hvq⟩
  · obtain ⟨hne, hl⟩ := (hlive q).mp hq
    rw [hread q hne]
    obtain ⟨vrf, hv, hmem⟩ := h.entry q hl
    show ∃ vrf', (s.modVrf _ _).vrf (s.nh q).vrf_id = some vrf' ∧ _
    rw [vrf_modVrf]
    split
    next heq =>
      rw [hv]
      refine ⟨_, rfl, Tree.mem_erase.mpr ⟨hmem, ?_⟩⟩
      -- two nodes of one tree have two keys
      intro hk
      obtain ⟨vrf', hv', hmem'⟩ := h.entry p hp
      rw [heq, hv'] at hv
      cases hv
      simp only at hk
      rw [hk] at hmem
      exact hne ((h.vrfs _ _ hv').2.eq_of_key hmem hmem')
    · exact ⟨vrf, hv, hmem⟩
  · obtain ⟨hne, hl⟩ := (hlive q).mp hq
    rw [hread q hne]
    exact home_modRif (s := s) (f := fun r => { r with ref_count := r.ref_count - 1 })
      (fun _ => rfl) (fun _ => rfl) (h.home q hl)
  · show ((vrfNhTreeRemove (s.nh p).vrf_id (s.nh p).key s).modRif (s.nh p).key.rif_id
      fun r => { r with ref_count := r.ref_count - 1 }).router_interface_tree.map _ |>.Nodup
    rw [rif_ids_modRif (f := fun r => { r with ref_count := r.ref_count - 1 }) (fun _ => rfl)]
    exact h.rifs

theorem NodeTrees.delete (h : NodeTrees s) (hp : s.NhLive p) :
    NodeTrees (nhNodeFree p (nhRifRefCountDecr p (vrfNhTreeRemove (s.nh p).vrf_id (s.nh p).key s))):= by
  have hkey : ((vrfNhTreeRemove (s.nh p).vrf_id (s.nh p).key s).nh p).key = (s.nh p).key := rfl
  refine (h.nodePlaces.delete hp).counted ?_
  unfold nhRifRefCountDecr
  rw [hkey]
  intro rif hrif
  obtain ⟨r, hr, rfl⟩ := rif_mem_modRif.mp hrif
  have hcount := h.refs r hr
  have hsum := Heap.sum_free (get_of_nhLive hp)
    fun n => if n.key.rif_id = r.rif_id then 1 else 0
  change _ = (s.nhs.free p).sum _
  by_cases hid : r.rif_id = (s.nh p).key.rif_id
  · rw [if_pos hid.symm] at hsum
    rw [if_pos hid]
    simp only
    omega
  have hne : ¬ (s.nh p).key.rif_id = r.rif_id := fun heq => hid heq.symm
  rw [if_neg hne] at hsum
  rw [if_neg hid]
  omega

/-! ## The owners and the id tree -/

/-- The trees, the owners and the id tree agree, but for `unowned`, a node that may have no
owner for the moment, and `unlisted`, a node that is out of the id tree for the moment. -/
structure NodeState (unowned unlisted : Option Ptr) (s : Fib) : Prop extends NodeTrees s where
  owned : ∀ p, s.NhLive p → some p ≠ unowned → (s.nh p).owner_flag.isZero = false
  ids : ∀ id p, s.nh_id_tree id = some p ↔ some p ≠ unlisted ∧
    (s.nh p).owner_flag.next_hop = true ∧ (s.nh p).next_hop_id = id
  /-- What is in a group is a next hop, and counted. -/
  linked : ∀ p, (s.nh p).nh_group_list ≠ [] →
    (s.nh p).owner_flag.next_hop = true ∧ (s.nh p).ref_count ≠ 0

section NodeState

variable {a b : Option Ptr}

theorem NodeState.of_life (h : NodeState a b s) (ht : NodeTrees t)
    (hlive : ∀ q, t.NhLive q ↔ s.NhLive q) (hlife : ∀ q, (t.nh q).life = (s.nh q).life)
    (hids : t.nh_id_tree = s.nh_id_tree) : NodeState a b t := by
  have hflag : ∀ q, (t.nh q).owner_flag = (s.nh q).owner_flag := fun q => congrArg (·.2.2.1) (hlife q)
  refine ⟨ht, fun q hq hne => ?_, fun id q => ?_, fun q hq => ?_⟩
  · rw [hflag]
    exact h.owned q ((hlive q).mp hq) hne
  · rw [hids, hflag, show (t.nh q).next_hop_id = _ from congrArg (·.2.1) (hlife q)]
    exact h.ids id q
  · rw [show (t.nh q).nh_group_list = _ from congrArg (·.2.2.2.1) (hlife q)] at hq
    rw [hflag, show (t.nh q).ref_count = _ from congrArg (·.2.2.2.2) (hlife q)]
    exact h.linked q hq

theorem NodeState.of_same (h : NodeState a b s) (hsame : SameNodes s t) : NodeState a b t :=
  h.of_life (h.toNodeTrees.of_same hsame.places) hsame.places.live hsame.life hsame.ids

theorem NodeState.of_core (h : NodeState a b s) (hcore : t.core = s.core) : NodeState a b t :=
  h.of_same (SameNodes.of_core hcore)

theorem nhLive_of_next_hop (h : (s.nh p).owner_flag.next_hop = true) : s.NhLive p := by
  by_contra hdead
  rw [nh_of_not_live hdead] at h
  simp [Nh.zero] at h

theorem NodeState.modNh (h : NodeState a b s) (hp : s.NhLive p) {f : Nh → Nh}
    (hplace : (f (s.nh p)).place = (s.nh p).place)
    (howned : some p = a ∨ (f (s.nh p)).owner_flag.isZero = false)
    (hids : some p = b ∨ ((f (s.nh p)).owner_flag.next_hop = (s.nh p).owner_flag.next_hop ∧
      (f (s.nh p)).next_hop_id = (s.nh p).next_hop_id))
    (hlinked : (f (s.nh p)).nh_group_list ≠ [] →
      (f (s.nh p)).owner_flag.next_hop = true ∧ (f (s.nh p)).ref_count ≠ 0) :
    NodeState a b (s.modNh p f) := by
  refine ⟨h.toNodeTrees.of_same (SamePlaces.modNh s p hplace), fun q hq hne => ?_,
    fun id q => ?_, fun q hq => ?_⟩
  · rw [nh_modNh hp]
    split
    next heq =>
      subst heq
      exact howned.resolve_left hne
    · exact h.owned q ((nhLive_modNh s p q f).mp hq) hne
  · show s.nh_id_tree id = some q ↔ _
    rw [h.ids id q, nh_modNh hp]
    split
    next heq =>
      subst heq
      rcases hids with hb | ⟨hflag, hid⟩
      · simp [hb]
      · rw [hflag, hid]
    · rfl
  · rw [nh_modNh hp] at hq ⊢
    split at hq
    next heq =>
      subst heq
      rw [if_pos rfl]
      exact hlinked hq
    rename_i heq
    rw [if_neg heq]
    exact h.linked q hq

theorem NodeState.letUnowned (h : NodeState none b s) {p} : NodeState (some p) b s :=
  ⟨h.toNodeTrees, fun q hq _ => h.owned q hq (by simp), h.ids, h.linked⟩

theorem NodeState.owned_of (h : NodeState (some p) b s)
    (hp : (s.nh p).owner_flag.isZero = false) : NodeState none b s := by
  refine ⟨h.toNodeTrees, fun q hq _ => ?_, h.ids, h.linked⟩
  by_cases hne : q = p
  · rw [hne]
    exact hp
  · exact h.owned q hq (by simpa using hne)

theorem NodeState.unlist (h : NodeState a none s)
    (hp : (s.nh p).owner_flag.next_hop = false) : NodeState a (some p) s := by
  refine ⟨h.toNodeTrees, h.owned, fun id q => ?_, h.linked⟩
  rw [h.ids id q]
  by_cases hne : q = p
  · simp [hne, hp]
  · simp [hne]

theorem NodeState.list_of (h : NodeState a (some p) s)
    (hp : (s.nh p).owner_flag.next_hop = false) : NodeState a none s := by
  refine ⟨h.toNodeTrees, h.owned, fun id q => ?_, h.linked⟩
  rw [h.ids id q]
  by_cases hne : q = p
  · simp [hne, hp]
  · simp [hne]

/-! ## How a node comes and goes -/

theorem OwnerFlag.isZero_iff (f : OwnerFlag) :
    f.isZero = true ↔ f.next_hop = false ∧ f.neighbor = false := by
  simp [OwnerFlag.isZero]

theorem sameNodes_allocFree {nh_info} :
    (∀ q, (nhNodeFree s.nhs.next (nhNodeAlloc nh_info s)).nhs.get q = s.nhs.get q) :=
  Heap.get_free_alloc_next _ _

theorem NodePlaces.of_get (h : NodePlaces s) (hget : ∀ q, t.nhs.get q = s.nhs.get q)
    (hvrf : t.vrf_tree = s.vrf_tree) (hrif : t.router_interface_tree = s.router_interface_tree) :
    NodePlaces t := by
  refine h.of_views (fun q => ?_) (fun q => nh_map_congr (by rw [hget])) (fun v => ?_) hrif
  · unfold NhLive
    rw [hget]
  · unfold Fib.vrf
    rw [hvrf]

theorem NodeTrees.of_get (h : NodeTrees s) (hget : ∀ q, t.nhs.get q = s.nhs.get q)
    (hvrf : t.vrf_tree = s.vrf_tree) (hrif : t.router_interface_tree = s.router_interface_tree) :
    NodeTrees t := by
  refine (h.nodePlaces.of_get hget hvrf hrif).counted fun rif hr => ?_
  rw [hrif] at hr
  rw [h.refs rif hr, Heap.sum_congr_get fun q => (hget q).symm]

theorem NodeState.of_get (h : NodeState a b s) (hget : ∀ q, t.nhs.get q = s.nhs.get q)
    (hvrf : t.vrf_tree = s.vrf_tree) (hrif : t.router_interface_tree = s.router_interface_tree)
    (hids : t.nh_id_tree = s.nh_id_tree) : NodeState a b t := by
  refine h.of_life (h.toNodeTrees.of_get hget hvrf hrif) (fun q => ?_)
    (fun q => nh_map_congr (by rw [hget])) hids
  unfold NhLive
  rw [hget]

def nhNodeMade (vrf_id : Oid) (nh_info : Nh) (s : Fib) : Fib :=
  nhRifRefCountIncr s.nhs.next (vrfNhTreeInsert vrf_id nh_info.key s.nhs.next (nhNodeAlloc nh_info s))

/-- **All that the create of a node can do**: the heap is as it was, or there is a node that was not. -/
theorem ipNextHopNodeCreate_cases {x} {vrf_id}
    (hx : ipNextHopNodeCreate env vrf_id nh_info s = x) :
    (∃ status nhs, status ≠ .success ∧ (∀ q, nhs.get q = s.nhs.get q) ∧ x = (.error status, { s with nhs := nhs })) ∨
    (∃ vrf, s.vrf vrf_id = some vrf ∧ Tree.find vrf.sai_nh_tree nh_info.key = none ∧
      x = (.ok s.nhs.next, nhNodeMade vrf_id nh_info s)) := by
  unfold ipNextHopNodeCreate at hx
  split at hx
  · exact .inl ⟨_, s.nhs, by simp, fun _ => rfl, hx.symm⟩
  rename_i vrf hv
  split at hx
  · exact .inl ⟨_, s.nhs, by simp, fun _ => rfl, hx.symm⟩
  simp only at hx
  split at hx
  · exact .inl ⟨_, _, by simp, sameNodes_allocFree, hx.symm⟩
  rename_i hnew
  refine .inr ⟨vrf, hv, ?_, hx.symm⟩
  have hnot : ¬ (Tree.find vrf.sai_nh_tree nh_info.key).isSome := fun hsome => hnew (by simp [hsome])
  simpa using hnot

/-- **Creating the node.** The new node has the info it is given, and no owner bit yet. -/
theorem ipNextHopNodeCreate_state (h : NodeState none none s) (hflag : nh_info.owner_flag = ⟨false, false⟩)
    (hvrf : ∃ vrf, s.vrfForRif nh_info.key.rif_id = some vrf ∧ vrf.vrf_id = nh_info.vrf_id)
    (hx : ipNextHopNodeCreate env nh_info.vrf_id nh_info s = (x, t)) :
    match x with
    | .error _ => NodeState none none t
    | .ok p => NodeState (some p) none t ∧ t.NhLive p ∧ t.nh p = { nh_info with nh_group_list:= [], dep_encap_nh_list := [], dep_route_list := [] } := by
  obtain ⟨status, nhs, -, hget, hx⟩ | ⟨vrf, hv, hfind, hx⟩ := ipNextHopNodeCreate_cases hx
  · cases hx
    exact h.of_get hget rfl rfl rfl
  cases hx
  have hnh : ∀ q, (nhNodeMade nh_info.vrf_id nh_info s).nh q = (nhNodeAlloc nh_info s).nh q := fun _ => rfl
  have hlive : ∀ q, (nhNodeMade nh_info.vrf_id nh_info s).NhLive q ↔ q = s.nhs.next ∨ s.NhLive q :=
    nhLive_nhNodeAlloc _ s
  refine ⟨⟨h.toNodeTrees.create hv hfind (h.toNodeTrees.home_of_vrfForRif hvrf), fun q hq hne => ?_, fun id q => ?_,
    fun q hq => ?_⟩, (hlive _).mpr (.inl rfl), ?_⟩
  · have hqn : q ≠ s.nhs.next := by simpa using hne
    rw [hnh, nh_nhNodeAlloc, if_neg hqn]
    exact h.owned q (((hlive q).mp hq).resolve_left hqn) (by simp)
  · show s.nh_id_tree id = some q ↔ _
    rw [h.ids id q, hnh, nh_nhNodeAlloc]
    split
    · -- the new node is no next hop, and neither is what was not there before
      rename_i hqn
      rw [hqn, nh_of_not_live (not_nhLive_next s)]
      simp [hflag, Nh.zero]
    · rfl
  · rw [hnh, nh_nhNodeAlloc] at hq ⊢
    split at hq
    · exact absurd rfl hq
    rename_i hqn
    rw [if_neg hqn]
    exact h.linked q hq
  · rw [hnh, nh_nhNodeAlloc, if_pos rfl]

theorem checkAndDeleteIpNextHopNode_state (h : NodeState (some p) none s) (hp : s.NhLive p) :
    NodeState none none (checkAndDeleteIpNextHopNode (s.nh p).vrf_id p s).2 := by
  unfold checkAndDeleteIpNextHopNode
  split
  next hzero =>
    obtain ⟨vrf, hv, -⟩ := h.entry p hp
    rw [hv]
    have hflag : (s.nh p).owner_flag.next_hop = false := ((OwnerFlag.isZero_iff _).mp hzero).1
    have hlive : ∀ q, (nhNodeFree p (nhRifRefCountDecr p
        (vrfNhTreeRemove (s.nh p).vrf_id (s.nh p).key s))).NhLive q ↔ q ≠ p ∧ s.NhLive q :=
      fun q => nhLive_nhNodeFree _ q
    have hread : ∀ q, q ≠ p → (nhNodeFree p (nhRifRefCountDecr p
        (vrfNhTreeRemove (s.nh p).vrf_id (s.nh p).key s))).nh q = s.nh q :=
      fun q hq => nh_nhNodeFree_of_ne hq _
    refine ⟨h.toNodeTrees.delete hp, fun q hq _ => ?_, fun id q => ?_, fun q hq => ?_⟩
    · obtain ⟨hne, hl⟩ := (hlive q).mp hq
      rw [hread q hne]
      exact h.owned q hl (by simpa using hne)
    · show s.nh_id_tree id = some q ↔ _
      rw [h.ids id q]
      by_cases hne : q = p
      · have hdead := mt (hlive q).mp fun hand => hand.1 hne
        rw [nh_of_not_live hdead, hne, hflag]
        simp [Nh.zero]
      · rw [hread q hne]
    · by_cases hne : q = p
      · have hdead := mt (hlive q).mp fun hand => hand.1 hne
        rw [nh_of_not_live hdead] at hq
        exact absurd rfl hq
      · rw [hread q hne] at hq ⊢
        exact h.linked q hq
  next hzero => exact h.owned_of (by simpa using hzero)

theorem nhIdTreeInsert_state {env} (h : NodeState a (some p) s)
    (hp : (s.nh p).owner_flag.next_hop = true) :
    ((nhIdTreeInsert env p s).1 = .success ∧ NodeState a none (nhIdTreeInsert env p s).2) ∨
      ((nhIdTreeInsert env p s).1 ≠ .success ∧ (nhIdTreeInsert env p s).2 = s ∧
        ((s.nh_id_tree (s.nh p).next_hop_id).isSome ∨ env.avail .nhIdTree = false)) := by
  unfold nhIdTreeInsert
  simp only
  split
  next hnew =>
    left
    refine ⟨rfl, h.toNodeTrees.of_same ⟨rfl, fun _ => rfl, rfl⟩, h.owned, fun id q => ?_,
      h.linked⟩
    have hnone : s.nh_id_tree (s.nh p).next_hop_id = none := by
      have hboth := Bool.and_eq_true_iff.mp hnew
      exact Option.isNone_iff_eq_none.mp hboth.1
    show (if id = (s.nh p).next_hop_id then some p else s.nh_id_tree id) = some q ↔
      some q ≠ none ∧ (s.nh q).owner_flag.next_hop = true ∧ (s.nh q).next_hop_id = id
    split
    next hid =>
      constructor
      · intro hq
        cases hq
        exact ⟨by simp, hp, hid.symm⟩
      · rintro ⟨-, hflag, hqid⟩
        -- another next hop with this id would have been in the tree
        by_contra hne
        have hin := (h.ids id q).mpr ⟨by simpa [eq_comm] using hne, hflag, hqid⟩
        rw [hid, hnone] at hin
        simp at hin
    next hid =>
      rw [h.ids id q]
      by_cases hq : q = p
      · subst hq
        constructor
        · intro hand
          exact absurd rfl hand.1
        · rintro ⟨-, -, hqid⟩
          exact absurd hqid.symm hid
      · simp [hq]
  next hnew =>
    right
    refine ⟨by simp, rfl, ?_⟩
    by_cases havail : env.avail .nhIdTree = true
    · left
      rw [havail, Bool.and_true] at hnew
      exact Option.isSome_iff_ne_none.mpr (by simpa using hnew)
    · right
      simpa using havail

theorem nhIdTreeRemove_state (h : NodeState a none s)
    (hp : (s.nh p).owner_flag.next_hop = true) :
    (nhIdTreeRemove p s).1 = .success ∧ NodeState a (some p) (nhIdTreeRemove p s).2 ∧
      (nhIdTreeRemove p s).2.nhs = s.nhs ∧
      (nhIdTreeRemove p s).2.nh_id_tree (s.nh p).next_hop_id = none := by
  have hin : s.nh_id_tree (s.nh p).next_hop_id = some p :=
    (h.ids _ p).mpr ⟨by simp, hp, rfl⟩
  unfold nhIdTreeRemove
  simp only
  rw [if_pos hin]
  refine ⟨rfl, ⟨h.toNodeTrees.of_same ⟨rfl, fun _ => rfl, rfl⟩, h.owned, fun id q => ?_,
    h.linked⟩, rfl, ?_⟩
  · show (if id = (s.nh p).next_hop_id then none else s.nh_id_tree id) = some q ↔
      some q ≠ some p ∧ (s.nh q).owner_flag.next_hop = true ∧ (s.nh q).next_hop_id = id
    by_cases hid : id = (s.nh p).next_hop_id
    · rw [if_pos hid]
      simp only [reduceCtorEq, false_iff]
      rintro ⟨hne, hflag, hqid⟩
      have hq := (h.ids id q).mpr ⟨by simp, hflag, hqid⟩
      rw [hid, hin] at hq
      exact hne hq.symm
    rw [if_neg hid, h.ids id q]
    constructor
    · rintro ⟨-, hflag, hqid⟩
      refine ⟨?_, hflag, hqid⟩
      intro heq
      rw [Option.some.inj heq] at hqid
      exact hid hqid.symm
    · rintro ⟨-, hflag, hqid⟩
      exact ⟨by simp, hflag, hqid⟩
  · simp

end NodeState

/-! ## Requests -/

structure NextHopInfoOk (s : Fib) (nh_info : Nh) : Prop where
  fields : nh_info = { nextHopDefaultAttr with
    key := nh_info.key, vrf_id := nh_info.vrf_id, tunnel_id := nh_info.tunnel_id }
  vrf : ∃ vrf, s.vrfForRif nh_info.key.rif_id = some vrf ∧ vrf.vrf_id = nh_info.vrf_id
  type : nh_info.key.tunnel_type = fibTunnelTypeNone

structure NextHopInfoKept (s : Fib) (info : NextHopInfo) : Prop where
  fields : info.nh_info = { nextHopDefaultAttr with
    key := info.nh_info.key, vrf_id := info.nh_info.vrf_id, tunnel_id := info.nh_info.tunnel_id }
  vrf : info.is_rif_attr_set = true →
    ∃ vrf, s.vrfForRif info.nh_info.key.rif_id = some vrf ∧ vrf.vrf_id = info.nh_info.vrf_id
  type : info.nh_info.key.tunnel_type = fibTunnelTypeNone

theorem nextHopRifSet_ok {oid} {nh_info'} (h : nextHopRifSet oid nh_info s = .ok nh_info') :
    ∃ vrf, s.vrfForRif oid = some vrf ∧ nh_info' = { nh_info with key:= { nh_info.key with rif_id := oid }, vrf_id := vrf.vrf_id } := by
  unfold nextHopRifSet at h
  split at h
  · simp at h
  split at h
  · simp at h
  split at h
  · simp at h
  next vrf hvrf => exact ⟨vrf, hvrf, (Except.ok.inj h).symm⟩

theorem nextHopAttrSet_kept {info info'} {attr}
    (hinfo : NextHopInfoKept s info) (h : nextHopAttrSet s info attr = .ok info') :
    NextHopInfoKept s info' := by
  obtain ⟨hfields, hvrf, htype⟩ := hinfo
  unfold nextHopAttrSet at h
  cases attr with
  | type s32 =>
    simp only at h
    split at h
    · simp at h
    cases h
    refine ⟨?_, hvrf, htype⟩
    simp only
    rw [hfields]
  | ip addr =>
    simp only at h
    split at h
    · simp at h
    rename_i nh_info hset
    cases h
    unfold nextHopIpAddrSet at hset
    split at hset
    · simp at hset
    cases hset
    refine ⟨?_, hvrf, htype⟩
    simp only
    rw [hfields]
  | routerInterfaceId oid =>
    simp only at h
    split at h
    · simp at h
    rename_i nh_info hset
    obtain ⟨vrf, hv, rfl⟩ := nextHopRifSet_ok hset
    cases h
    refine ⟨?_, fun _ => ⟨vrf, hv, rfl⟩, htype⟩
    simp only
    rw [hfields]
  | tunnelId oid =>
    cases h
    exact ⟨hfields, hvrf, htype⟩
  | other id => simp at h

theorem nextHopInfoFill_ok (h : nextHopInfoFill env attr_list nextHopDefaultAttr s = .ok nh_info) :
    NextHopInfoOk s nh_info := by
  unfold nextHopInfoFill at h
  split at h
  · simp at h
  split at h
  · simp at h
  rename_i info hparse
  obtain ⟨hfields, hvrf, htype⟩ := attrListParse_keeps (P := NextHopInfoKept s)
    (fun _ _ _ hkept hset => nextHopAttrSet_kept hkept hset)
    ⟨rfl, fun hset => absurd hset (by simp), rfl⟩ hparse
  split at h
  · simp at h
  rename_i hset
  have hrif : info.is_rif_attr_set = true := by
    by_contra hno
    exact hset (by simp [hno])
  split at h
  · simp at h
  split at h
  · split at h
    · simp at h
    -- the tunnel id is the last to be written
    unfold encapNextHopTunnelIdSet at h
    split at h
    · simp at h
    split at h
    · simp at h
    cases h
    refine ⟨?_, hvrf hrif, htype⟩
    simp only
    rw [hfields]
  · cases h
    exact ⟨hfields, hvrf hrif, htype⟩

theorem NextHopInfoOk.owner_flag (h : NextHopInfoOk s nh_info) :
    nh_info.owner_flag = ⟨false, false⟩ := by
  rw [h.fields]
  rfl

/-- What a neighbor request that is accepted comes to, before and after its attributes. -/
structure NeighborInfoOk (entry : NeighborEntry) (s : Fib) (nh_info : Nh) : Prop where
  key : nh_info.key = neighborIpNextHopNodeKey entry
  vrf : ∃ vrf, s.vrfForRif entry.rif_id = some vrf ∧ vrf.vrf_id = nh_info.vrf_id
  fields : nh_info = { neighborDefaultAttr with
    key := nh_info.key, vrf_id := nh_info.vrf_id, mac_addr := nh_info.mac_addr,
    packet_action := nh_info.packet_action, no_host_route := nh_info.no_host_route,
    meta_data := nh_info.meta_data }

theorem neighborKeyValidateAndFill_ok
    (h : neighborKeyValidateAndFill entry neighborDefaultAttr s = .ok nh_info) :
    NeighborInfoOk entry s nh_info := by
  unfold neighborKeyValidateAndFill at h
  split at h
  · simp at h
  split at h
  · simp at h
  rename_i vrf hv
  cases h
  exact ⟨rfl, ⟨vrf, hv, rfl⟩, rfl⟩

theorem neighborAttrSet_ok {x y} {attr}
    (h : neighborAttrSet env x attr = .ok y) : y.1 = { x.1 with
      mac_addr := y.1.mac_addr, packet_action := y.1.packet_action,
      no_host_route := y.1.no_host_route, meta_data := y.1.meta_data } := by
  unfold neighborAttrSet at h
  cases attr with
  | dstMacAddress mac =>
    simp only at h
    split at h
    · simp at h
    · cases h
      rfl
  | packetAction s32 =>
    simp only at h
    split at h
    · simp at h
    · cases h
      rfl
  | noHostRoute booldata =>
    cases h
    rfl
  | metaData u32 =>
    simp only at h
    split at h
    · simp at h
    split at h
    · simp at h
    · cases h
      rfl
  | other id => simp at h

theorem neighborInfoFill_ok {attr_list}
    {y} (h : neighborInfoFill env attr_list nh_info = .ok y) :
    y.1 = { nh_info with
      mac_addr := y.1.mac_addr, packet_action := y.1.packet_action,
      no_host_route := y.1.no_host_route, meta_data := y.1.meta_data } := by
  unfold neighborInfoFill at h
  split at h
  · simp at h
  split at h
  · simp at h
  rename_i x hparse
  have hkept := attrListParse_keeps (P := fun x : Nh × NeighborFlags => x.1 = { nh_info with
      mac_addr := x.1.mac_addr, packet_action := x.1.packet_action,
      no_host_route := x.1.no_host_route, meta_data := x.1.meta_data })
    (fun x a x' hx hset => by
      have hset := neighborAttrSet_ok hset
      rw [hx] at hset
      exact hset) rfl hparse
  split at h
  · simp at h
  · cases h
    exact hkept

theorem NeighborInfoOk.fill (hinfo : NeighborInfoOk entry s nh_info) {attr_list}
    {y} (h : neighborInfoFill env attr_list nh_info = .ok y) :
    NeighborInfoOk entry s y.1 := by
  have hfill := neighborInfoFill_ok h
  obtain ⟨hkey, hvrf, hfields⟩ := hinfo
  have hk : y.1.key = nh_info.key := by rw [hfill]
  have hv : y.1.vrf_id = nh_info.vrf_id := by rw [hfill]
  refine ⟨hk.trans hkey, hv ▸ hvrf, ?_⟩
  rw [hk, hv]
  rw [hfields] at hfill
  exact hfill

theorem neighborPortIdResolve_ok {n n'} (h : neighborPortIdResolve env n s = .ok n') :
    n' = { n with port_id := n'.port_id, port_unresolved := n'.port_unresolved } := by
  unfold neighborPortIdResolve at h
  split at h
  · simp at h
  split at h
  · cases h
    rfl
  split at h
  · cases h
    rfl
  split at h
  · cases h
    rfl
  · cases h
    rfl

theorem sameNodes_neighborMacEntryRemove (env) (p) (s) :
    SameNodes s (neighborMacEntryRemove env p s).2 := by
  unfold neighborMacEntryRemove
  split
  · exact SameNodes.refl s
  · exact SameNodes.refl s
  split
  · exact SameNodes.refl s
  simp only
  split
  · exact ⟨rfl, fun _ => rfl, rfl, rfl⟩
  · exact ⟨rfl, fun _ => rfl, rfl, rfl⟩

theorem sameNodes_neighborMacEntryInsert (env) (p) (s) :
    SameNodes s (neighborMacEntryInsert env p s).2 := by
  unfold neighborMacEntryInsert
  split
  · exact SameNodes.refl s
  · exact SameNodes.refl s
  split
  · exact ⟨rfl, fun _ => rfl, rfl, rfl⟩
  split
  · exact SameNodes.refl s
  split
  · exact SameNodes.refl s
  simp only
  split
  · exact ⟨rfl, fun _ => rfl, rfl, rfl⟩
  have hmac := fun u => sameNodes_neighborMacEntryRemove env p u
  exact SameNodes.trans (t := (Fib.call env _ (macTreeSet _ (some [p]) s)).2)
    ⟨rfl, fun _ => rfl, rfl, rfl⟩ (hmac _)

/-! ## Next hop calls -/

theorem nextHopNpuCreate_core (env) (p) (s) :
    (nextHopNpuCreate env p s).2.core = s.core := by
  unfold nextHopNpuCreate
  split
  · exact encapNextHopCreate_core env p s
  · exact call_core env _ s

theorem nextHopNpuRemove_core (env) (p) (s) :
    (nextHopNpuRemove env p s).2.core = s.core := by
  unfold nextHopNpuRemove
  split
  · exact encapNextHopRemove_core env p s
  · exact call_core env _ s

theorem nextHopNpuRemove_status (env) (p) (s) :
    (nextHopNpuRemove env p s).1 = env.status (.nexthopRemove (s.nh p)) := by
  unfold nextHopNpuRemove encapNextHopRemove
  split
  · by_cases hnpu : env.status (.nexthopRemove (s.nh p)) = .success
    · rw [andThen_of_success (x := s.call env _) hnpu]
      exact hnpu.symm
    · rw [andThen_of_failure (x := s.call env _) hnpu]
      rfl
  · rfl

section Calls

theorem nextHopNodeObtain_state (h : NodeState none none s) (hinfo : NextHopInfoOk s nh_info)
    (hx : nextHopNodeObtain env nh_info s = (x, t)) :
    match x with
    | .error _ => NodeState none none t
    | .ok p => NodeState (some p) none t ∧ t.NhLive p ∧ t.nh_id_tree = s.nh_id_tree ∧
        (t.nh p).owner_flag.next_hop = false := by
  unfold nextHopNodeObtain at hx
  split at hx
  next p hget =>
    split at hx
    · cases hx
      exact h
    rename_i hflag
    cases hx
    obtain ⟨hlive, -⟩ := h.nodeGet hget
    exact ⟨h.letUnowned, hlive, rfl, by simpa using hflag⟩
  · have hcreate := ipNextHopNodeCreate_state h hinfo.owner_flag hinfo.vrf hx
    cases x with
    | error status => exact hcreate
    | ok p =>
      obtain ⟨hstate, hlive, hnh⟩ := hcreate
      refine ⟨hstate, hlive, ?_, ?_⟩
      · obtain ⟨_, _, -, -, hx⟩ | ⟨_, -, -, hx⟩ := ipNextHopNodeCreate_cases hx
        · cases hx
        · obtain ⟨-, rfl⟩ := Prod.mk.inj hx
          rfl
      · rw [hnh]
        simp [hinfo.owner_flag]

theorem ipNextHopCreate_state (h : NodeState none none s)
    (hinfo : NextHopInfoOk s nh_info) (hx : ipNextHopCreate env nh_info s = (x, t)) :
    match x with
    | .error _ => NodeState none none t
    | .ok p => NodeState none (some p) t ∧ t.nh_id_tree = s.nh_id_tree ∧
        (t.nh p).owner_flag.next_hop = true ∧ (t.nh p).nh_group_list = [] ∧
        (t.nh p).next_hop_id = uoidCreate .nextHop env.hw_id := by
  unfold ipNextHopCreate at hx
  cases hobtain : nextHopNodeObtain env nh_info s with
  | mk y u =>
    have hnode := nextHopNodeObtain_state h hinfo hobtain
    rw [hobtain] at hx
    cases y with
    | error status =>
      cases hx
      exact hnode
    | ok p =>
      obtain ⟨hstate, hlive, hids, hflag⟩ := hnode
      have hlist : (u.nh p).nh_group_list = [] := by
        by_contra hne
        have hnext := (hstate.linked p hne).1
        rw [hflag] at hnext
        simp at hnext
      -- the bit is set first, then the NPU is asked
      have hset : NodeState (some p) (some p) (u.modNh p Nh.setOwnerNextHop) :=
        (hstate.unlist hflag).modNh hlive rfl (.inl rfl) (.inl rfl)
          fun hne => absurd hlist hne
      have hcore := nextHopNpuCreate_core env p (u.modNh p Nh.setOwnerNextHop)
      have hnpu := hset.of_core hcore
      have hsame := SameNodes.of_core hcore
      have hlive' : (nextHopNpuCreate env p (u.modNh p Nh.setOwnerNextHop)).2.NhLive p :=
        (hsame.places.live p).mpr ((nhLive_modNh u p p _).mpr hlive)
      have hread : (u.modNh p Nh.setOwnerNextHop).nh p = (u.nh p).setOwnerNextHop := by
        rw [nh_modNh hlive, if_pos rfl]
      have hflag' : ((nextHopNpuCreate env p (u.modNh p Nh.setOwnerNextHop)).2.nh
          p).owner_flag.next_hop = true := by
        rw [hsame.owner_flag, hread]
        rfl
      have hlist' : ((nextHopNpuCreate env p (u.modNh p Nh.setOwnerNextHop)).2.nh
          p).nh_group_list = [] := by
        rw [hsame.nh_group_list, hread]
        exact hlist
      have hids' : (nextHopNpuCreate env p (u.modNh p Nh.setOwnerNextHop)).2.nh_id_tree =
          s.nh_id_tree := hsame.ids.trans hids
      simp only at hx
      generalize nextHopNpuCreate _ p _ = z at *
      split at hx
      · cases hx
        have hnz : (z.2.nh p).owner_flag.isZero = false := by
          simp [OwnerFlag.isZero, hflag']
        have hread' : (z.2.modNh p (Nh.setNextHopId (uoidCreate .nextHop env.hw_id))).nh p =
            (z.2.nh p).setNextHopId (uoidCreate .nextHop env.hw_id) := by
          rw [nh_modNh hlive', if_pos rfl]
        refine ⟨(hnpu.owned_of hnz).modNh hlive' rfl (.inr hnz) (.inl rfl)
          (fun hne => absurd hlist' hne), hids', ?_, ?_, ?_⟩
        · rw [hread']
          exact hflag'
        · rw [hread']
          exact hlist'
        · rw [hread']
          rfl
      · cases hx
        have hreset : NodeState (some p) (some p) (z.2.modNh p Nh.nextHopInfoReset) :=
          hnpu.modNh hlive' rfl (.inl rfl) (.inl rfl) fun hne => absurd hlist' hne
        have hread' : (z.2.modNh p Nh.nextHopInfoReset).nh p = (z.2.nh p).nextHopInfoReset := by
          rw [nh_modNh hlive', if_pos rfl]
        exact checkAndDeleteIpNextHopNode_state (hreset.list_of (by rw [hread']; rfl))
          ((nhLive_modNh _ p p _).mpr hlive')

variable (env) in

theorem ipNextHopRemove_state (h : NodeState none (some p) s) (hp : s.NhLive p)
    (hlist : (s.nh p).nh_group_list = []) :
    ((ipNextHopRemove env p s).1 = .success ∧
        NodeState none none (ipNextHopRemove env p s).2) ∨
      ((ipNextHopRemove env p s).1 ≠ .success ∧ (ipNextHopRemove env p s).2.core = s.core ∧
        env.status (.nexthopRemove (s.nh p)) ≠ .success) := by
  have hcore := nextHopNpuRemove_core env p s
  have hstatus := nextHopNpuRemove_status env p s
  unfold ipNextHopRemove
  rw [if_neg (by simpa using hlist)]
  by_cases hnpu : (nextHopNpuRemove env p s).1 = .success
  · left
    rw [andThen_of_success hnpu]
    have hsame := SameNodes.of_core hcore
    have hlive : (nextHopNpuRemove env p s).2.NhLive p := (hsame.places.live p).mpr hp
    have hlist' : ((nextHopNpuRemove env p s).2.nh p).nh_group_list = [] := by
      rw [hsame.nh_group_list, hlist]
    have hreset : NodeState (some p) (some p)
        ((nextHopNpuRemove env p s).2.modNh p Nh.nextHopInfoReset) := by
      have hlet : NodeState (some p) (some p) (nextHopNpuRemove env p s).2 :=
        NodeState.letUnowned (h.of_core hcore)
      exact hlet.modNh hlive rfl (.inl rfl) (.inl rfl) fun hne => absurd hlist' hne
    have hread : ((nextHopNpuRemove env p s).2.modNh p Nh.nextHopInfoReset).nh p =
        ((nextHopNpuRemove env p s).2.nh p).nextHopInfoReset := by
      rw [nh_modNh hlive, if_pos rfl]
    exact ⟨rfl, checkAndDeleteIpNextHopNode_state (hreset.list_of (by rw [hread]; rfl))
      ((nhLive_modNh _ p p _).mpr hlive)⟩
  · right
    rw [andThen_of_failure hnpu]
    exact ⟨hnpu, hcore, by rw [← hstatus]; exact hnpu⟩

/-- When the id tree refuses the new next hop, the NPU gives it back. -/
def NextHopCreateClean (env : Env) (s : Fib) : Prop :=
  (s.nh_id_tree (uoidCreate .nextHop env.hw_id) = none ∧ env.avail .nhIdTree = true) ∨
    ∀ nh, env.status (.nexthopRemove nh) = .success

/-- When the NPU refuses to give the next hop back, the id tree takes it back. -/
def NextHopRemoveClean (env : Env) : Prop :=
  env.avail .nhIdTree = true ∨ ∀ nh, env.status (.nexthopRemove nh) = .success

theorem nextHopCreate_state (h : NodeState none none s) (hclean : NextHopCreateClean env s) :
    NodeState none none (nextHopCreate env attr_list s).1.2 := by
  unfold nextHopCreate
  split
  · exact h
  rename_i nh_info hfill
  cases hcreate : ipNextHopCreate env nh_info s with
  | mk x t =>
    have hstate := ipNextHopCreate_state h (nextHopInfoFill_ok hfill) hcreate
    cases x with
    | error status => exact hstate
    | ok p =>
      obtain ⟨hstate, hids, hflag, hlist, hid⟩ := hstate
      simp only
      rcases nhIdTreeInsert_state hstate hflag with
        ⟨hok, hin⟩ | ⟨hfail, hsame, hwhy⟩
      · rw [if_pos hok]
        exact hin
      · rw [if_neg hfail]
        -- the id is taken or the tree refuses, so it is the NPU that must give way
        have hnpu : ∀ nh, env.status (.nexthopRemove nh) = .success := by
          refine hclean.resolve_left ?_
          rintro ⟨hnone, havail⟩
          rw [hids, hid, hnone] at hwhy
          simp [havail] at hwhy
        rw [hsame]
        rcases ipNextHopRemove_state env hstate (nhLive_of_next_hop hflag) hlist with
          ⟨-, hdone⟩ | ⟨-, -, hrefused⟩
        · exact hdone
        · exact absurd (hnpu _) hrefused

theorem nextHopRemove_state (h : NodeState none none s) (hclean : NextHopRemoveClean env)
    {next_hop_id} : NodeState none none (nextHopRemove env next_hop_id s).2 := by
  unfold nextHopRemove
  split
  · exact h
  split
  · exact h
  rename_i p hp
  split
  · exact h
  split
  · exact h
  rename_i hrefs
  obtain ⟨-, hflag, -⟩ := (h.ids _ p).mp hp
  have hlist : (s.nh p).nh_group_list = [] := by
    by_contra hne
    exact hrefs (h.linked p hne).2
  obtain ⟨hok, hout, hnhs, hnone⟩ := nhIdTreeRemove_state h hflag
  have hread : (nhIdTreeRemove p s).2.nh p = s.nh p := by
    unfold Fib.nh
    rw [hnhs]
  unfold nextHopRemoveNode
  simp only
  rw [if_neg (by simpa using hok)]
  have hflag' : ((nhIdTreeRemove p s).2.nh p).owner_flag.next_hop = true := by
    rw [hread]
    exact hflag
  rcases ipNextHopRemove_state env hout (nhLive_of_next_hop hflag')
    (by rw [hread]; exact hlist) with ⟨hdone, hstate⟩ | ⟨hfail, hcore, hrefused⟩
  · rw [if_pos hdone]
    exact hstate
  · rw [if_neg hfail]
    have hsame := SameNodes.of_core hcore
    rcases nhIdTreeInsert_state (hout.of_core hcore)
      (by rw [hsame.owner_flag]; exact hflag') with ⟨-, hin⟩ | ⟨-, -, hwhy⟩
    · exact hin
    · -- the place under the id was just made free
      have havail : env.avail .nhIdTree = true := hclean.resolve_right fun hnpu =>
        hrefused (hnpu _)
      rw [hsame.ids, hsame.next_hop_id, hread, hnone] at hwhy
      simp [havail] at hwhy

/-! ## Neighbor calls -/

theorem neighborNodeCreate_state (h : NodeState none none s) (hinfo : NeighborInfoOk entry s nh_info)
    (hx : neighborNodeCreate env nh_info s = (x, t)) :
    match x with
    | .error _ => NodeState none none t
    | .ok p => NodeState none none t ∧ t.NhLive p ∧ (t.nh p).owner_flag.neighbor = true := by
  have hflag : nh_info.owner_flag = ⟨false, false⟩ := by
    rw [hinfo.fields]
    rfl
  unfold neighborNodeCreate at hx
  split at hx
  next p hget =>
    split at hx
    · cases hx
      exact h
    cases hx
    obtain ⟨hlive, -⟩ := h.nodeGet hget
    have hcopy : NodeState none none (s.modNh p nh_info.neighborAttrCopy) :=
      h.of_same (SameNodes.modNh s p rfl)
    have hlive' : (s.modNh p nh_info.neighborAttrCopy).NhLive p :=
      (nhLive_modNh s p p _).mpr hlive
    refine ⟨hcopy.modNh hlive' rfl (.inr ?_) (.inr ⟨rfl, rfl⟩) fun hne => ?_,
      (nhLive_modNh _ p p _).mpr hlive', ?_⟩
    · simp [Nh.setOwnerNeighbor, OwnerFlag.isZero]
    · exact hcopy.linked p hne
    · rw [nh_modNh hlive', if_pos rfl]
      rfl
  · cases hcreate : ipNextHopNodeCreate env nh_info.vrf_id nh_info s with
    | mk y u =>
      have hstate := ipNextHopNodeCreate_state h hflag (hinfo.key ▸ hinfo.vrf) hcreate
      rw [hcreate] at hx
      cases y with
      | error status =>
        cases hx
        exact hstate
      | ok p =>
        cases hx
        obtain ⟨hstate, hlive, hnh⟩ := hstate
        have hset : NodeState (some p) none (u.modNh p Nh.setOwnerNeighbor) :=
          hstate.modNh hlive rfl (.inl rfl) (.inr ⟨rfl, rfl⟩) fun hne => hstate.linked p hne
        have hread : (u.modNh p Nh.setOwnerNeighbor).nh p = (u.nh p).setOwnerNeighbor := by
          rw [nh_modNh hlive, if_pos rfl]
        refine ⟨hset.owned_of ?_, (nhLive_modNh u p p _).mpr hlive, ?_⟩
        · rw [hread]
          simp [Nh.setOwnerNeighbor, OwnerFlag.isZero]
        · rw [hread]
          rfl

theorem neighborInfoReset_state (h : NodeState none none s) (hp : s.NhLive p) :
    NodeState (some p) none (s.modNh p Nh.neighborInfoReset) :=
  h.letUnowned.modNh hp rfl (.inl rfl) (.inr ⟨rfl, rfl⟩) fun hne => h.linked p hne

theorem neighborCreateUndo_state (h : NodeState none none s) (hp : s.NhLive p) :
    NodeState none none (neighborCreateUndo p s) :=
  checkAndDeleteIpNextHopNode_state (neighborInfoReset_state h hp)
    ((nhLive_modNh s p p _).mpr hp)

theorem neighborCreateProgram_state (h : NodeState none none s) (hp : s.NhLive p) :
    NodeState none none (neighborCreateProgram env p s).2 := by
  have hundo : ∀ u, SameNodes s u →
      NodeState none none (neighborCreateUndo p (neighborMacEntryRemove env p u).2) := by
    intro u hu
    have hsame := hu.trans (sameNodes_neighborMacEntryRemove env p u)
    exact neighborCreateUndo_state (h.of_same hsame) ((hsame.places.live p).mpr hp)
  unfold neighborCreateProgram
  split
  · exact hundo s (SameNodes.refl s)
  rename_i info hresolve
  have hlife : info.life = (s.nh p).life := by
    rw [neighborPortIdResolve_ok hresolve]
    rfl
  have hinfo : SameNodes s (s.modNh p fun _ => info) := SameNodes.modNh s p hlife
  have hcall := hinfo.trans (SameNodes.of_core
    (call_core env (.neighborCreate info) (s.modNh p fun _ => info)))
  simp only
  split
  · exact (h.of_same hcall).of_core (neighborAffectedEncapNhResolve_core env p _ _)
  · exact hundo _ hcall

theorem neighborCreate_state (h : NodeState none none s) (entry)
    (attr_list) :
    NodeState none none (neighborCreate env entry attr_list s).2 := by
  unfold neighborCreate
  split
  · exact h
  rename_i nh_info hkey
  split
  · exact h
  rename_i nh_info' flags hfill
  cases hnode : neighborNodeCreate env nh_info' s with
  | mk x t =>
    have hinfo := (neighborKeyValidateAndFill_ok hkey).fill hfill
    have hstate := neighborNodeCreate_state h hinfo hnode
    cases x with
    | error status => exact hstate
    | ok p =>
      obtain ⟨hstate, hlive, -⟩ := hstate
      have hmac := sameNodes_neighborMacEntryInsert env p t
      simp only
      split
      · exact neighborCreateProgram_state (hstate.of_same hmac) ((hmac.places.live p).mpr hlive)
      · exact neighborCreateUndo_state (hstate.of_same hmac) ((hmac.places.live p).mpr hlive)

theorem neighborNodeGet_ok (h : NodeTrees s) (hget : neighborNodeGet entry s = .ok p) :
    s.NhLive p ∧ (s.nh p).key = neighborIpNextHopNodeKey entry ∧ (s.nh p).owner_flag.neighbor = true:= by
  unfold neighborNodeGet at hget
  split at hget
  · simp at hget
  split at hget
  · simp at hget
  rename_i q hq
  split at hget
  next hflag =>
    cases hget
    obtain ⟨hlive, hkey⟩ := h.nodeGet hq
    exact ⟨hlive, hkey, hflag⟩
  · simp at hget

theorem neighborRemoveNode_state (h : NodeState none none s) (hp : s.NhLive p)
    (hflag : (s.nh p).owner_flag.neighbor = true) :
    NodeState none none (neighborRemoveNode env p s).2 := by
  have hmac := sameNodes_neighborMacEntryRemove env p s
  unfold neighborRemoveNode
  simp only
  refine andThen_keeps (P := fun t => NodeState none none t) (h.of_same hmac) fun hmid => ?_
  generalize (neighborMacEntryRemove _ p s).2 = u at hmac hmid ⊢
  have hlive : u.NhLive p := (hmac.places.live p).mpr hp
  have hreset := neighborInfoReset_state hmid hlive
  have hlive' : (u.modNh p Nh.neighborInfoReset).NhLive p := (nhLive_modNh u p p _).mpr hlive
  have hcall := hreset.of_core
    (call_core env (.neighborRemove ((u.modNh p Nh.neighborInfoReset).nh p)) _)
  split
  · have hcore := neighborAffectedEncapNhResolve_core env p .remove
      ((u.modNh p Nh.neighborInfoReset).call env
        (.neighborRemove ((u.modNh p Nh.neighborInfoReset).nh p))).2
    exact checkAndDeleteIpNextHopNode_state (hcall.of_core hcore)
      ((nhLive_of_core hcore p).mpr hlive')
  -- the copy taken at the start is written back
  have hread : (u.modNh p Nh.neighborInfoReset).nh p = (u.nh p).neighborInfoReset := by
    rw [nh_modNh hlive, if_pos rfl]
  have hplace : (s.nh p).place = ((u.modNh p Nh.neighborInfoReset).nh p).place := by
    rw [hread]
    exact (hmac.places.place p).symm
  have hback := hcall.modNh (f := fun _ => s.nh p) hlive' hplace (.inl rfl)
    (.inr ⟨by
      show (s.nh p).owner_flag.next_hop = ((u.modNh p _).nh p).owner_flag.next_hop
      rw [hread, ← hmac.owner_flag]
      rfl, by
      show (s.nh p).next_hop_id = ((u.modNh p _).nh p).next_hop_id
      rw [hread, ← hmac.next_hop_id]
      rfl⟩) (fun hne => h.linked p hne)
  have hnz : (s.nh p).owner_flag.isZero = false := by
    simp [OwnerFlag.isZero, hflag]
  refine NodeState.of_same (hback.owned_of ?_) (sameNodes_neighborMacEntryInsert env p _)
  rw [nh_modNh (by exact hlive'), if_pos rfl]
  exact hnz

theorem neighborRemove_state (h : NodeState none none s) (entry) :
    NodeState none none (neighborRemove env entry s).2 := by
  unfold neighborRemove
  split
  · exact h
  rename_i p hget
  obtain ⟨hlive, -, hflag⟩ := neighborNodeGet_ok h.toNodeTrees hget
  exact neighborRemoveNode_state h hlive hflag

end Calls

/-! ## Runs -/

/-- Router interfaces and virtual routers are configured, next hops and neighbors are not. -/
structure NoNextHops (s : Fib) : Prop where
  nhs : ∀ p, ¬ s.NhLive p
  ids : ∀ id, s.nh_id_tree id = none
  vrfs : ∀ v vrf, s.vrf v = some vrf → vrf.vrf_id = v ∧ vrf.sai_nh_tree = []
  rifs : (s.router_interface_tree.map Rif.rif_id).Nodup
  refs : ∀ rif ∈ s.router_interface_tree, rif.ref_count = 0

theorem NoNextHops.nodeState (h : NoNextHops s) : NodeState none none s := by
  refine ⟨⟨fun v vrf hv => ?_, fun v vrf key p hv hmem => ?_, fun p hp => absurd hp (h.nhs p),
    fun p hp => absurd hp (h.nhs p), h.rifs, fun rif hrif => ?_⟩,
    fun p hp => absurd hp (h.nhs p), fun id p => ?_, fun p hp => ?_⟩
  · obtain ⟨hid, hnil⟩ := h.vrfs v vrf hv
    rw [hnil]
    exact ⟨hid, List.nodup_nil⟩
  · rw [(h.vrfs v vrf hv).2] at hmem
    simp at hmem
  · rw [h.refs rif hrif]
    refine (Heap.sum_eq_zero.mpr fun p n hp => ?_).symm
    exact absurd (Option.isSome_iff_exists.mpr ⟨n, hp⟩) (h.nhs p)
  · rw [h.ids, nh_of_not_live (h.nhs p)]
    simp [Nh.zero]
  · rw [nh_of_not_live (h.nhs p)] at hp
    exact absurd rfl hp

/-- The calls on next hops and neighbors. Anything may fail in them, but for the one call that
takes back what has just been done. -/
inductive NodeCall : Call → Fib → Prop where
  | nextHopCreate {env : Env} {attr_list : List NextHopAttr} {s : Fib}
      (hclean : NextHopCreateClean env s) : NodeCall ⟨env, .nextHopCreate attr_list⟩ s
  | nextHopRemove {env : Env} {next_hop_id : Oid} {s : Fib}
      (hclean : NextHopRemoveClean env) : NodeCall ⟨env, .nextHopRemove next_hop_id⟩ s
  | neighborCreate {env : Env} {entry : NeighborEntry} {attr_list : List NeighborAttr} {s : Fib} :
      NodeCall ⟨env, .neighborCreate entry attr_list⟩ s
  | neighborRemove {env : Env} {entry : NeighborEntry} {s : Fib} :
      NodeCall ⟨env, .neighborRemove entry⟩ s

theorem NodeState.step {c} (hc : NodeCall c s) (h : NodeState none none s) :
    NodeState none none (fibStep c s) := by
  cases hc with
  | nextHopCreate hclean => exact nextHopCreate_state h hclean
  | nextHopRemove hclean => exact nextHopRemove_state h hclean
  | neighborCreate => exact neighborCreate_state h _ _
  | neighborRemove => exact neighborRemove_state h _

theorem nodeState_of_run (hs : NoNextHops s) (hrun : FibRun NodeCall s t) :
    NodeState none none t :=
  hrun.induct (P := NodeState none none) (fun _ _ h hc => NodeState.step hc h) hs.nodeState

/-- A node is in the tree of the virtual router `v`. -/
def InNhTree (s : Fib) (v : Oid) (key : NhKey) (p : Ptr) : Prop :=
  ∃ vrf, s.vrf v = some vrf ∧ (key, p) ∈ vrf.sai_nh_tree

/-- Owners, trees, ids and counts agree. -/
structure NodeLifetime (s : Fib) : Prop where
  in_tree : ∀ p, ipNextHopNodeGet (s.nh p).key s = some p ↔
    (s.nh p).owner_flag.next_hop = true ∨ (s.nh p).owner_flag.neighbor = true
  entries : ∀ v key p, InNhTree s v key p →
    s.NhLive p ∧ (s.nh p).key = key ∧ (s.nh p).vrf_id = v ∧ ipNextHopNodeGet key s = some p
  in_ids : ∀ p, (∃ id, s.nh_id_tree id = some p) ↔ (s.nh p).owner_flag.next_hop = true
  ref_count : ∀ rif ∈ s.router_interface_tree,
    rif.ref_count = Set.ncard {p | ∃ v key, InNhTree s v key p ∧ key.rif_id = rif.rif_id}
  rif_remove : ∀ env rif_id, (routerInterfaceRemove env rif_id s).1 = .success →
    ∀ v key p, InNhTree s v key p → key.rif_id ≠ rif_id

theorem NodeState.ref_count_eq (h : NodeState none none s) {rif}
    (hrif : rif ∈ s.router_interface_tree) :
    rif.ref_count = Set.ncard {p | ∃ v key, InNhTree s v key p ∧ key.rif_id = rif.rif_id} := by
  have hset : {p | ∃ v key, InNhTree s v key p ∧ key.rif_id = rif.rif_id} =
      {p | ∃ n, s.nhs.get p = some n ∧ n.key.rif_id = rif.rif_id} := by
    ext p
    simp only [Set.mem_ofPred_eq]
    constructor
    · rintro ⟨v, key, ⟨vrf, hv, hmem⟩, hkey⟩
      obtain ⟨hlive, hk, -⟩ := h.node v vrf key p hv hmem
      exact ⟨s.nh p, get_of_nhLive hlive, by rw [hk, hkey]⟩
    · rintro ⟨n, hn, hkey⟩
      have hlive : s.NhLive p := Option.isSome_iff_exists.mpr ⟨n, hn⟩
      obtain ⟨vrf, hv, hmem⟩ := h.entry p hlive
      exact ⟨_, _, ⟨vrf, hv, hmem⟩, by rw [nh_of_get hn, hkey]⟩
  rw [hset, ← Heap.sum_eq_ncard, h.refs rif hrif]

theorem routerInterfaceRemove_unused {rif_id} (h : (routerInterfaceRemove env rif_id s).1 = .success) :
    ∃ rif, s.rif rif_id = some rif ∧ rif.ref_count = 0 := by
  unfold routerInterfaceRemove at h
  split at h
  · simp at h
  split at h
  · simp at h
  rename_i rif hrif
  refine ⟨rif, hrif, ?_⟩
  by_contra hne
  unfold rifRemoveNode at h
  rw [if_pos hne] at h
  simp [andThen] at h

theorem NodeState.nodeLifetime (h : NodeState none none s) : NodeLifetime s where
  in_tree := by
    intro p
    constructor
    · intro hget
      obtain ⟨hlive, -⟩ := h.nodeGet hget
      have hnz := h.owned p hlive (by simp)
      by_contra hno
      rw [not_or] at hno
      simp [OwnerFlag.isZero, hno.1, hno.2] at hnz
    · intro hflag
      refine h.nodeGet_self ?_
      by_contra hdead
      rw [nh_of_not_live hdead] at hflag
      simp [Nh.zero] at hflag
  entries := by
    rintro v key p ⟨vrf, hv, hmem⟩
    obtain ⟨hlive, hkey, hvrf⟩ := h.node v vrf key p hv hmem
    exact ⟨hlive, hkey, hvrf, hkey ▸ h.nodeGet_self hlive⟩
  in_ids := by
    intro p
    constructor
    · rintro ⟨id, hid⟩
      exact ((h.ids id p).mp hid).2.1
    · intro hflag
      exact ⟨_, (h.ids _ p).mpr ⟨by simp, hflag, rfl⟩⟩
  ref_count := fun rif hrif => h.ref_count_eq hrif
  rif_remove := by
    rintro env rif_id hok v key p ⟨vrf, hv, hmem⟩ heq
    obtain ⟨rif, hrif, hzero⟩ := routerInterfaceRemove_unused hok
    obtain ⟨hlive, hkey, -⟩ := h.node v vrf key p hv hmem
    have hid : rif.rif_id = rif_id := by simpa using List.find?_some hrif
    -- the node is one of those the count counts
    have hone := Heap.le_sum (get_of_nhLive hlive)
      fun n => if n.key.rif_id = rif.rif_id then 1 else 0
    rw [← h.refs rif (List.mem_of_find?_eq_some hrif), hzero] at hone
    rw [if_pos (by rw [hkey, heq, hid])] at hone
    omega

/-- **The lifetime of shared nodes**: in every state that calls on next hops and neighbors
reach, unless taking back a call fails too. -/
theorem nodeLifetime_of_run {s t : Fib} (hs : NoNextHops s) (hrun : FibRun NodeCall s t) :
    NodeLifetime t :=
  (nodeState_of_run hs hrun).nodeLifetime

/-! ## One router interface -/

def oneRif (type : RifType) (attachment : Oid) : Fib :=
  { Fib.init 4 with
    vrf_tree := fun v =>
      if v = ⟨.virtualRouter, 1⟩ then
        some { vrfAttributesInit (Env.good 1) with vrf_id := ⟨.virtualRouter, 1⟩, num_rif := 1 }
      else none
    router_interface_tree :=
      [{ rifAttributesInit (Env.good 1) with
          rif_id := ⟨.routerInterface, 1⟩, vrf_id := ⟨.virtualRouter, 1⟩, type := type
          attachment := attachment }] }

theorem noNextHops_oneRif (type) (attachment) :
    NoNextHops (oneRif type attachment) := by
  refine ⟨fun p => by simp [NhLive, oneRif, Fib.init], fun _ => rfl, fun v vrf hv => ?_,
    by simp [oneRif], fun rif hrif => ?_⟩
  · change (if v = _ then some _ else none) = some vrf at hv
    split at hv
    next hid =>
      cases hv
      exact ⟨hid.symm, rfl⟩
    · simp at hv
  · obtain rfl : rif = _ := List.mem_singleton.mp hrif
    rfl

def oneNhAttrs : List NextHopAttr :=
  [.type 0, .ip (.ip4 0x0a000001), .routerInterfaceId ⟨.routerInterface, 1⟩]

def oneNeighbor : NeighborEntry := ⟨⟨.routerInterface, 1⟩, .ip4 0x0a000001⟩

def doubleFault : Env :=
  { Env.good 1 with
    avail := fun r => r ≠ .nhIdTree
    status := fun c => match c with | .nexthopRemove _ => .failure | _ => .success }

/-- The id tree refuses the new next hop, and the NPU does not give it back: the node stays a
next hop, and cannot be found under its id. -/
theorem not_nodeLifetime_doubleFault :
    NoNextHops (oneRif .port ⟨.port, 1⟩) ∧
      ¬ NodeLifetime (fibStep ⟨doubleFault, .nextHopCreate oneNhAttrs⟩
        (oneRif .port ⟨.port, 1⟩)) := by
  refine ⟨noNextHops_oneRif _ _, fun h => ?_⟩
  have hflag : ((fibStep ⟨doubleFault, .nextHopCreate oneNhAttrs⟩ (oneRif .port ⟨.port, 1⟩)).nh
      1).owner_flag.next_hop = true := by decide
  obtain ⟨id, hid⟩ := (h.in_ids 1).mpr hflag
  have hnone : (fibStep ⟨doubleFault, .nextHopCreate oneNhAttrs⟩
      (oneRif .port ⟨.port, 1⟩)).nh_id_tree id = none := by
    rfl
  rw [hnone] at hid
  simp at hid

theorem nodeLifetime_of_run_oneNeighbor :
    NodeLifetime (fibStep ⟨Env.good 1, .nextHopRemove ⟨.nextHop, 1⟩⟩
      (fibStep ⟨Env.good 1, .neighborCreate oneNeighbor [.dstMacAddress 7]⟩
        (fibStep ⟨Env.good 1, .nextHopCreate oneNhAttrs⟩ (oneRif .port ⟨.port, 1⟩)))) :=
  nodeLifetime_of_run (noNextHops_oneRif _ _)
    (.snoc _ (.snoc _ (.snoc _ (.nil _) (.nextHopCreate (.inr fun _ => rfl))) .neighborCreate)
      (.nextHopRemove (.inl rfl)))

end OpxSai
