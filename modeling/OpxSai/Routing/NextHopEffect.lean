import OpxSai.Routing.EncapTunnels
import OpxSai.Routing.NodeLifetime

/-!
# Routing — what a next hop call does to the nodes

The router interfaces may be counted by other modules, and the id tree may hold nodes that are gone: what a
next hop call does to the nodes does not depend on it.

* `ipNextHopCreate_added`, `ipNextHopRemove_dropped` — which of it a call does, and what becomes of the list
  of the tunnel.
-/

namespace OpxSai

open Fib

/-- The nodes stay as they are, but for their resolution. -/
structure NhsKept (s t : Fib) : Prop where
  places : NodePlaces t
  live : ∀ q, t.NhLive q ↔ s.NhLive q
  nodes : ∀ q, (t.nh q).core = (s.nh q).core
  homes : ∀ r, (t.rif r).map Rif.vrf_id = (s.rif r).map Rif.vrf_id
  vrfs : ∀ v, (t.vrf v).isSome = (s.vrf v).isSome
  ids : t.nh_id_tree = s.nh_id_tree

structure NhAdded (p : Ptr) (node : Nh) (s t : Fib) : Prop where
  places : NodePlaces t
  fresh : ¬ s.NhLive p
  live : ∀ q, t.NhLive q ↔ q = p ∨ s.NhLive q
  node : (t.nh p).core = node.core
  others : ∀ q, q ≠ p → (t.nh q).core = (s.nh q).core
  homes : ∀ r, (t.rif r).map Rif.vrf_id = (s.rif r).map Rif.vrf_id
  vrfs : ∀ v, (t.vrf v).isSome = (s.vrf v).isSome
  ids : t.nh_id_tree = s.nh_id_tree

structure NhDropped (p : Ptr) (s t : Fib) : Prop where
  places : NodePlaces t
  live : ∀ q, t.NhLive q ↔ q ≠ p ∧ s.NhLive q
  others : ∀ q, q ≠ p → (t.nh q).core = (s.nh q).core
  homes : ∀ r, (t.rif r).map Rif.vrf_id = (s.rif r).map Rif.vrf_id
  vrfs : ∀ v, (t.vrf v).isSome = (s.vrf v).isSome
  ids : t.nh_id_tree = s.nh_id_tree

section Effect

variable {env : Env} {s t u : Fib} {p : Ptr} {node : Nh}

theorem NhsKept.refl (h : NodePlaces s) : NhsKept s s :=
  ⟨h, fun _ => Iff.rfl, fun _ => rfl, fun _ => rfl, fun _ => rfl, rfl⟩

theorem NhsKept.of_core (h : NodePlaces s) (hcore : t.core = s.core) : NhsKept s t := by
  have hsame := SameNodes.of_core hcore
  have hrif : ∀ r, t.rif r = s.rif r := fun r => by
    unfold Fib.rif
    rw [hsame.rifs]
  refine ⟨h.of_same hsame.places, hsame.places.live, fun q => ?_, fun r => by rw [hrif], fun v => ?_, hsame.ids⟩
  · have hnh := congrArg (fun f : Fib => f.nh q) hcore
    simpa only [core_nh] using hnh
  · have hv := congrArg Option.isSome (hsame.vrfs v)
    simpa only [Option.isSome_map] using hv

theorem NhAdded.kept (h : NhAdded p node s t) (k : NhsKept t u) : NhAdded p node s u :=
  ⟨k.places, h.fresh, fun q => (k.live q).trans (h.live q), (k.nodes p).trans h.node,
    fun q hq => (k.nodes q).trans (h.others q hq), fun r => (k.homes r).trans (h.homes r),
    fun v => (k.vrfs v).trans (h.vrfs v), k.ids.trans h.ids⟩

theorem NhAdded.write (h : NhAdded p node s t) {f : Nh → Nh} (hplace : ∀ n, (f n).place = n.place)
    (hf : ∀ n, (f n).core = f n.core) : NhAdded p (f node) s (t.modNh p f) := by
  have hlive : t.NhLive p := (h.live p).mpr (.inl rfl)
  refine ⟨h.places.of_same (SamePlaces.modNh t p (hplace _)), h.fresh,
    fun q => (nhLive_modNh t p q f).trans (h.live q), ?_, fun q hq => ?_, h.homes, h.vrfs, h.ids⟩
  · rw [nh_modNh hlive, if_pos rfl, hf, hf, h.node]
  · rw [nh_modNh hlive, if_neg hq]
    exact h.others q hq

theorem NhAdded.dropped (h : NhAdded p node s t) (k : NhDropped p t u) : NhsKept s u := by
  have hother : ∀ q, s.NhLive q → q ≠ p := by
    rintro q hq rfl
    exact h.fresh hq
  refine ⟨k.places, fun q => ?_, fun q => ?_, fun r => (k.homes r).trans (h.homes r),
    fun v => (k.vrfs v).trans (h.vrfs v), k.ids.trans h.ids⟩
  · rw [k.live, h.live]
    exact ⟨fun hq => hq.2.resolve_left hq.1, fun hq => ⟨hother q hq, .inr hq⟩⟩
  · by_cases hq : q = p
    · have hdead : ¬ u.NhLive q := fun hlive => ((k.live q).mp hlive).1 hq
      have hdead' : ¬ s.NhLive q := fun hlive => hother q hlive hq
      rw [nh_of_not_live hdead, nh_of_not_live hdead']
    · exact (k.others q hq).trans (h.others q hq)

theorem homes_modRif {f : Rif → Rif} (hid : ∀ r, (f r).rif_id = r.rif_id)
    (hvrf : ∀ r, (f r).vrf_id = r.vrf_id) (s : Fib) (rif_id r : Oid) :
    ((s.modRif rif_id f).rif r).map Rif.vrf_id = (s.rif r).map Rif.vrf_id := by
  rw [rif_modRif hid, Option.map_map]
  congr 1
  funext rif
  show (if rif.rif_id = rif_id then f rif else rif).vrf_id = rif.vrf_id
  split
  · exact hvrf rif
  · rfl

theorem NodePlaces.nodeGet_iff (h : NodePlaces s) {key : NhKey} :
    ipNextHopNodeGet key s = some p ↔ s.NhLive p ∧ (s.nh p).key = key := by
  refine ⟨h.nodeGet, ?_⟩
  rintro ⟨hp, rfl⟩
  exact h.nodeGet_self hp

theorem ipNextHopNodeCreate_added (env : Env) {nh_info : Nh} (h : NodePlaces s)
    (hhome : (∃ rif, s.rif nh_info.key.rif_id = some rif ∧ rif.vrf_id = nh_info.vrf_id) ∨
      s.vrf nh_info.vrf_id = none) :
    let x := ipNextHopNodeCreate env nh_info.vrf_id nh_info s
    x.2.tunnels = s.tunnels ∧
      ((∃ status, status ≠ .success ∧ x.1 = .error status ∧ NhsKept s x.2) ∨ ∃ p, x.1 = .ok p ∧ NhAdded p
        { nh_info with nh_group_list := [], dep_encap_nh_list := [], dep_route_list := [] } s x.2) := by
  intro x
  obtain ⟨status, nhs, hbad, hget, hx⟩ | ⟨vrf, hv, hfind, hx⟩ := ipNextHopNodeCreate_cases (rfl : _ = x)
  · rw [hx]
    refine ⟨rfl, .inl ⟨status, hbad, rfl, h.of_get hget rfl rfl, fun q => ?_, fun q => ?_, fun _ => rfl,
      fun _ => rfl, rfl⟩⟩
    · show (nhs.get q).isSome = true ↔ _
      rw [hget]
      rfl
    · exact congrArg (fun n => (Option.getD n Nh.zero).core) (hget q)
  rw [hx]
  have hhome := hhome.resolve_right (by rw [hv]; simp)
  have hnh : ∀ q, (nhNodeMade nh_info.vrf_id nh_info s).nh q = (nhNodeAlloc nh_info s).nh q := fun _ => rfl
  refine ⟨rfl, .inr ⟨s.nhs.next, rfl, h.create hv hfind hhome, not_nhLive_next s,
    nhLive_nhNodeAlloc _ s, ?_, fun q hq => ?_, fun r => ?_, fun v => ?_, rfl⟩⟩
  · rw [hnh, nh_nhNodeAlloc, if_pos rfl]
  · rw [hnh, nh_nhNodeAlloc, if_neg hq]
  · exact homes_modRif (f := fun r => { r with ref_count := r.ref_count + 1 }) (fun _ => rfl)
      (fun _ => rfl) _ _ r
  · show ((nhNodeAlloc nh_info s).modVrf _ _ |>.vrf v).isSome = _
    rw [vrf_modVrf]
    split
    · exact Option.isSome_map
    · rfl

theorem checkAndDeleteIpNextHopNode_dropped (h : NodePlaces s) (hp : s.NhLive p)
    (hzero : (s.nh p).owner_flag.isZero = true) :
    let x := checkAndDeleteIpNextHopNode (s.nh p).vrf_id p s
    x.2.tunnels = s.tunnels ∧ NhDropped p s x.2 := by
  intro x
  have hx : checkAndDeleteIpNextHopNode (s.nh p).vrf_id p s = x := rfl
  clear_value x
  unfold checkAndDeleteIpNextHopNode at hx
  obtain ⟨vrf, hv, -⟩ := h.entry p hp
  rw [if_pos hzero, hv] at hx
  subst hx
  refine ⟨rfl, h.delete hp, nhLive_nhNodeFree _, fun q hq => ?_, fun r => ?_, fun v => ?_, rfl⟩
  · rw [nh_nhNodeFree_of_ne hq]
    rfl
  · exact homes_modRif (f := fun r => { r with ref_count := r.ref_count - 1 }) (fun _ => rfl)
      (fun _ => rfl) _ _ r
  · show ((s.modVrf _ _).vrf v).isSome = _
    rw [vrf_modVrf]
    split
    · exact Option.isSome_map
    · rfl

def Fib.tunnelsOf (s : Fib) (n : Nh) (f : Tunnel → Tunnel) : Oid → Option Tunnel :=
  if n.isTunnelEncap = true then (s.modTunnel n.tunnel_id f).tunnels else s.tunnels

theorem nextHopNpuCreate_tunnels (env) (p) (s) :
    (nextHopNpuCreate env p s).2.tunnels = if (nextHopNpuCreate env p s).1 = .success then
      s.tunnelsOf (s.nh p) (Tunnel.addEncapNh p) else s.tunnels := by
  unfold nextHopNpuCreate tunnelsOf
  split
  · rcases encapNextHopCreate_tunnels env p with ⟨hok, htunnels⟩ | ⟨hfail, htunnels⟩
    · rw [if_pos hok, htunnels]
    · rw [if_neg hfail, htunnels]
  · split <;> rfl

theorem nextHopNpuRemove_tunnels (env) (p) (s) :
    (nextHopNpuRemove env p s).2.tunnels = if (nextHopNpuRemove env p s).1 = .success then
      s.tunnelsOf (s.nh p) (Tunnel.removeEncapNh env p) else s.tunnels := by
  unfold nextHopNpuRemove tunnelsOf
  split
  · rcases encapNextHopRemove_tunnels env p with ⟨hok, htunnels⟩ | ⟨hfail, htunnels⟩
    · rw [if_pos hok, htunnels]
    · rw [if_neg hfail, htunnels]
  · split <;> rfl

theorem field_of_core_eq {γ : Type} {f : Nh → γ} (hf : ∀ n, f n.core = f n) {n m : Nh}
    (h : n.core = m.core) : f n = f m := by
  rw [← hf n, ← hf m, h]

theorem tunnelsOf_congr {n m : Nh} {f : Tunnel → Tunnel} (hkey : n.key = m.key)
    (hid : n.tunnel_id = m.tunnel_id) (htunnels : t.tunnels = s.tunnels) :
    t.tunnelsOf n f = s.tunnelsOf m f := by
  unfold tunnelsOf modTunnel Nh.isTunnelEncap
  rw [hkey, hid, htunnels]

def nextHopNode (env : Env) (nh_info : Nh) : Nh :=
  Nh.setNextHopId (uoidCreate .nextHop env.hw_id) (Nh.setOwnerNextHop
    { nh_info with nh_group_list := [], dep_encap_nh_list := [], dep_route_list := [] })

/-- **A next hop is created**, or the nodes and the lists of the tunnels stay. -/
theorem ipNextHopCreate_added (env) (nh_info) (h : NodePlaces s)
    (hnew : ipNextHopNodeGet nh_info.key s = none) (hflag : nh_info.owner_flag.neighbor = false)
    (hhome : (∃ rif, s.rif nh_info.key.rif_id = some rif ∧ rif.vrf_id = nh_info.vrf_id) ∨
      s.vrf nh_info.vrf_id = none) :
    let x := ipNextHopCreate env nh_info s
    (∃ status, x.1 = .error status ∧ status ≠ .success ∧ NhsKept s x.2 ∧ x.2.tunnels = s.tunnels) ∨
    ∃ p, x.1 = .ok p ∧ NhAdded p (nextHopNode env nh_info) s x.2 ∧
      x.2.tunnels = s.tunnelsOf nh_info (Tunnel.addEncapNh p) := by
  intro x
  have hx : ipNextHopCreate env nh_info s = x := rfl
  clear_value x
  have hobtain : nextHopNodeObtain env nh_info s = ipNextHopNodeCreate env nh_info.vrf_id nh_info s := by
    unfold nextHopNodeObtain
    rw [hnew]
  have hcreate := ipNextHopNodeCreate_added env h hhome
  unfold ipNextHopCreate at hx
  rw [hobtain] at hx
  generalize ipNextHopNodeCreate _ _ _ s = made at hx hcreate
  obtain ⟨y, u⟩ := made
  obtain ⟨htunnels, ⟨status, hbad, hstatus, hkept⟩ | ⟨p, hp, hadded⟩⟩ := hcreate
  · dsimp only at hstatus
    subst hstatus
    subst hx
    exact .inl ⟨status, rfl, hbad, hkept, htunnels⟩
  dsimp only at hp
  subst hp
  -- the bit is set first, then the NPU is asked
  have hset := hadded.write (f := Nh.setOwnerNextHop) (fun _ => rfl) fun _ => rfl
  have hcore := nextHopNpuCreate_core env p (u.modNh p Nh.setOwnerNextHop)
  have hlists := nextHopNpuCreate_tunnels env p (u.modNh p Nh.setOwnerNextHop)
  have hkey := field_of_core_eq (f := Nh.key) (fun _ => rfl) hset.node
  have hid := field_of_core_eq (f := Nh.tunnel_id) (fun _ => rfl) hset.node
  have hnpu := hset.kept (.of_core hset.places hcore)
  dsimp only at hx
  generalize nextHopNpuCreate _ p _ = z at hx hlists hnpu
  split at hx
  next hok =>
    subst hx
    refine .inr ⟨p, rfl, hnpu.write (f := Nh.setNextHopId _) (fun _ => rfl) fun _ => rfl, ?_⟩
    exact (hlists.trans (if_pos hok)).trans (tunnelsOf_congr hkey hid htunnels)
  rename_i hfail
  subst hx
  have hreset := hnpu.write (f := Nh.nextHopInfoReset) (fun _ => rfl) fun _ => rfl
  have hlive : (z.2.modNh p Nh.nextHopInfoReset).NhLive p := (hreset.live p).mpr (.inl rfl)
  have hzero : ((z.2.modNh p Nh.nextHopInfoReset).nh p).owner_flag.isZero = true := by
    have hflags := field_of_core_eq (f := Nh.owner_flag) (fun _ => rfl) hreset.node
    change ((z.2.modNh p Nh.nextHopInfoReset).nh p).owner_flag = ⟨false, nh_info.owner_flag.neighbor⟩ at hflags
    rw [hflags, hflag]
    rfl
  obtain ⟨hdel, hdropped⟩ := checkAndDeleteIpNextHopNode_dropped hreset.places hlive hzero
  refine .inl ⟨z.1, rfl, hfail, hreset.dropped hdropped, ?_⟩
  exact (hdel.trans (hlists.trans (if_neg hfail))).trans htunnels

theorem ipNextHopRemove_dropped (env) (h : NodePlaces s) (hp : s.NhLive p)
    (hgroups : (s.nh p).nh_group_list = []) (hflag : (s.nh p).owner_flag.neighbor = false) :
    let x := ipNextHopRemove env p s
    (x.1 ≠ .success ∧ env.status (.nexthopRemove (s.nh p)) ≠ .success ∧ NhsKept s x.2 ∧
      x.2.tunnels = s.tunnels) ∨
    (x.1 = .success ∧ NhDropped p s x.2 ∧ x.2.tunnels = s.tunnelsOf (s.nh p) (Tunnel.removeEncapNh env p)) := by
  intro x
  have hx : ipNextHopRemove env p s = x := rfl
  clear_value x
  unfold ipNextHopRemove at hx
  rw [if_ok hgroups] at hx
  have hcore := nextHopNpuRemove_core env p s
  have hstatus := nextHopNpuRemove_status env p s
  have hlists := nextHopNpuRemove_tunnels env p s
  have hkept := NhsKept.of_core h hcore
  by_cases hok : (nextHopNpuRemove env p s).1 = .success
  · rw [andThen_of_success hok] at hx
    dsimp only at hx
    rw [if_pos hok] at hlists
    generalize nextHopNpuRemove _ p s = z at hx hlists hkept
    have hlive : z.2.NhLive p := (hkept.live p).mpr hp
    have hlive' : (z.2.modNh p Nh.nextHopInfoReset).NhLive p := (nhLive_modNh ..).mpr hlive
    have hplaces := hkept.places.of_same (SamePlaces.modNh z.2 p (f := Nh.nextHopInfoReset) rfl)
    have hzero : ((z.2.modNh p Nh.nextHopInfoReset).nh p).owner_flag.isZero = true := by
      have hneighbor : (z.2.nh p).owner_flag.neighbor = (s.nh p).owner_flag.neighbor :=
        field_of_core_eq (f := fun n => n.owner_flag.neighbor) (fun _ => rfl) (hkept.nodes p)
      rw [nh_modNh hlive, if_pos rfl]
      show (⟨false, (z.2.nh p).owner_flag.neighbor⟩ : OwnerFlag).isZero = true
      rw [hneighbor, hflag]
      rfl
    obtain ⟨hdel, hdropped⟩ := checkAndDeleteIpNextHopNode_dropped hplaces hlive' hzero
    subst hx
    refine .inr ⟨rfl, ⟨hdropped.places, fun q => ?_, fun q hq => ?_,
      fun r => (hdropped.homes r).trans (hkept.homes r), fun v => (hdropped.vrfs v).trans (hkept.vrfs v),
      hdropped.ids.trans hkept.ids⟩, hdel.trans hlists⟩
    · rw [hdropped.live, nhLive_modNh, hkept.live]
    · rw [hdropped.others q hq, nh_modNh_of_ne _ _ hq]
      exact hkept.nodes q
  · rw [andThen_of_failure hok] at hx
    subst hx
    refine .inl ⟨hok, ?_, hkept, hlists.trans (if_neg hok)⟩
    rw [← hstatus]
    exact hok

end Effect

end OpxSai
