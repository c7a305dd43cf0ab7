import OpxSai.Routing.EncapFrame
import OpxSai.Routing.NeighborMac

/-!
# Routing — the order of a next hop and its neighbor

A next hop and a neighbor with one key share a node, and each may come first. The
order matters for the attributes of the neighbor: a node that is new takes the whole
record of the neighbor request, a node that is there takes the MAC address and the
packet action (`Nh.neighborAttrCopy`).

* `createCommutes_iff` — the orders agree exactly on the attributes that are copied.
-/

namespace OpxSai

open Fib
variable {entry : NeighborEntry} {attr_list : List NeighborAttr} {flags : NeighborFlags}

/-! ## What requests depend on -/

/-- A router interface without its reference count. -/
def Rif.config (r : Rif) : Rif := { r with ref_count := 0 }

structure SameConfig (s t : Fib) : Prop where
  rifs : ∀ id, (t.rif id).map Rif.config = (s.rif id).map Rif.config
  vrfs : ∀ v, (t.vrf v).map Vrf.vrf_id = (s.vrf v).map Vrf.vrf_id

namespace SameConfig

variable {s t u : Fib}

theorem trans (h : SameConfig s t) (k : SameConfig t u) : SameConfig s u :=
  ⟨fun id => (k.rifs id).trans (h.rifs id), fun v => (k.vrfs v).trans (h.vrfs v)⟩

theorem of_places (h : SamePlaces s t) : SameConfig s t := by
  refine ⟨fun id => ?_, fun v => ?_⟩
  · unfold Fib.rif
    rw [h.rifs]
  · have hv := congrArg (Option.map Prod.fst) (h.vrfs v)
    rw [Option.map_map, Option.map_map] at hv
    exact hv

theorem attached (h : SameConfig s t) (id) :
    (t.rif id).map Rif.attached = (s.rif id).map Rif.attached := by
  have hr := congrArg (Option.map Rif.attached) (h.rifs id)
  rw [Option.map_map, Option.map_map] at hr
  exact hr

theorem vrfForRif (h : SameConfig s t) (id) :
    (t.vrfForRif id).map Vrf.vrf_id = (s.vrfForRif id).map Vrf.vrf_id := by
  have hread : ∀ u : Fib, (u.vrfForRif id).map Vrf.vrf_id =
      ((u.rif id).map Rif.config).bind fun r => (u.vrf r.vrf_id).map Vrf.vrf_id := by
    intro u
    unfold Fib.vrfForRif
    cases u.rif id <;> rfl
  rw [hread, hread, h.rifs]
  refine congrArg (Option.bind _) (funext fun r => ?_)
  exact h.vrfs _

theorem nextHopRifSet (h : SameConfig s t) (oid) (nh_info) :
    nextHopRifSet oid nh_info t = OpxSai.nextHopRifSet oid nh_info s := by
  have htype := congrArg (Option.map Prod.fst) (h.attached oid)
  rw [Option.map_map, Option.map_map] at htype
  have hvalid : nextHopRifValidate oid t = nextHopRifValidate oid s := by
    unfold nextHopRifValidate
    cases hs : s.rif oid with
    | none =>
      rw [hs, Option.map_none, Option.map_eq_none_iff] at htype
      rw [htype]
    | some r =>
      rw [hs, Option.map_some] at htype
      obtain ⟨r', hr', heq⟩ := Option.map_eq_some_iff.mp htype
      have heq : r'.type = r.type := heq
      rw [hr']
      simp only [heq]
  have hvrf := h.vrfForRif oid
  unfold OpxSai.nextHopRifSet
  rw [hvalid]
  cases hs : s.vrfForRif oid with
  | none =>
    rw [hs, Option.map_none, Option.map_eq_none_iff] at hvrf
    rw [hvrf]
  | some v =>
    rw [hs, Option.map_some] at hvrf
    obtain ⟨v', hv', heq⟩ := Option.map_eq_some_iff.mp hvrf
    rw [hv']
    simp only [heq]

theorem nextHopInfoFill (h : SameConfig s t) {env} {attr_list}
    (nh_info) : nextHopInfoFill env attr_list nh_info t =
      OpxSai.nextHopInfoFill env attr_list nh_info s := by
  have hset : nextHopAttrSet t = nextHopAttrSet s := by
    funext info attr
    unfold nextHopAttrSet
    cases attr with
    | routerInterfaceId oid => simp only [h.nextHopRifSet]
    | type s32 => rfl
    | ip addr => rfl
    | tunnelId oid => rfl
    | other id => rfl
  unfold OpxSai.nextHopInfoFill
  rw [hset]

theorem neighborKeyValidateAndFill (h : SameConfig s t) {entry} (nh_info) :
    neighborKeyValidateAndFill entry nh_info t =
      OpxSai.neighborKeyValidateAndFill entry nh_info s := by
  have htype := congrArg (Option.map Prod.fst) (h.attached entry.rif_id)
  rw [Option.map_map, Option.map_map] at htype
  have hvalid : neighborEntryValidate entry t = neighborEntryValidate entry s := by
    unfold neighborEntryValidate
    cases hs : s.rif entry.rif_id with
    | none =>
      rw [hs, Option.map_none, Option.map_eq_none_iff] at htype
      rw [htype]
    | some r =>
      rw [hs, Option.map_some] at htype
      obtain ⟨r', hr', heq⟩ := Option.map_eq_some_iff.mp htype
      have heq : r'.type = r.type := heq
      rw [hr']
      simp only [heq]
  have hvrf := h.vrfForRif entry.rif_id
  unfold OpxSai.neighborKeyValidateAndFill
  rw [hvalid]
  cases hs : s.vrfForRif entry.rif_id with
  | none =>
    rw [hs, Option.map_none, Option.map_eq_none_iff] at hvrf
    rw [hvrf]
  | some v =>
    rw [hs, Option.map_some] at hvrf
    obtain ⟨v', hv', heq⟩ := Option.map_eq_some_iff.mp hvrf
    rw [hv']
    simp only [heq]

end SameConfig

def Nh.neighborAttrs (n : Nh) : Mac × PacketAction × Bool × Nat × Oid :=
  (n.mac_addr, n.packet_action, n.no_host_route, n.meta_data, n.port_id)

variable {n n' nh_info : Nh} {base info : Nh}

theorem neighborPortIdResolve_port {env} {m m'} {s t}
    (hn : neighborPortIdResolve env n s = .ok n') (hm : neighborPortIdResolve env m t = .ok m')
    (hkey : m.key = n.key)
    (hrif : (t.rif n.key.rif_id).map Rif.attached = (s.rif n.key.rif_id).map Rif.attached)
    (haction : m.packet_action = n.packet_action) (hmac : m.mac_addr = n.mac_addr)
    (hport : m.port_id = n.port_id) : m'.port_id = n'.port_id := by
  unfold neighborPortIdResolve at hn hm
  rw [hkey, haction, hmac] at hm
  cases hs : s.rif n.key.rif_id with
  | none =>
    rw [hs] at hn
    simp at hn
  | some r =>
    rw [hs, Option.map_some] at hrif
    obtain ⟨r', hr', hatt⟩ := Option.map_eq_some_iff.mp hrif
    have htype : r'.type = r.type := congrArg Prod.fst hatt
    have hid : r'.attachment = r.attachment := congrArg Prod.snd hatt
    rw [hs] at hn
    rw [hr'] at hm
    simp only [htype, hid] at hn hm
    split at hn
    next hno =>
      rw [if_pos hno] at hm
      cases hn
      cases hm
      exact hport
    rename_i hyes
    rw [if_neg hyes] at hm
    split at hn
    next hp =>
      rw [if_pos hp] at hm
      cases hn
      cases hm
      rfl
    rename_i hv
    rw [if_neg hv] at hm
    split at hn
    next hfdb =>
      rw [if_pos hfdb] at hm
      cases hn
      cases hm
      rfl
    rename_i hfdb
    rw [if_neg hfdb] at hm
    cases hn
    cases hm
    rfl

/-! ## What the calls do -/

section Spec

variable {env : Env} {s t u : Fib} {p : Ptr}

theorem ipNextHopNodeCreate_spec (henv : env.AllSucceed) (h : NodeTrees s)
    (hnew : ipNextHopNodeGet nh_info.key s = none)
    (hvrf : ∃ vrf, s.vrfForRif nh_info.key.rif_id = some vrf ∧ vrf.vrf_id = nh_info.vrf_id) :
    ∃ u, ipNextHopNodeCreate env nh_info.vrf_id nh_info s = (.ok s.nhs.next, u) ∧
      NodeTrees u ∧ u.NhLive s.nhs.next ∧ u.nh s.nhs.next =
        { nh_info with nh_group_list := [], dep_encap_nh_list := [], dep_route_list := [] } ∧
      SameConfig s u ∧ u.neighborsCreated = s.neighborsCreated ∧
      u.nh_id_tree = s.nh_id_tree := by
  obtain ⟨vrf, hfor, hid⟩ := hvrf
  have hv : s.vrf nh_info.vrf_id = some vrf := by
    have hfor' := hfor
    unfold vrfForRif at hfor'
    obtain ⟨rif, -, hv⟩ := Option.bind_eq_some_iff.mp hfor'
    rw [← hid, (h.vrfs _ _ hv).1]
    exact hv
  have hfind : Tree.find vrf.sai_nh_tree nh_info.key = none := by
    unfold ipNextHopNodeGet at hnew
    rw [hfor] at hnew
    exact hnew
  refine ⟨nhNodeMade nh_info.vrf_id nh_info s, ?_,
    h.create hv hfind (h.home_of_vrfForRif ⟨vrf, hfor, hid⟩),
    (nhLive_nhNodeAlloc _ s _).mpr (.inl rfl), ?_, ⟨fun id => ?_, fun v => ?_⟩, rfl, rfl⟩
  · unfold ipNextHopNodeCreate
    rw [hv]
    simp [henv.avail, hfind, nhNodeMade]
  · show (nhNodeAlloc nh_info s).nh s.nhs.next = _
    rw [nh_nhNodeAlloc, if_pos rfl]
  · show Option.map Rif.config ((Fib.modRif _ (fun r => { r with ref_count := r.ref_count + 1 })
      (vrfNhTreeInsert nh_info.vrf_id nh_info.key s.nhs.next (nhNodeAlloc nh_info s))).rif id) = _
    rw [rif_modRif (f := fun r => { r with ref_count := r.ref_count + 1 }) fun _ => rfl,
      Option.map_map]
    refine congrArg (fun k => Option.map k (s.rif id)) (funext fun r => ?_)
    show (if r.rif_id = _ then { r with ref_count := r.ref_count + 1 } else r).config = r.config
    split <;> rfl
  · show Option.map Vrf.vrf_id ((s.modVrf nh_info.vrf_id _).vrf v) = _
    rw [vrf_modVrf]
    split
    · rw [Option.map_map]
      rfl
    · rfl

/-- **Next hop create**: the node is marked, and nothing else about it changes. -/
theorem nextHopCreate_spec (henv : env.AllSucceed) {attr_list}
    (hfill : nextHopInfoFill env attr_list nextHopDefaultAttr s = .ok nh_info)
    (hnode : nextHopNodeObtain env nh_info s = (.ok p, u)) (hp : u.NhLive p)
    (hip : (u.nh p).key.nh_type = .ip) (hid : u.nh_id_tree (uoidCreate .nextHop env.hw_id) = none) :
    (nextHopCreate env attr_list s).1.1 = .success ∧
      SamePlaces u (nextHopCreate env attr_list s).1.2 ∧
      (nextHopCreate env attr_list s).1.2.nh p =
        ((u.nh p).setOwnerNextHop).setNextHopId (uoidCreate .nextHop env.hw_id) ∧
      (nextHopCreate env attr_list s).1.2.neighborsCreated = u.neighborsCreated := by
  have hread : (u.modNh p Nh.setOwnerNextHop).nh p = (u.nh p).setOwnerNextHop := by
    rw [nh_modNh hp, if_pos rfl]
  have hlive := (nhLive_modNh u p p Nh.setOwnerNextHop).mpr hp
  have hnpu : nextHopNpuCreate env p (u.modNh p Nh.setOwnerNextHop) =
      (u.modNh p Nh.setOwnerNextHop).call env (.nexthopCreate (u.nh p).setOwnerNextHop) := by
    have hno : (u.nh p).setOwnerNextHop.isTunnelEncap = false := by
      unfold Nh.isTunnelEncap Nh.setOwnerNextHop
      rw [hip]
      rfl
    unfold nextHopNpuCreate
    rw [hread, hno]
    rfl
  have hcreate : ipNextHopCreate env nh_info s = (.ok p, ((u.modNh p Nh.setOwnerNextHop).call env
      (.nexthopCreate (u.nh p).setOwnerNextHop)).2.modNh p
        (Nh.setNextHopId (uoidCreate .nextHop env.hw_id))) := by
    unfold ipNextHopCreate
    rw [hnode]
    simp only
    have hok : ((u.modNh p Nh.setOwnerNextHop).call env
        (.nexthopCreate (u.nh p).setOwnerNextHop)).1 = .success := henv.status _
    rw [hnpu, if_pos hok]
  have hlive' : ((u.modNh p Nh.setOwnerNextHop).call env
      (.nexthopCreate (u.nh p).setOwnerNextHop)).2.NhLive p := hlive
  have hread' : (((u.modNh p Nh.setOwnerNextHop).call env
      (.nexthopCreate (u.nh p).setOwnerNextHop)).2.modNh p
        (Nh.setNextHopId (uoidCreate .nextHop env.hw_id))).nh p =
      ((u.nh p).setOwnerNextHop).setNextHopId (uoidCreate .nextHop env.hw_id) := by
    rw [nh_modNh hlive', if_pos rfl]
    exact congrArg (Nh.setNextHopId _) hread
  have hplaces : SamePlaces u (((u.modNh p Nh.setOwnerNextHop).call env
      (.nexthopCreate (u.nh p).setOwnerNextHop)).2.modNh p
        (Nh.setNextHopId (uoidCreate .nextHop env.hw_id))) := by
    refine ⟨?_, fun _ => rfl, rfl⟩
    have hfst := (SamePlaces.modNh (f := Nh.setOwnerNextHop) u p rfl).nhs
    exact (SamePlaces.modNh (f := Nh.setNextHopId (uoidCreate .nextHop env.hw_id))
      ((u.modNh p Nh.setOwnerNextHop).call env (.nexthopCreate (u.nh p).setOwnerNextHop)).2 p
      rfl).nhs.trans hfst
  have hlog : (((u.modNh p Nh.setOwnerNextHop).call env
      (.nexthopCreate (u.nh p).setOwnerNextHop)).2.modNh p
        (Nh.setNextHopId (uoidCreate .nextHop env.hw_id))).neighborsCreated =
      u.neighborsCreated := by
    show ((u.modNh p Nh.setOwnerNextHop).call env
      (.nexthopCreate (u.nh p).setOwnerNextHop)).2.neighborsCreated = _
    rw [neighborsCreated_call]
    exact List.append_nil _
  have hids : (((u.modNh p Nh.setOwnerNextHop).call env
      (.nexthopCreate (u.nh p).setOwnerNextHop)).2.modNh p
        (Nh.setNextHopId (uoidCreate .nextHop env.hw_id))).nh_id_tree = u.nh_id_tree := rfl
  unfold nextHopCreate
  rw [hfill]
  simp only
  rw [hcreate]
  simp only
  generalize ((u.modNh p Nh.setOwnerNextHop).call env (.nexthopCreate _)).2.modNh p _ = v
    at hread' hplaces hlog hids ⊢
  have hnone : v.nh_id_tree (v.nh p).next_hop_id = none := by
    rw [hread', hids]
    exact hid
  -- the id is new, so the id tree takes it
  unfold nhIdTreeInsert
  simp only [hnone, henv.avail, Option.isNone_none, Bool.and_true, if_true]
  exact ⟨trivial, ⟨hplaces.nhs, hplaces.vrfs, hplaces.rifs⟩, hread', hlog⟩

theorem neighborMacEntryInsert_success (henv : env.AllSucceed) {key}
    (hkey : neighborMacEntryKey (s.nh p) s = .ok key) :
    (neighborMacEntryInsert env p s).1 = .success ∧
      (neighborMacEntryInsert env p s).2.neighborsCreated = s.neighborsCreated := by
  unfold neighborMacEntryInsert
  rw [hkey]
  cases key with
  | none => exact ⟨rfl, rfl⟩
  | some key =>
    simp only
    cases s.neighbor_mac_tree key with
    | some l => exact ⟨rfl, rfl⟩
    | none =>
      have hcall : ((macTreeSet key (some [p]) s).call env (.registerFdbEntry key)).1 =
          .success := henv.status _
      simp only [henv.avail, Bool.not_true, Bool.false_eq_true, if_false]
      rw [if_pos hcall]
      refine ⟨hcall, ?_⟩
      rw [neighborsCreated_call]
      exact List.append_nil _

/-- **Neighbor create**: the port is worked out, the NPU gets the node as it is then, and the
encap next hops follow. -/
theorem neighborCreate_spec (henv : env.AllSucceed)
    (hkey : neighborKeyValidateAndFill entry neighborDefaultAttr s = .ok base)
    (hfill : neighborInfoFill env attr_list base = .ok (info, flags))
    (hnode : neighborNodeCreate env info s = (.ok p, u)) (h : NodeTrees u) (hp : u.NhLive p)
    (hip : (u.nh p).key.nh_type = .ip) :
    (neighborCreate env entry attr_list s).1 = .success ∧
      ∃ n, neighborPortIdResolve env (u.nh p) u = .ok n ∧
        SameNodes u (neighborCreate env entry attr_list s).2 ∧
        ((neighborCreate env entry attr_list s).2.nh p).neighborAttrs = n.neighborAttrs ∧
        (neighborCreate env entry attr_list s).2.neighborsCreated =
          u.neighborsCreated ++ [n] := by
  obtain ⟨key, hmackey⟩ := neighborMacEntryKey_ok h hp rfl
  obtain ⟨hinsert, hlog⟩ := neighborMacEntryInsert_success henv hmackey
  have honly := macOnly_neighborMacEntryInsert env p u
  have hmac := sameNodes_neighborMacEntryInsert env p u
  have hresolve : ∃ n, neighborPortIdResolve env (u.nh p) u = .ok n := by
    obtain ⟨rif, hrif, -⟩ := h.home p hp
    unfold neighborPortIdResolve
    rw [hrif]
    simp only
    split
    · exact ⟨_, rfl⟩
    split
    · exact ⟨_, rfl⟩
    split
    · exact ⟨_, rfl⟩
    · exact ⟨_, rfl⟩
  obtain ⟨n, hn⟩ := hresolve
  unfold neighborCreate
  rw [hkey]
  simp only
  rw [hfill]
  simp only
  rw [hnode]
  simp only
  rw [if_pos hinsert]
  generalize (neighborMacEntryInsert _ p u).2 = v at hlog honly hmac ⊢
  have hn' : neighborPortIdResolve env (v.nh p) v = .ok n := by
    rw [← hn, honly.nh]
    unfold neighborPortIdResolve
    rw [honly.rif]
  have hvlive : v.NhLive p := (honly.live p).mpr hp
  have hlife : n.life = (v.nh p).life := by
    rw [neighborPortIdResolve_ok hn']
    rfl
  have hwrite : SameNodes u (v.modNh p fun _ => n) :=
    hmac.trans (SameNodes.modNh (f := fun _ => n) v p hlife)
  have hread : (v.modNh p fun _ => n).nh p = n := by
    rw [nh_modNh hvlive, if_pos rfl]
  unfold neighborCreateProgram
  rw [hn']
  simp only
  have hcall : ((v.modNh p fun _ => n).call env (.neighborCreate n)).1 = .success :=
    henv.status _
  have hcalled : ((v.modNh p fun _ => n).call env (.neighborCreate n)).2.neighborsCreated =
      u.neighborsCreated ++ [n] := by
    rw [neighborsCreated_call]
    show v.neighborsCreated ++ [n] = _
    rw [hlog]
  rw [if_pos hcall]
  have hsame : SameNodes u ((v.modNh p fun _ => n).call env (.neighborCreate n)).2 :=
    hwrite.trans (SameNodes.of_core (call_core env (.neighborCreate n) _))
  have hread' : ((v.modNh p fun _ => n).call env (.neighborCreate n)).2.nh p = n := hread
  generalize ((v.modNh p fun _ => n).call _ _).2 = w at hcalled hsame hread' ⊢
  have hframe := neighborAffectedEncapNhResolve_frame env p .create (h.of_same hsame.places)
  have hout : ¬ (w.nh p).key.nh_type = .tunnelEncap := by
    rw [hsame.places.key, hip]
    simp
  refine ⟨rfl, n, hn, hsame.trans (SameNodes.of_core hframe.core), ?_, ?_⟩
  · have haction := hframe.action p hout
    have hfield : ∀ {γ : Type} (f : Nh → γ), (∀ m, f m.core = f m) →
        f ((neighborAffectedEncapNhResolve env p .create w).nh p) = f n := fun f hf =>
      (nh_field_of_core hf hframe.core p).trans (congrArg f hread')
    unfold Nh.neighborAttrs
    rw [haction, hread', hfield Nh.mac_addr fun _ => rfl, hfield Nh.no_host_route fun _ => rfl,
      hfield Nh.meta_data fun _ => rfl, hfield Nh.port_id fun _ => rfl]
  · exact hframe.created.trans hcalled

/-! ## The three orders -/

/-- The node of the neighbor has the given attributes, and the NPU was asked, since `s`, for
one neighbor, with these attributes. -/
def NeighborIs (entry : NeighborEntry) (attrs : Mac × PacketAction × Bool × Nat × Oid)
    (s t : Fib) : Prop :=
  (∃ p, ipNextHopNodeGet (neighborIpNextHopNodeKey entry) t = some p ∧
    (t.nh p).neighborAttrs = attrs) ∧
  ∃ n, t.neighborsCreated = s.neighborsCreated ++ [n] ∧ n.neighborAttrs = attrs

/-- The next hop and then the neighbor, the neighbor and then the next hop, the neighbor alone:
all calls succeed, and the neighbor is the same. -/
structure CreateCommutes (hop neighbor : Call) (entry : NeighborEntry) (s : Fib) : Prop where
  hop_first : (opRun hop.env hop.op s).1 = .success
  neighbor_next : (opRun neighbor.env neighbor.op (fibStep hop s)).1 = .success
  neighbor_first : (opRun neighbor.env neighbor.op s).1 = .success
  hop_next : (opRun hop.env hop.op (fibStep neighbor s)).1 = .success
  same : ∃ attrs, NeighborIs entry attrs s (fibStep neighbor (fibStep hop s)) ∧
    NeighborIs entry attrs s (fibStep hop (fibStep neighbor s)) ∧
    NeighborIs entry attrs s (fibStep neighbor s)

/-- The key of a node, looked up where the node is as it was. -/
theorem NodeTrees.nodeGet_same (h : NodeTrees u) (hp : u.NhLive p) {key}
    (hkey : (u.nh p).key = key) (hsame : SamePlaces u t) : ipNextHopNodeGet key t = some p := by
  have hget := (h.of_same hsame).nodeGet_self ((hsame.live p).mpr hp)
  rw [hsame.key, hkey] at hget
  exact hget

theorem neighborCreate_new (henv : env.AllSucceed) (h : NodeTrees s)
    (hnew : ipNextHopNodeGet (neighborIpNextHopNodeKey entry) s = none)
    (hkey : neighborKeyValidateAndFill entry neighborDefaultAttr s = .ok base)
    (hfill : neighborInfoFill env attr_list base = .ok (info, flags)) :
    (neighborCreate env entry attr_list s).1 = .success ∧
      ∃ u p n, SameConfig s u ∧ NodeTrees u ∧ u.NhLive p ∧
        (u.nh p).key = neighborIpNextHopNodeKey entry ∧
        (u.nh p).owner_flag.next_hop = false ∧ u.nh_id_tree = s.nh_id_tree ∧
        neighborPortIdResolve env (u.nh p) u = .ok n ∧
        (u.nh p).neighborAttrs = info.neighborAttrs ∧
        SameNodes u (neighborCreate env entry attr_list s).2 ∧
        ((neighborCreate env entry attr_list s).2.nh p).neighborAttrs = n.neighborAttrs ∧
        (neighborCreate env entry attr_list s).2.neighborsCreated =
          s.neighborsCreated ++ [n] := by
  have hinfo := (neighborKeyValidateAndFill_ok hkey).fill hfill
  have hinfokey : info.key = neighborIpNextHopNodeKey entry := hinfo.key
  obtain ⟨v, hv, hvtrees, hvlive, hvnh, hvconfig, hvlog, hvids⟩ :=
    ipNextHopNodeCreate_spec henv h (by rw [hinfokey]; exact hnew)
      (by rw [hinfokey]; exact hinfo.vrf)
  have hread : (v.modNh s.nhs.next Nh.setOwnerNeighbor).nh s.nhs.next =
      (v.nh s.nhs.next).setOwnerNeighbor := by
    rw [nh_modNh hvlive, if_pos rfl]
  have hsame : SamePlaces v (v.modNh s.nhs.next Nh.setOwnerNeighbor) :=
    SamePlaces.modNh v _ rfl
  have hnode : neighborNodeCreate env info s =
      (.ok s.nhs.next, v.modNh s.nhs.next Nh.setOwnerNeighbor) := by
    have hget : ipNextHopNodeGet ⟨.ip, info.key.ip_addr, info.key.rif_id, fibTunnelTypeNone⟩ s =
        none := by
      rw [hinfokey]
      exact hnew
    unfold neighborNodeCreate
    rw [hget, hv]
  have hnodekey : ((v.modNh s.nhs.next Nh.setOwnerNeighbor).nh s.nhs.next).key =
      neighborIpNextHopNodeKey entry := by
    rw [hread, hvnh]
    exact hinfokey
  obtain ⟨hok, n, hn, hnodes, hattrs, hlog⟩ := neighborCreate_spec henv hkey hfill hnode
    (hvtrees.of_same hsame) ((hsame.live _).mpr hvlive) (by rw [hnodekey]; rfl)
  refine ⟨hok, v.modNh s.nhs.next Nh.setOwnerNeighbor, s.nhs.next, n,
    hvconfig.trans (.of_places hsame), hvtrees.of_same hsame, (hsame.live _).mpr hvlive,
    hnodekey, ?_, hvids, hn, ?_, hnodes, hattrs, hlog.trans (congrArg (· ++ [n]) hvlog)⟩
  · have hfields : info = _ := hinfo.fields
    rw [hread, hvnh, hfields]
    rfl
  · rw [hread, hvnh]
    rfl

theorem neighborCreate_existing (henv : env.AllSucceed) (h : NodeTrees s) {p}
    (hget : ipNextHopNodeGet (neighborIpNextHopNodeKey entry) s = some p)
    (hflag : (s.nh p).owner_flag.neighbor = false)
    (hkey : neighborKeyValidateAndFill entry neighborDefaultAttr s = .ok base)
    (hfill : neighborInfoFill env attr_list base = .ok (info, flags)) :
    (neighborCreate env entry attr_list s).1 = .success ∧
      ∃ u n, SamePlaces s u ∧ u.nh p = (info.neighborAttrCopy (s.nh p)).setOwnerNeighbor ∧
        neighborPortIdResolve env (u.nh p) u = .ok n ∧
        SameNodes u (neighborCreate env entry attr_list s).2 ∧
        ((neighborCreate env entry attr_list s).2.nh p).neighborAttrs = n.neighborAttrs ∧
        (neighborCreate env entry attr_list s).2.neighborsCreated =
          s.neighborsCreated ++ [n] := by
  obtain ⟨hp, hpkey⟩ := h.nodeGet hget
  have hinfokey : info.key = neighborIpNextHopNodeKey entry :=
    ((neighborKeyValidateAndFill_ok hkey).fill hfill).key
  have hcopy : SamePlaces s (s.modNh p info.neighborAttrCopy) := SamePlaces.modNh s p rfl
  have hlive := (hcopy.live p).mpr hp
  have hset : SamePlaces s ((s.modNh p info.neighborAttrCopy).modNh p Nh.setOwnerNeighbor) :=
    ⟨(SamePlaces.modNh (f := Nh.setOwnerNeighbor) _ p rfl).nhs.trans hcopy.nhs,
      fun _ => rfl, rfl⟩
  have hread : ((s.modNh p info.neighborAttrCopy).modNh p Nh.setOwnerNeighbor).nh p =
      (info.neighborAttrCopy (s.nh p)).setOwnerNeighbor := by
    rw [nh_modNh hlive, if_pos rfl, nh_modNh hp, if_pos rfl]
  have hnode : neighborNodeCreate env info s =
      (.ok p, (s.modNh p info.neighborAttrCopy).modNh p Nh.setOwnerNeighbor) := by
    have hget' : ipNextHopNodeGet ⟨.ip, info.key.ip_addr, info.key.rif_id, fibTunnelTypeNone⟩ s =
        some p := by
      rw [hinfokey]
      exact hget
    unfold neighborNodeCreate
    rw [hget']
    simp [hflag]
  obtain ⟨hok, n, hn, hnodes, hattrs, hlog⟩ := neighborCreate_spec henv hkey hfill hnode
    (h.of_same hset) ((hset.live p).mpr hp) (by rw [hset.key, hpkey]; rfl)
  exact ⟨hok, _, n, hset, hread, hn, hnodes, hattrs, hlog⟩

theorem NeighborIs.unique {a b}
    (ha : NeighborIs entry a s t) (hb : NeighborIs entry b s t) : a = b := by
  obtain ⟨⟨p, hp, hpa⟩, -⟩ := ha
  obtain ⟨⟨q, hq, hqb⟩, -⟩ := hb
  rw [hp] at hq
  cases hq
  exact hpa.symm.trans hqb

theorem neighborPortIdResolve_attrs (h : neighborPortIdResolve env n s = .ok n') :
    n'.neighborAttrs = (n.mac_addr, n.packet_action, n.no_host_route, n.meta_data, n'.port_id) := by
  rw [neighborPortIdResolve_ok h]
  rfl

/-- **The order does not matter** for the neighbor exactly when the request leaves
no-host-route and meta data at their defaults, the values a next hop has. -/
theorem createCommutes_iff {hopEnv neighborEnv : Env} (hhop : hopEnv.AllSucceed)
    (hneighbor : neighborEnv.AllSucceed) (h : NodeTrees s) {entry : NeighborEntry}
    {hop_attrs : List NextHopAttr} {attr_list : List NeighborAttr} {nh_info base info : Nh}
    {flags : NeighborFlags}
    (hnew : ipNextHopNodeGet (neighborIpNextHopNodeKey entry) s = none)
    (hhopfill : nextHopInfoFill hopEnv hop_attrs nextHopDefaultAttr s = .ok nh_info)
    (hhopkey : nh_info.key = neighborIpNextHopNodeKey entry)
    (hid : s.nh_id_tree (uoidCreate .nextHop hopEnv.hw_id) = none)
    (hkey : neighborKeyValidateAndFill entry neighborDefaultAttr s = .ok base)
    (hfill : neighborInfoFill neighborEnv attr_list base = .ok (info, flags)) :
    CreateCommutes ⟨hopEnv, .nextHopCreate hop_attrs⟩
        ⟨neighborEnv, .neighborCreate entry attr_list⟩ entry s ↔
      info.no_host_route = false ∧ info.meta_data = 0 := by
  have hinfo := nextHopInfoFill_ok hhopfill
  have hneighborinfo := (neighborKeyValidateAndFill_ok hkey).fill hfill
  -- the next hop, in a new node
  obtain ⟨v, hv, hvtrees, hvlive, hvnh, hvconfig, hvlog, hvids⟩ :=
    ipNextHopNodeCreate_spec hhop h (by rw [hhopkey]; exact hnew) hinfo.vrf
  have hvkey : (v.nh s.nhs.next).key = neighborIpNextHopNodeKey entry := by
    rw [hvnh]
    exact hhopkey
  obtain ⟨hhopok, hhopplaces, hhopnh, hhoplog⟩ := nextHopCreate_spec hhop hhopfill
    (show nextHopNodeObtain hopEnv nh_info s = (.ok s.nhs.next, v) by
      unfold nextHopNodeObtain
      rw [hhopkey, hnew]
      exact hv) hvlive (by rw [hvkey]; rfl) (by rw [hvids]; exact hid)
  have hhopnode : ∀ {γ : Type} (f : Nh → γ), (∀ m, f (m.setOwnerNextHop.setNextHopId
      (uoidCreate .nextHop hopEnv.hw_id)) = f m) → f ((fibStep ⟨hopEnv, .nextHopCreate hop_attrs⟩
        s).nh s.nhs.next) = f { nh_info with
          nh_group_list := [], dep_encap_nh_list := [], dep_route_list := [] } := by
    intro γ f hf
    rw [← hvnh, ← hf (v.nh s.nhs.next)]
    exact congrArg f hhopnh
  -- the neighbor alone
  obtain ⟨hokN, u, p, nN, huconfig, hutrees, hulive, hukey, huflag, huids, hnN, huattrs, hnodesN,
    hattrsN, hlogN⟩ := neighborCreate_new hneighbor h hnew hkey hfill
  have hgetN := hutrees.nodeGet_same hulive hukey hnodesN.places
  -- the neighbor after the next hop
  have hconfigH := hvconfig.trans (.of_places hhopplaces)
  obtain ⟨hokA, w, nA, hwplaces, hwnh, hnA, hnodesA, hattrsA, hlogA⟩ :=
    neighborCreate_existing hneighbor (hvtrees.of_same hhopplaces)
      (hvtrees.nodeGet_same hvlive hvkey hhopplaces)
      (show ((fibStep ⟨hopEnv, .nextHopCreate hop_attrs⟩ s).nh
          s.nhs.next).owner_flag.neighbor = false by
        rw [hhopnode (fun m => m.owner_flag.neighbor) fun _ => rfl]
        simp [hinfo.owner_flag])
      ((hconfigH.neighborKeyValidateAndFill _).trans hkey) hfill
  have hgetA := hvtrees.nodeGet_same hvlive hvkey
    (hhopplaces.trans (hwplaces.trans hnodesA.places))
  -- the next hop after the neighbor
  have hconfigN := huconfig.trans (.of_places hnodesN.places)
  have hliveN := (hnodesN.places.live p).mpr hulive
  obtain ⟨hokB, hplacesB, hnhB, hlogB⟩ := nextHopCreate_spec hhop
    (s := (neighborCreate neighborEnv entry attr_list s).2)
    ((hconfigN.nextHopInfoFill _).trans hhopfill)
    (show nextHopNodeObtain hopEnv nh_info (neighborCreate neighborEnv entry attr_list s).2 =
        (.ok p, (neighborCreate neighborEnv entry attr_list s).2) by
      unfold nextHopNodeObtain
      rw [hhopkey, hgetN]
      simp only
      rw [hnodesN.owner_flag, huflag]
      rfl) hliveN (by rw [hnodesN.places.key, hukey]; rfl)
    (by rw [hnodesN.ids, huids]; exact hid)
  have hgetB := hutrees.nodeGet_same hulive hukey (hnodesN.places.trans hplacesB)
  have hC : NeighborIs entry nN.neighborAttrs s
      (fibStep ⟨neighborEnv, .neighborCreate entry attr_list⟩ s) :=
    ⟨⟨p, hgetN, hattrsN⟩, nN, hlogN, rfl⟩
  have hB : NeighborIs entry nN.neighborAttrs s (fibStep ⟨hopEnv, .nextHopCreate hop_attrs⟩
      (fibStep ⟨neighborEnv, .neighborCreate entry attr_list⟩ s)) := by
    refine ⟨⟨p, hgetB, ?_⟩, nN, hlogB.trans hlogN, rfl⟩
    exact (congrArg Nh.neighborAttrs hnhB).trans hattrsN
  have hA : NeighborIs entry nA.neighborAttrs s
      (fibStep ⟨neighborEnv, .neighborCreate entry attr_list⟩
        (fibStep ⟨hopEnv, .nextHopCreate hop_attrs⟩ s)) := by
    refine ⟨⟨_, hgetA, hattrsA⟩, nA, hlogA.trans ?_, rfl⟩
    exact congrArg (· ++ [nA]) (hhoplog.trans hvlog)
  -- the attributes, side by side
  have hattrsA := neighborPortIdResolve_attrs hnA
  have hattrsN := neighborPortIdResolve_attrs hnN
  have hwkey : (w.nh s.nhs.next).key = (u.nh p).key := by
    rw [hwplaces.key, hhopplaces.key, hvkey, hukey]
  obtain ⟨humac, huaction, hunohost, humeta, huport⟩ :
      (u.nh p).mac_addr = info.mac_addr ∧ (u.nh p).packet_action = info.packet_action ∧
        (u.nh p).no_host_route = info.no_host_route ∧ (u.nh p).meta_data = info.meta_data ∧
        (u.nh p).port_id = info.port_id := by
    simpa [Nh.neighborAttrs] using huattrs
  have hwmac : (w.nh s.nhs.next).mac_addr = info.mac_addr := by
    rw [hwnh]
    rfl
  have hwaction : (w.nh s.nhs.next).packet_action = info.packet_action := by
    rw [hwnh]
    rfl
  have hwrest : ∀ {γ : Type} (f : Nh → γ), (∀ m n : Nh, f (n.neighborAttrCopy m).setOwnerNeighbor =
      f m) → (∀ m, f (m.setOwnerNextHop.setNextHopId (uoidCreate .nextHop hopEnv.hw_id)) = f m) →
      f (w.nh s.nhs.next) = f { nh_info with
        nh_group_list := [], dep_encap_nh_list := [], dep_route_list := [] } := by
    intro γ f hcopy hset
    rw [hwnh, hcopy]
    exact hhopnode f hset
  have hwnohost : (w.nh s.nhs.next).no_host_route = false := by
    rw [hwrest Nh.no_host_route (fun _ _ => rfl) fun _ => rfl, hinfo.fields]
    rfl
  have hwmeta : (w.nh s.nhs.next).meta_data = 0 := by
    rw [hwrest Nh.meta_data (fun _ _ => rfl) fun _ => rfl, hinfo.fields]
    rfl
  have hwport : (w.nh s.nhs.next).port_id = (u.nh p).port_id := by
    have hfields : info = _ := hneighborinfo.fields
    rw [hwrest Nh.port_id (fun _ _ => rfl) fun _ => rfl, hinfo.fields, huport, hfields]
    rfl
  have hport : nA.port_id = nN.port_id :=
    neighborPortIdResolve_port hnN hnA hwkey
      (((hconfigH.trans (.of_places hwplaces)).attached _).trans (huconfig.attached _).symm)
      (hwaction.trans huaction.symm) (hwmac.trans humac.symm) hwport
  rw [hwmac, hwaction, hwnohost, hwmeta, hport] at hattrsA
  rw [humac, huaction, hunohost, humeta] at hattrsN
  constructor
  · intro hcomm
    obtain ⟨attrs, hsameA, -, hsameC⟩ := hcomm.same
    have heq := (hA.unique hsameA).trans (hsameC.unique hC)
    rw [hattrsA, hattrsN] at heq
    simp only [Prod.mk.injEq] at heq
    exact ⟨heq.2.2.1.symm, heq.2.2.2.1.symm⟩
  · rintro ⟨hnohost, hmeta⟩
    have heq : nA.neighborAttrs = nN.neighborAttrs := by
      rw [hattrsA, hattrsN, hnohost, hmeta]
    rw [heq] at hA
    exact ⟨hhopok, hokA, hokN, hokB, _, hA, hB, hC⟩

end Spec

/-- With meta data the order matters: the neighbor that comes to the node of the next hop
loses it. -/
theorem not_createCommutes_metaData :
    ¬ CreateCommutes ⟨Env.good 1, .nextHopCreate oneNhAttrs⟩
      ⟨Env.good 1, .neighborCreate oneNeighbor [.dstMacAddress 7, .metaData 5]⟩ oneNeighbor
      (oneRif .port ⟨.port, 1⟩) := by
  intro h
  obtain ⟨attrs, ⟨⟨p, hp, hpattrs⟩, -⟩, -, ⟨⟨q, hq, hqattrs⟩, -⟩⟩ := h.same
  have hp' : ipNextHopNodeGet (neighborIpNextHopNodeKey oneNeighbor)
      (fibStep ⟨Env.good 1, .neighborCreate oneNeighbor [.dstMacAddress 7, .metaData 5]⟩
        (fibStep ⟨Env.good 1, .nextHopCreate oneNhAttrs⟩ (oneRif .port ⟨.port, 1⟩))) =
      some 1 := by decide
  have hq' : ipNextHopNodeGet (neighborIpNextHopNodeKey oneNeighbor)
      (fibStep ⟨Env.good 1, .neighborCreate oneNeighbor [.dstMacAddress 7, .metaData 5]⟩
        (oneRif .port ⟨.port, 1⟩)) = some 1 := by decide
  rw [hp'] at hp
  rw [hq'] at hq
  cases hp
  cases hq
  rw [← hqattrs] at hpattrs
  revert hpattrs
  decide

theorem createCommutes_iff_oneNeighbor :
    CreateCommutes ⟨Env.good 1, .nextHopCreate oneNhAttrs⟩
      ⟨Env.good 1, .neighborCreate oneNeighbor [.dstMacAddress 7]⟩ oneNeighbor
      (oneRif .port ⟨.port, 1⟩) :=
  (createCommutes_iff Env.good_allSucceed Env.good_allSucceed
    (noNextHops_oneRif _ _).nodeState.toNodeTrees (by decide) rfl rfl rfl rfl rfl).mpr
    ⟨rfl, rfl⟩

end OpxSai
