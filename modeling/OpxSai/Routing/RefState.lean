import OpxSai.Routing.GroupMembership
import OpxSai.Routing.RouteTrees

/-!
# Routing — who refers to next hops and groups

A next hop is counted by the routes over it and by its copies in groups, a group by the routes
over it and by its own next hops. `RefState` says so of every address, live or not: a freed node
reads zero, so that nothing refers to it.
-/

namespace OpxSai

open Fib
variable {r p : Ptr} {g n : Ptr} {x : Except Status Ptr}

/-! ## References -/

/-- The routes whose next hop object is `obj`. -/
def routeRefs (s : Fib) (obj : RouteNhObj) : Nat :=
  s.routes.sum fun r => if r.nhObj = obj then 1 else 0

def memberRefs (s : Fib) (n : Ptr) : Nat := s.groups.sum fun g => WList.weight g.nh_list n

section References

variable {s t : Fib}

theorem routeRefs_congr
    (h : ∀ r, (t.routes.get r).map Route.nhObj = (s.routes.get r).map Route.nhObj)
    (obj) : routeRefs t obj = routeRefs s obj :=
  Heap.sum_congr_map h fun o => if o = obj then 1 else 0

theorem memberRefs_congr
    (h : ∀ g, (t.groups.get g).map Group.nh_list = (s.groups.get g).map Group.nh_list) (n) :
    memberRefs t n = memberRefs s n :=
  Heap.sum_congr_map h fun l => WList.weight l n

theorem one_le_routeRefs (hr : s.RouteLive r) : 1 ≤ routeRefs s (s.route r).nhObj := by
  have hle := Heap.le_sum (get_of_routeLive hr) fun q =>
    if q.nhObj = (s.route r).nhObj then 1 else 0
  simp only [if_true] at hle
  exact hle

theorem routeRefs_modRoute (hr : s.RouteLive r) (f : Route → Route) (obj) :
    routeRefs (s.modRoute r f) obj + (if (s.route r).nhObj = obj then 1 else 0) =
      routeRefs s obj + if (f (s.route r)).nhObj = obj then 1 else 0 :=
  Heap.sum_modify (get_of_routeLive hr) fun q => if q.nhObj = obj then 1 else 0

theorem weight_le_memberRefs (hg : s.GroupLive g) (n) :
    WList.weight (s.group g).nh_list n ≤ memberRefs s n :=
  Heap.le_sum (get_of_groupLive hg) fun x => WList.weight x.nh_list n

theorem groupLive_of_weight (hpos : 0 < WList.weight (s.group g).nh_list n) :
    s.GroupLive g := by
  by_contra hdead
  rw [group_of_not_live hdead] at hpos
  simp [Group.zero, WList.weight] at hpos

theorem memberRefs_pos (h : LinkLists s) (hne : (s.nh n).nh_group_list ≠ []) :
    0 < memberRefs s n := by
  obtain ⟨k, hk⟩ := List.exists_mem_of_ne_nil _ hne
  have hhas : WList.has (s.nh n).nh_group_list k.self = true :=
    WList.has_iff.mpr ⟨k, hk, rfl⟩
  have hpos : 0 < WList.weight (s.group k.self).nh_list n := by
    rw [h.sym]
    exact (WList.has_iff_weight_pos (h.nh_wf n)).mp hhas
  exact Nat.lt_of_lt_of_le hpos (weight_le_memberRefs (groupLive_of_weight hpos) n)

end References

/-! ## What the counts do not touch -/

def Nh.owner (n : Nh) : (NhKey × Oid) × Oid × OwnerFlag := (n.place, n.next_hop_id, n.owner_flag)

def Group.bond (g : Group) : Oid × List (WLink Ptr) × Nat := (g.group_id, g.nh_list, g.nh_count)

/-- The nodes are where they were, with the ids and the owners they had. -/
structure SameOwners (s t : Fib) : Prop where
  nhs : t.nhs.map Nh.owner = s.nhs.map Nh.owner
  vrfs : ∀ v, (t.vrf v).map Vrf.nhTree = (s.vrf v).map Vrf.nhTree
  rifs : t.router_interface_tree = s.router_interface_tree
  ids : t.nh_id_tree = s.nh_id_tree

/-- Nothing has changed about nodes and groups but the reference counts. -/
structure SameBonds (s t : Fib) : Prop extends SameOwners s t where
  links : ∀ n, (t.nh n).nh_group_list = (s.nh n).nh_group_list
  groups : ∀ g, (t.groups.get g).map Group.bond = (s.groups.get g).map Group.bond
  group_tree : t.nh_group_tree = s.nh_group_tree

section Same

variable {s t u : Fib}

theorem SameOwners.places (h : SameOwners s t) : SamePlaces s t where
  nhs := by
    have hmap := congrArg (fun k => Heap.map k Prod.fst) h.nhs
    simp only [Heap.map_map] at hmap
    exact hmap
  vrfs := h.vrfs
  rifs := h.rifs

theorem SameOwners.owner (h : SameOwners s t) : (t.nh p).owner = (s.nh p).owner :=
  nh_of_get_map (congrArg (fun k => Heap.get k p) h.nhs)

theorem SameOwners.next_hop_id (h : SameOwners s t) (p) :
    (t.nh p).next_hop_id = (s.nh p).next_hop_id :=
  congrArg (fun x => x.2.1) h.owner

theorem SameOwners.owner_flag (h : SameOwners s t) (p) :
    (t.nh p).owner_flag = (s.nh p).owner_flag :=
  congrArg (fun x => x.2.2) h.owner

theorem SameOwners.modNh {f : Nh → Nh} (hf : ∀ n, (f n).owner = n.owner) (s) (p) :
    SameOwners s (s.modNh p f) :=
  ⟨Heap.map_modify_of_comp hf _ p, fun _ => rfl, rfl, rfl⟩

theorem SameOwners.trans (h : SameOwners s t) (k : SameOwners t u) : SameOwners s u :=
  ⟨k.nhs.trans h.nhs, fun v => (k.vrfs v).trans (h.vrfs v), k.rifs.trans h.rifs,
    k.ids.trans h.ids⟩

theorem SameBonds.trans (h : SameBonds s t) (k : SameBonds t u) : SameBonds s u :=
  ⟨h.toSameOwners.trans k.toSameOwners, fun n => (k.links n).trans (h.links n),
    fun g => (k.groups g).trans (h.groups g), k.group_tree.trans h.group_tree⟩

theorem SameBonds.refl (s) : SameBonds s s :=
  ⟨⟨rfl, fun _ => rfl, rfl, rfl⟩, fun _ => rfl, fun _ => rfl, rfl⟩

theorem SameBonds.modNh {f : Nh → Nh} (hf : ∀ n, (f n).owner = n.owner)
    (hlist : ∀ n, (f n).nh_group_list = n.nh_group_list) (s) :
    SameBonds s (s.modNh p f) :=
  ⟨SameOwners.modNh hf s p, nh_modNh_field _ hlist s p, fun _ => rfl, rfl⟩

theorem SameBonds.modGroup {f : Group → Group} (hf : ∀ g, (f g).bond = g.bond) (s) :
    SameBonds s (s.modGroup p f) := by
  refine ⟨⟨rfl, fun _ => rfl, rfl, rfl⟩, fun _ => rfl, fun g => ?_, rfl⟩
  exact congrArg (fun k => Heap.get k g) (Heap.map_modify_of_comp hf _ p)

theorem SameBonds.of_routes (hnhs : t.nhs = s.nhs) (hgroups : t.groups = s.groups)
    (hvrfs : ∀ v, (t.vrf v).map Vrf.nhTree = (s.vrf v).map Vrf.nhTree)
    (hrifs : t.router_interface_tree = s.router_interface_tree)
    (hids : t.nh_id_tree = s.nh_id_tree) (htree : t.nh_group_tree = s.nh_group_tree) :
    SameBonds s t := by
  refine ⟨⟨by rw [hnhs], hvrfs, hrifs, hids⟩, fun n => ?_, fun g => by rw [hgroups], htree⟩
  unfold Fib.nh
  rw [hnhs]

theorem nhTree_modVrf {f : Vrf → Vrf} (hf : ∀ v, (f v).nhTree = v.nhTree) (s : Fib) (id v : Oid) :
    ((s.modVrf id f).vrf v).map Vrf.nhTree = (s.vrf v).map Vrf.nhTree := by
  rw [vrf_modVrf]
  split
  · rw [Option.map_map]
    exact congrArg (fun k => Option.map k (s.vrf v)) (funext hf)
  · rfl

theorem SameBonds.linksOk (h : SameBonds s t) (hs : LinksOk s) : LinksOk t := by
  have hbond : ∀ g, (t.group g).bond = (s.group g).bond := fun g => group_of_get_map (h.groups g)
  have hlist : ∀ g, (t.group g).nh_list = (s.group g).nh_list := fun g =>
    congrArg (fun x => x.2.1) (hbond g)
  refine ⟨⟨fun g => ?_, fun n => ?_, fun g n => ?_⟩, fun g => ?_, fun id g hg => ?_,
    fun id n hn => ?_⟩
  · rw [hlist]
    exact hs.group_wf g
  · rw [h.links]
    exact hs.nh_wf n
  · rw [hlist, h.links]
    exact hs.sym g n
  · have hcount : (t.group g).nh_count = (s.group g).nh_count :=
      congrArg (fun x => x.2.2) (hbond g)
    rw [hcount, hlist]
    exact hs.count g
  · rw [h.group_tree] at hg
    have hid : (t.group g).group_id = (s.group g).group_id := congrArg Prod.fst (hbond g)
    rw [groupLive_of_get_map (h.groups g), hid]
    exact hs.groups id g hg
  · rw [h.ids] at hn
    rw [h.places.live, h.next_hop_id]
    exact hs.nhs id n hn

theorem SameBonds.memberRefs (h : SameBonds s t) (n) :
    OpxSai.memberRefs t n = OpxSai.memberRefs s n := by
  refine memberRefs_congr (fun g => ?_) n
  have hlist := congrArg (Option.map fun x : Oid × List (WLink Ptr) × Nat => x.2.1) (h.groups g)
  rw [Option.map_map, Option.map_map] at hlist
  exact hlist

theorem SameBonds.nh_count (h : SameBonds s t) (g) :
    (t.group g).nh_count = (s.group g).nh_count :=
  congrArg (fun x => x.2.2) (group_of_get_map (h.groups g))

end Same

/-! ## The invariant -/

/-- The counts are right, for every address. -/
structure RefState (s : Fib) : Prop extends NodeState none none s, LinksOk s, RouteTrees s where
  used : ∀ n, (s.nh n).ref_count ≠ 0 → (s.nh n).owner_flag.next_hop = true
  nh_refs : ∀ n, (s.nh n).ref_count = routeRefs s (.nextHop n) + memberRefs s n
  group_refs : ∀ g, (s.group g).ref_count = (s.group g).nh_count + routeRefs s (.nextHopGroup g)

section RefState

variable {s t : Fib}

/-- The invariant of the nodes follows from where they are and from the counts. -/
theorem RefState.build (hs : NodeState none none s) (hsame : SameOwners s t) (hl : LinksOk t)
    (hr : RouteTrees t)
    (hused : ∀ n, (t.nh n).ref_count ≠ 0 → (t.nh n).owner_flag.next_hop = true)
    (hnh : ∀ n, (t.nh n).ref_count = routeRefs t (.nextHop n) + memberRefs t n)
    (hgroup : ∀ g, (t.group g).ref_count = (t.group g).nh_count + routeRefs t (.nextHopGroup g)) :
    RefState t := by
  refine ⟨⟨hs.toNodeTrees.of_same hsame.places, fun p hp hne => ?_, fun id p => ?_,
    fun p hp => ?_⟩, hl, hr, hused, hnh, hgroup⟩
  · rw [hsame.owner_flag]
    exact hs.owned p ((hsame.places.live p).mp hp) hne
  · rw [hsame.ids, hsame.owner_flag, hsame.next_hop_id]
    exact hs.ids id p
  · have hpos := memberRefs_pos hl.toLinkLists hp
    have hcount := hnh p
    have hne : (t.nh p).ref_count ≠ 0 := by omega
    exact ⟨hused p hne, hne⟩

theorem RefState.of_core (h : RefState s) (hcore : t.core = s.core) : RefState t := by
  have hobj := routeRefs_congr (routes_get_of_core (f := Route.nhObj) (fun _ => rfl) hcore)
  have hmember := memberRefs_congr (groups_get_of_core (f := Group.nh_list) (fun _ => rfl) hcore)
  have hsame := SameNodes.of_core hcore
  refine ⟨h.toNodeState.of_core hcore, h.toLinksOk.of_core hcore.symm,
    h.toRouteTrees.of_core hcore, fun n hn => ?_, fun n => ?_, fun g => ?_⟩
  · rw [hsame.ref_count] at hn
    rw [hsame.owner_flag]
    exact h.used n hn
  · rw [hsame.ref_count, hobj, hmember]
    exact h.nh_refs n
  · rw [group_field_of_core (f := Group.ref_count) (fun _ => rfl) hcore,
      group_field_of_core (f := Group.nh_count) (fun _ => rfl) hcore, hobj]
    exact h.group_refs g

theorem RefState.setMap (h : RefState s) (m : MultiMap MapKey MapData) :
    RefState { s with sai_map := m } :=
  ⟨h.toNodeState.of_same ⟨rfl, fun _ => rfl, rfl, rfl⟩,
    ⟨⟨h.group_wf, h.nh_wf, h.sym⟩, h.count, h.groups, h.nhs⟩,
    h.toRouteTrees.of_same ⟨fun _ => rfl, fun _ => rfl⟩, h.used, h.nh_refs, h.group_refs⟩

theorem RefState.unused (h : RefState s) (hp : (s.nh p).owner_flag.next_hop = false) :
    (s.nh p).ref_count = 0 ∧ (s.nh p).nh_group_list = [] := by
  constructor
  · by_contra hne
    rw [h.used p hne] at hp
    simp at hp
  · by_contra hne
    rw [(h.linked p hne).1] at hp
    simp at hp

theorem RefState.unlinked (h : RefState s) (hp : (s.nh p).ref_count = 0) :
    (s.nh p).nh_group_list = [] := by
  by_contra hne
  exact (h.linked p hne).2 hp

end RefState

/-! ## Group calls -/

section Groups

variable {s t : Fib}

theorem memberRefs_addLink (hg : s.GroupLive g) (n q) :
    memberRefs (s.addLink g n) q = memberRefs s q + if q = n then 1 else 0 := by
  have hsum : memberRefs (s.addLink g n) q + WList.weight (s.group g).nh_list q =
      memberRefs s q + WList.weight (WList.bump (s.group g).nh_list n) q :=
    Heap.sum_modify (get_of_groupLive hg) fun x => WList.weight x.nh_list q
  rw [WList.weight_bump] at hsum
  omega

theorem memberRefs_dropLink (h : LinkLists s) (hg : s.GroupLive g) (n q) :
    memberRefs (s.dropLink g n) q + WList.weight (s.group g).nh_list q =
      memberRefs s q + (WList.weight (s.group g).nh_list q - if q = n then 1 else 0) := by
  have hsum : memberRefs (s.dropLink g n) q + WList.weight (s.group g).nh_list q =
      memberRefs s q +
        WList.weight (((s.group g).removeNh n).decrRef).nh_list q :=
    Heap.sum_modify (get_of_groupLive hg) fun x => WList.weight x.nh_list q
  have hlist : (((s.group g).removeNh n).decrRef).nh_list = WList.drop (s.group g).nh_list n :=
    Group.nh_list_removeNh n _
  rw [hlist, WList.weight_drop (h.group_wf g)] at hsum
  exact hsum

theorem RefState.addLink (h : RefState s) (hg : s.GroupLive g) (hn : s.NhLive n)
    (hflag : (s.nh n).owner_flag.next_hop = true) : RefState (s.addLink g n) := by
  have hsame : SameOwners s (s.addLink g n) :=
    ⟨(SameOwners.modNh (f := fun x => (x.bumpGroup g).incrRef) (fun _ => rfl) s n).nhs,
      fun _ => rfl, rfl, rfl⟩
  have hroutes : ∀ obj, routeRefs (s.addLink g n) obj = routeRefs s obj := fun _ => rfl
  refine RefState.build h.toNodeState hsame (h.toLinksOk.addLink hg hn)
    (h.toRouteTrees.of_same ⟨fun _ => rfl, fun _ => rfl⟩) (fun q hq => ?_) (fun q => ?_)
    fun q => ?_
  · rw [hsame.owner_flag]
    rw [nh_ref_count_addLink s g n q hn] at hq
    by_cases hqn : q = n
    · rw [hqn]
      exact hflag
    · rw [if_neg hqn] at hq
      exact h.used q hq
  · rw [nh_ref_count_addLink s g n q hn, hroutes, memberRefs_addLink hg, h.nh_refs q]
    omega
  · rw [group_ref_count_addLink s g n q hg, nh_count_addLink s g n q hg, hroutes, h.group_refs q]
    omega

theorem RefState.dropLink (h : RefState s) (hhas : WList.has (s.group g).nh_list n = true) :
    RefState (s.dropLink g n) := by
  have hpos : 0 < WList.weight (s.group g).nh_list n :=
    (WList.has_iff_weight_pos (h.group_wf g)).mp hhas
  have hg : s.GroupLive g := groupLive_of_weight hpos
  have hsame : SameOwners s (s.dropLink g n) :=
    ⟨(SameOwners.modNh (f := fun x => (x.dropGroup g).decrRef) (fun _ => rfl) s n).nhs,
      fun _ => rfl, rfl, rfl⟩
  have hroutes : ∀ obj, routeRefs (s.dropLink g n) obj = routeRefs s obj := fun _ => rfl
  refine RefState.build h.toNodeState hsame (h.toLinksOk.dropLink g n)
    (h.toRouteTrees.of_same ⟨fun _ => rfl, fun _ => rfl⟩) (fun q hq => ?_) (fun q => ?_)
    fun q => ?_
  · rw [hsame.owner_flag]
    rw [nh_ref_count_dropLink] at hq
    exact h.used q (by omega)
  · -- the copy is one of those that the count has
    have hsum := memberRefs_dropLink h.toLinkLists hg n q
    have hle := weight_le_memberRefs hg q
    rw [nh_ref_count_dropLink, hroutes, h.nh_refs q]
    by_cases hqn : q = n
    · subst hqn
      rw [if_pos rfl] at hsum ⊢
      omega
    · rw [if_neg hqn] at hsum ⊢
      omega
  · rw [group_ref_count_dropLink, nh_count_dropLink, hroutes, h.group_refs q]
    by_cases hq : q = g
    · subst hq
      rw [if_pos rfl, if_pos ⟨rfl, hhas⟩]
      have hcount := h.count q
      have hle := WList.weight_le_total (s.group q).nh_list n
      omega
    · rw [if_neg hq, if_neg fun hand => hq hand.1]
      omega

theorem RefState.memberCreate (h : RefState s) {env : Env}
    (hlinks : env.avail (.groupLink 0) = true ∧ env.avail (.nhLink 0) = true)
    (attr_list) :
    RefState (nextHopGroupMemberCreate env attr_list s).1.2 := by
  by_cases hreq : ∃ gid g nid n, MemberRequest env attr_list s gid g nid n
  · obtain ⟨gid, g, nid, n, hreq⟩ := hreq
    rw [nextHopGroupMemberCreate_accepted hreq]
    have hlinkable : Linkable env g 0 n s := ⟨.inr hlinks.1, .inr hlinks.2⟩
    rcases nextHopAddNodes_cases env h.toLinkLists g n with
      ⟨-, -, t, hcore, hadd⟩ | ⟨-, hnpu, t, hcore, hadd⟩ | ⟨hno, -⟩ | ⟨hno, -⟩
    · obtain ⟨-, hflag, -⟩ := (h.ids nid n).mp hreq.nh
      have ht : RefState t := (h.addLink (h.groups gid g hreq.group).1
        (h.toLinksOk.nhs nid n hreq.nh).1 hflag).of_core hcore
      simp only [hadd, ne_eq, not_true_eq_false, if_false]
      -- what is left writes map entries, if anything
      split
      · exact ht
      rcases nextHopMapInsert_cases env gid nid _ t with
        ⟨-, -, hins⟩ | ⟨-, -, hins⟩ | ⟨-, hins⟩
      · rw [hins]
        exact ht.setMap _
      · rw [hins]
        exact ht.setMap _
      · rw [hins]
        exact ht
    · simp only [hadd, ne_eq, hnpu, not_false_eq_true, if_true]
      exact h.of_core hcore
    · exact absurd hlinkable hno
    · exact absurd hlinkable hno
  · obtain ⟨rc, -, hrej⟩ := nextHopGroupMemberCreate_rejected hreq
    rw [hrej]
    exact h

theorem nextHopRemoveFromGroup_cases {env : Env} {gid nid : Oid} {s : Fib} :
    (nextHopRemoveFromGroup env gid [nid] s).2.core = s.core ∨
      ∃ g n, WList.has (s.group g).nh_list n = true ∧
        (nextHopRemoveFromGroup env gid [nid] s).2.core = (s.dropLink g n).core := by
  unfold nextHopRemoveFromGroup
  split
  · exact .inl rfl
  split
  · exact .inl rfl
  split
  · exact .inl rfl
  rename_i g _
  rw [nextHopFill_one]
  by_cases hnid : nid.type = .nextHop
  · rw [if_neg (by simp [hnid])]
    cases hn : s.nh_id_tree nid with
    | none => exact .inl rfl
    | some n =>
      by_cases hhas : WList.has (s.group g).nh_list n = true
      · simp only [hhas, Bool.true_eq_false, and_false, if_false]
        by_cases hnpu : env.status (.removeNhFromGroup g [n]) = .success
        · rw [andThen_of_success (x := s.call env _) hnpu]
          refine .inr ⟨g, n, hhas, ?_⟩
          show (nhGroupRemoveOne env g n _).core = _
          rw [nhGroupRemoveOne_core, core_dropLink, call_core, ← core_dropLink]
        · rw [andThen_of_failure (x := s.call env _) hnpu]
          exact .inl (call_core env _ s)
      · have hno : WList.has (s.group g).nh_list n = false := by simpa using hhas
        simp only [hno, and_self, if_true]
        exact .inl trivial
  · rw [if_pos hnid]
    exact .inl rfl

theorem RefState.memberRemove (h : RefState s) (env) (member_id) :
    RefState (nextHopGroupMemberRemove env member_id s).2 := by
  unfold nextHopGroupMemberRemove
  split
  · exact h
  split
  · exact h
  rename_i gid nid _
  refine andThen_keeps (P := RefState) ?_ fun ht => ht.setMap _
  rcases nextHopRemoveFromGroup_cases with hcore | ⟨g, n, hhas, hcore⟩
  · exact h.of_core hcore
  · exact (h.dropLink hhas).of_core hcore

theorem RefState.groupCreate (h : RefState s) (env) (attr_list) :
    RefState (nextHopGroupCreate env attr_list s).1.2 := by
  obtain ⟨x, hx⟩ := nextHopGroupCreate_created
  generalize (nextHopGroupCreate _ _ s).1.2 = t at hx ⊢
  have hsame := hx.sameMembership
  have hnh : ∀ n, t.nh n = s.nh n := fun n => by
    unfold Fib.nh
    rw [hx.nhs]
  have hvrf : ∀ v, t.vrf v = s.vrf v := fun v => by
    unfold Fib.vrf
    rw [hx.vrfs]
  have hroutes : ∀ obj, routeRefs t obj = routeRefs s obj :=
    routeRefs_congr fun r => by rw [hx.routes]
  have hmember : ∀ n, memberRefs t n = memberRefs s n := by
    intro n
    cases hcase : x with
    | none =>
      refine memberRefs_congr (fun g => ?_) n
      rw [hx.groups, hcase]
      split
      next hg => rw [hg, Heap.get_next]
      · rfl
    | some g =>
      obtain ⟨id, rfl⟩ := hx.fresh g hcase
      have hget : ∀ q, t.groups.get q =
          (s.groups.alloc { Group.zero with group_id := id }).get q := fun q => by
        rw [hx.groups, Heap.get_alloc, hcase]
      calc memberRefs t n
          = (s.groups.alloc { Group.zero with group_id := id }).sum
              fun g => WList.weight g.nh_list n := Heap.sum_congr_get hget
        _ = memberRefs s n + 0 := Heap.sum_alloc _ _ _
        _ = memberRefs s n := Nat.add_zero _
  have howners : SameOwners s t :=
    ⟨by rw [hx.nhs], fun v => by rw [hvrf], hx.rifs, hx.ids⟩
  refine RefState.build h.toNodeState howners
    (h.toLinksOk.of_same hsame hx.nhs hx.ids (hx.live h.toLinksOk))
    (h.toRouteTrees.of_same ⟨fun r => by rw [hx.routes], fun v => by rw [hvrf]⟩) (fun n hn => ?_)
    (fun n => ?_) fun g => ?_
  · rw [hnh] at hn ⊢
    exact h.used n hn
  · rw [hnh, hroutes, hmember]
    exact h.nh_refs n
  · rw [hsame.group_ref, hsame.nh_count, hroutes]
    exact h.group_refs g

theorem RefState.groupRemove (h : RefState s) (env) (nh_group_id) :
    RefState (nextHopGroupRemove env nh_group_id s).2 := by
  have hempty : ∀ g, (s.group g).ref_count = 0 → (s.group g).nh_count = 0 := fun g hg => by
    have hcount := h.group_refs g
    omega
  rcases nextHopGroupRemove_cases hempty with hcore | ⟨g, u, hg, hrefs, hcore, heq⟩
  · exact h.of_core hcore
  have hu : RefState u := h.of_core hcore
  have hgu : u.nh_group_tree nh_group_id = some g := by
    rw [nh_group_tree_of_core hcore]
    exact hg
  have hrefs' : (u.group g).ref_count = 0 :=
    (group_field_of_core (f := Group.ref_count) (fun _ => rfl) hcore g).trans hrefs
  have hcount : (u.group g).nh_count = 0 := by
    have hsum := hu.group_refs g
    omega
  have hnil : (u.group g).nh_list = [] := by
    refine (WList.total_eq_zero (hu.group_wf g)).mp ?_
    rw [← hu.count]
    exact hcount
  have hsame := sameMembership_groupRemoved hnil hcount hrefs' nh_group_id
  have hmember : ∀ n, memberRefs (groupRemoved nh_group_id g u) n = memberRefs u n := by
    intro n
    have hsum := Heap.sum_free (get_of_groupLive (hu.groups _ g hgu).1)
      fun x => WList.weight x.nh_list n
    simp only [hnil, WList.weight, Nat.add_zero] at hsum
    exact hsum
  rw [heq]
  refine RefState.build hu.toNodeState ⟨rfl, fun _ => rfl, rfl, rfl⟩
    (hu.toLinksOk.of_same hsame rfl rfl (groupRemoved_live hu.toLinksOk hgu))
    (hu.toRouteTrees.of_same ⟨fun _ => rfl, fun _ => rfl⟩) hu.used (fun n => ?_) fun q => ?_
  · rw [hmember]
    exact hu.nh_refs n
  · rw [hsame.group_ref, hsame.nh_count]
    exact hu.group_refs q

end Groups

/-! ## Next hop calls -/

def Nh.refs (n : Nh) : Nat × List (WLink Ptr) := (n.ref_count, n.nh_group_list)

variable {f : Nh → Nh} {nh_info : Nh}

/-- No reference has come or gone, and what is referred to is the next hop it was. -/
structure SameRefs (s t : Fib) : Prop where
  refs : ∀ n, (t.nh n).refs = (s.nh n).refs
  next_hop : ∀ n, (s.nh n).ref_count ≠ 0 →
    (t.nh n).owner_flag.next_hop = (s.nh n).owner_flag.next_hop
  groups : ∀ g, (t.groups.get g).map Group.core = (s.groups.get g).map Group.core
  group_tree : t.nh_group_tree = s.nh_group_tree
  routes : ∀ r, (t.routes.get r).map Route.core = (s.routes.get r).map Route.core
  trees : ∀ v, (t.vrf v).map Vrf.sai_route_tree = (s.vrf v).map Vrf.sai_route_tree

def Unreferred (s : Fib) (p : Ptr) : Prop := (s.nh p).refs = (0, [])

namespace SameRefs

variable {s t u : Fib}

theorem ref_count (h : SameRefs s t) (n) : (t.nh n).ref_count = (s.nh n).ref_count :=
  congrArg Prod.fst (h.refs n)

theorem nh_group_list (h : SameRefs s t) (n) :
    (t.nh n).nh_group_list = (s.nh n).nh_group_list :=
  congrArg Prod.snd (h.refs n)

theorem refl (s) : SameRefs s s :=
  ⟨fun _ => rfl, fun _ _ => rfl, fun _ => rfl, rfl, fun _ => rfl, fun _ => rfl⟩

theorem trans (h : SameRefs s t) (k : SameRefs t u) : SameRefs s u := by
  refine ⟨fun n => (k.refs n).trans (h.refs n), fun n hn => ?_,
    fun g => (k.groups g).trans (h.groups g), k.group_tree.trans h.group_tree,
    fun r => (k.routes r).trans (h.routes r), fun v => (k.trees v).trans (h.trees v)⟩
  have hn' : (t.nh n).ref_count ≠ 0 := by
    rw [h.ref_count]
    exact hn
  exact (k.next_hop n hn').trans (h.next_hop n hn)

theorem unreferred (h : SameRefs s t) (hp : Unreferred s p) : Unreferred t p :=
  (h.refs p).trans hp

theorem of_core (h : t.core = s.core) : SameRefs s t where
  refs := nh_field_of_core (f := Nh.refs) (fun _ => rfl) h
  next_hop := fun n _ => nh_field_of_core (f := fun x => x.owner_flag.next_hop) (fun _ => rfl) h n
  groups := groups_get_of_core (fun _ => rfl) h
  group_tree := nh_group_tree_of_core h
  routes := routes_get_of_core (fun _ => rfl) h
  trees := (SameHomes.of_core h).vrfs

theorem modNh (hp : Unreferred s p) (hf : ∀ n, (f n).refs = n.refs) :
    SameRefs s (s.modNh p f) := by
  refine ⟨nh_modNh_field Nh.refs hf s p, fun n hn => ?_, fun _ => rfl, rfl, fun _ => rfl,
    fun _ => rfl⟩
  have hne : n ≠ p := by
    rintro rfl
    exact hn (congrArg Prod.fst hp)
  rw [nh_modNh_of_ne s f hne]

theorem of_trees (hnhs : t.nhs = s.nhs) (hgroups : t.groups = s.groups)
    (htree : t.nh_group_tree = s.nh_group_tree) (hroutes : t.routes = s.routes)
    (hvrfs : ∀ v, (t.vrf v).map Vrf.sai_route_tree = (s.vrf v).map Vrf.sai_route_tree) :
    SameRefs s t := by
  have hnh : ∀ n, t.nh n = s.nh n := fun n => by
    unfold Fib.nh
    rw [hnhs]
  exact ⟨fun n => by rw [hnh], fun n _ => by rw [hnh], fun g => by rw [hgroups], htree,
    fun r => by rw [hroutes], hvrfs⟩

end SameRefs

theorem sai_route_tree_modVrf {f : Vrf → Vrf} (hf : ∀ v, (f v).sai_route_tree = v.sai_route_tree)
    (s : Fib) (id v : Oid) :
    ((s.modVrf id f).vrf v).map Vrf.sai_route_tree = (s.vrf v).map Vrf.sai_route_tree := by
  rw [vrf_modVrf]
  split
  · rw [Option.map_map]
    exact congrArg (fun k => Option.map k (s.vrf v)) (funext hf)
  · rfl

section NextHops

variable {env : Env} {s t : Fib}

theorem RefState.of_sameRefs (h : RefState s) (hn : NodeState none none t)
    (hsame : SameRefs s t) : RefState t := by
  have hgroup : ∀ {γ : Type} (f : Group → γ), (∀ g, f g.core = f g) →
      ∀ g, f (t.group g) = f (s.group g) := by
    intro γ f hf g
    rw [← hf, ← hf (s.group g)]
    exact congrArg f (group_of_get_map (hsame.groups g))
  have hlist := hgroup Group.nh_list fun _ => rfl
  have hcount := hgroup Group.nh_count fun _ => rfl
  have hget : ∀ {γ : Type} (f : Group → γ), (∀ g, f g.core = f g) →
      ∀ g, (t.groups.get g).map f = (s.groups.get g).map f := by
    intro γ f hf g
    have hmap := congrArg (Option.map f) (hsame.groups g)
    simpa only [Option.map_map, Function.comp_def, hf] using hmap
  have hroute : ∀ {γ : Type} (f : Route → γ), (∀ r, f r.core = f r) →
      ∀ r, (t.routes.get r).map f = (s.routes.get r).map f := by
    intro γ f hf r
    have hmap := congrArg (Option.map f) (hsame.routes r)
    simpa only [Option.map_map, Function.comp_def, hf] using hmap
  have hlinks : LinksOk t := by
    refine ⟨⟨fun g => ?_, fun n => ?_, fun g n => ?_⟩, fun g => ?_, fun id g hg => ?_,
      fun id n hid => ?_⟩
    · rw [hlist]
      exact h.group_wf g
    · rw [hsame.nh_group_list]
      exact h.nh_wf n
    · rw [hlist, hsame.nh_group_list]
      exact h.sym g n
    · rw [hcount, hlist]
      exact h.count g
    · rw [hsame.group_tree] at hg
      rw [groupLive_of_get_map (hsame.groups g), hgroup Group.group_id fun _ => rfl]
      exact h.groups id g hg
    · obtain ⟨-, hflag, hnid⟩ := (hn.ids id n).mp hid
      exact ⟨nhLive_of_next_hop hflag, hnid⟩
  refine ⟨hn, hlinks, h.toRouteTrees.of_same ⟨hroute Route.home fun _ => rfl, hsame.trees⟩,
    fun n hne => ?_, fun n => ?_, fun g => ?_⟩
  · rw [hsame.ref_count] at hne
    rw [hsame.next_hop n hne]
    exact h.used n hne
  · rw [hsame.ref_count, routeRefs_congr (hroute Route.nhObj fun _ => rfl),
      memberRefs_congr (hget Group.nh_list fun _ => rfl)]
    exact h.nh_refs n
  · rw [hgroup Group.ref_count fun _ => rfl, hcount,
      routeRefs_congr (hroute Route.nhObj fun _ => rfl)]
    exact h.group_refs g

theorem checkAndDeleteIpNextHopNode_refs (hp : Unreferred s p) (vrf_id : Oid) :
    SameRefs s (checkAndDeleteIpNextHopNode vrf_id p s).2 := by
  unfold checkAndDeleteIpNextHopNode
  split
  · split
    · exact SameRefs.refl s
    have hread : ∀ q, ((nhNodeFree p (nhRifRefCountDecr p
        (vrfNhTreeRemove vrf_id (s.nh p).key s))).nh q) =
        if q = p then Nh.zero else s.nh q := by
      intro q
      show ((s.nhs.free p).get q).getD Nh.zero = _
      rw [Heap.get_free]
      split <;> rfl
    refine ⟨fun q => ?_, fun q hq => ?_, fun _ => rfl, rfl, fun _ => rfl,
      sai_route_tree_modVrf (f := fun v => { v with
        sai_nh_tree := Tree.erase v.sai_nh_tree (s.nh p).key }) (fun _ => rfl) s _⟩
    · rw [hread]
      split
      next hqp =>
        rw [hqp]
        exact hp.symm
      · rfl
    · rw [hread, if_neg]
      rintro rfl
      exact hq (congrArg Prod.fst hp)
  · exact SameRefs.refl s

theorem ipNextHopNodeCreate_refs (hinfo : nh_info.ref_count = 0)
    {vrf_id : Oid} (hx : ipNextHopNodeCreate env vrf_id nh_info s = (x, t)) :
    SameRefs s t ∧ ∀ p, x = .ok p → Unreferred t p := by
  obtain ⟨status, nhs, -, hget, hx⟩ | ⟨vrf, -, -, hx⟩ := ipNextHopNodeCreate_cases hx
  · cases hx
    have hnh : ∀ n, ({ s with nhs := nhs } : Fib).nh n = s.nh n := fun n => congrArg (·.getD Nh.zero) (hget n)
    exact ⟨⟨fun n => by rw [hnh], fun n _ => by rw [hnh], fun _ => rfl, rfl, fun _ => rfl,
      fun _ => rfl⟩, by simp⟩
  cases hx
  have hread : ∀ q, (nhNodeMade vrf_id nh_info s).nh q = if q = s.nhs.next then { nh_info with
      nh_group_list := [], dep_encap_nh_list := [], dep_route_list := [] } else s.nh q :=
    nh_nhNodeAlloc _ s
  have hzero : s.nh s.nhs.next = Nh.zero := nh_of_not_live (not_nhLive_next s)
  have hnew : Unreferred (nhNodeMade vrf_id nh_info s) s.nhs.next := by
    unfold Unreferred
    rw [hread, if_pos rfl]
    exact Prod.ext hinfo rfl
  refine ⟨⟨fun q => ?_, fun q hq => ?_, fun _ => rfl, rfl, fun _ => rfl,
    sai_route_tree_modVrf (f := fun v => { v with
      sai_nh_tree := Tree.insert v.sai_nh_tree nh_info.key s.nhs.next }) (fun _ => rfl) s
      _⟩, fun p hp => ?_⟩
  · by_cases hqn : q = s.nhs.next
    · rw [hqn, hnew, hzero]
      rfl
    · rw [hread, if_neg hqn]
  · rw [hread, if_neg]
    rintro rfl
    rw [hzero] at hq
    exact hq rfl
  · cases hp
    exact hnew

theorem nextHopNodeObtain_refs (h : RefState s) (hinfo : nh_info.ref_count = 0)
    (hx : nextHopNodeObtain env nh_info s = (x, t)) :
    SameRefs s t ∧ ∀ p, x = .ok p → Unreferred t p := by
  unfold nextHopNodeObtain at hx
  split at hx
  next p _ =>
    split at hx
    · cases hx
      exact ⟨SameRefs.refl s, by simp⟩
    rename_i hflag
    cases hx
    refine ⟨SameRefs.refl s, fun q hq => ?_⟩
    cases hq
    obtain ⟨hcount, hlist⟩ := h.unused (p := p) (by simpa using hflag)
    exact Prod.ext hcount hlist
  · exact ipNextHopNodeCreate_refs hinfo hx

theorem ipNextHopCreate_refs (h : RefState s) (hinfo : nh_info.ref_count = 0)
    (hx : ipNextHopCreate env nh_info s = (x, t)) :
    SameRefs s t ∧ ∀ p, x = .ok p → Unreferred t p := by
  unfold ipNextHopCreate at hx
  cases hobtain : nextHopNodeObtain env nh_info s with
  | mk y u =>
    obtain ⟨hnode, hfree⟩ := nextHopNodeObtain_refs h hinfo hobtain
    rw [hobtain] at hx
    cases y with
    | error status =>
      cases hx
      exact ⟨hnode, by simp⟩
    | ok p =>
      have hu : Unreferred u p := hfree p rfl
      have hset : SameRefs u (u.modNh p Nh.setOwnerNextHop) := SameRefs.modNh hu fun _ => rfl
      have hnpu := SameRefs.of_core (nextHopNpuCreate_core env p (u.modNh p Nh.setOwnerNextHop))
      simp only at hx
      generalize nextHopNpuCreate _ p _ = z at *
      have hz : Unreferred z.2 p := hnpu.unreferred (hset.unreferred hu)
      split at hx
      · cases hx
        have hid : SameRefs z.2 (z.2.modNh p (Nh.setNextHopId (uoidCreate .nextHop env.hw_id))) :=
          SameRefs.modNh hz fun _ => rfl
        refine ⟨hnode.trans (hset.trans (hnpu.trans hid)), fun q hq => ?_⟩
        cases hq
        exact hid.unreferred hz
      cases hx
      have hreset : SameRefs z.2 (z.2.modNh p Nh.nextHopInfoReset) :=
        SameRefs.modNh hz fun _ => rfl
      have hdel := checkAndDeleteIpNextHopNode_refs (hreset.unreferred hz)
        ((z.2.modNh p Nh.nextHopInfoReset).nh p).vrf_id
      exact ⟨hnode.trans (hset.trans (hnpu.trans (hreset.trans hdel))), by simp⟩

variable (env) in

theorem ipNextHopRemove_refs (hp : Unreferred s p) : SameRefs s (ipNextHopRemove env p s).2 := by
  unfold ipNextHopRemove
  split
  · exact SameRefs.refl s
  have hnpu := SameRefs.of_core (nextHopNpuRemove_core env p s)
  refine andThen_keeps (P := SameRefs s) hnpu fun h => ?_
  have hreset := SameRefs.modNh (h.unreferred hp) (f := Nh.nextHopInfoReset) fun _ => rfl
  exact h.trans (hreset.trans
    (checkAndDeleteIpNextHopNode_refs (hreset.unreferred (h.unreferred hp)) _))

variable (env) in

theorem nhIdTreeInsert_refs (p) (s) : SameRefs s (nhIdTreeInsert env p s).2 := by
  unfold nhIdTreeInsert
  simp only
  split
  · exact SameRefs.of_trees rfl rfl rfl rfl fun _ => rfl
  · exact SameRefs.refl s

theorem nhIdTreeRemove_refs (p) (s) : SameRefs s (nhIdTreeRemove p s).2 := by
  unfold nhIdTreeRemove
  simp only
  split <;> exact SameRefs.of_trees rfl rfl rfl rfl fun _ => rfl

theorem RefState.nextHopCreate (h : RefState s) (hclean : NextHopCreateClean env s)
    (attr_list) : RefState (nextHopCreate env attr_list s).1.2 := by
  refine h.of_sameRefs (nextHopCreate_state h.toNodeState hclean) ?_
  unfold OpxSai.nextHopCreate
  split
  · exact SameRefs.refl s
  rename_i nh_info hfill
  have hinfo : nh_info.ref_count = 0 := by
    rw [(nextHopInfoFill_ok hfill).fields]
    rfl
  cases hcreate : ipNextHopCreate env nh_info s with
  | mk x t =>
    obtain ⟨hnode, hfree⟩ := ipNextHopCreate_refs h hinfo hcreate
    cases x with
    | error status => exact hnode
    | ok p =>
      have hins := nhIdTreeInsert_refs env p t
      simp only
      split
      · exact hnode.trans hins
      · exact hnode.trans (hins.trans (ipNextHopRemove_refs env (hins.unreferred (hfree p rfl))))

theorem RefState.nextHopRemove (h : RefState s) (hclean : NextHopRemoveClean env)
    (next_hop_id) : RefState (nextHopRemove env next_hop_id s).2 := by
  refine h.of_sameRefs (nextHopRemove_state h.toNodeState hclean) ?_
  unfold OpxSai.nextHopRemove
  split
  · exact SameRefs.refl s
  split
  · exact SameRefs.refl s
  rename_i p _
  split
  · exact SameRefs.refl s
  split
  · exact SameRefs.refl s
  rename_i hrefs
  have hcount : (s.nh p).ref_count = 0 := by simpa using hrefs
  have hp : Unreferred s p := Prod.ext hcount (h.unlinked hcount)
  have hout := nhIdTreeRemove_refs p s
  unfold nextHopRemoveNode
  simp only
  split
  · exact hout
  have hleave := ipNextHopRemove_refs env (hout.unreferred hp)
  split
  · exact hout.trans hleave
  · exact hout.trans (hleave.trans (nhIdTreeInsert_refs env p _))

end NextHops

end OpxSai
