import OpxSai.Routing.GroupLinks

/-!
# Routing — creating a group member

`nextHopGroupMemberCreate` runs through six points at which it can fail. What an
accepted request does is read off `nextHopAddNodes_cases` (the links and the NPU)
and `nextHopMapInsert` (the map); a request that is not accepted does nothing.

* `memberCreateAtomic_iff` — exactly when the call is all-or-nothing.
-/

namespace OpxSai

open Fib

variable {s : Fib} {env : Env} {attr_list : List MemberAttr} {gid nid : Oid} {g n : Ptr} {t : Fib}

/-! ## Requests -/

/-- The request is accepted: its attributes name the group `g` and the next hop `n`, and the
group has room for one more. -/
structure MemberRequest (env : Env) (attr_list : List MemberAttr) (s : Fib) (gid : Oid) (g : Ptr)
    (nid : Oid) (n : Ptr) : Prop where
  info : nextHopGroupMemberGetInfo 1 attr_list = .ok (gid, [nid])
  gid_type : gid.type = .nextHopGroup
  nh_list : env.avail .nhList = true
  group : s.nh_group_tree gid = some g
  size : isNhGroupSizeValid g 1 s = true
  nid_type : nid.type = .nextHop
  nh : s.nh_id_tree nid = some n

theorem memberGetInfo_one {ids} (h : nextHopGroupMemberGetInfo 1 attr_list = .ok (gid, ids)) :
    ∃ nid, ids = [nid] := by
  unfold nextHopGroupMemberGetInfo at h
  split at h
  · simp at h
  simp only at h
  split at h
  · simp at h
  rename_i info hinfo
  -- the room is checked before an id is stored
  have hlen : info.nh_ids.length ≤ 1 := by
    refine attrListParse_keeps (P := fun i : MemberInfo => i.nh_ids.length ≤ 1)
      (fun i a i' hi ha => ?_) (by simp) hinfo
    cases a with
    | nextHopGroupId oid =>
      simp only at ha
      split at ha
      · simp at ha
      · cases ha
        exact hi
    | nextHopId oid =>
      simp only at ha
      split at ha
      · simp at ha
      rename_i hroom
      cases ha
      simp only [List.length_append, List.length_cons, List.length_nil]
      omega
    | weight => simp at ha
    | other id => simp at ha
  split at h
  next hgrp hids =>
    simp only [Except.ok.injEq, Prod.mk.injEq] at h
    obtain ⟨rfl, rfl⟩ := h
    rw [hids] at hlen
    rename_i nid rest
    have hrest : rest = [] := by
      refine List.eq_nil_of_length_eq_zero ?_
      simp only [List.length_cons] at hlen
      omega
    exact ⟨nid, by rw [hrest]⟩
  · simp at h

theorem memberGetInfo_error {status}
    (h : nextHopGroupMemberGetInfo 1 attr_list = .error status) : status ≠ .success := by
  unfold nextHopGroupMemberGetInfo at h
  split at h
  · cases h
    simp
  simp only at h
  split at h
  next hparse =>
    cases h
    refine attrListParse_error (fun i a => ?_) hparse
    cases a with
    | nextHopGroupId oid =>
      simp only
      split <;> simp
    | nextHopId oid =>
      simp only
      split <;> simp
    | weight => simp
    | other id => simp
  · split at h
    · simp at h
    · cases h
      simp

theorem nextHopFill_one (g) (nid) (is_remove : Bool) (s) :
    nextHopFillFromNhIdList g [nid] is_remove s =
      if nid.type ≠ .nextHop then .error .invalidObjectType
      else match s.nh_id_tree nid with
        | none => .error .invalidObjectId
        | some n =>
          if is_remove ∧ WList.has (s.group g).nh_list n = false then .error .invalidObjectId
          else .ok [n] := by
  unfold nextHopFillFromNhIdList
  rw [if_neg (by simp), List.mapM_cons, List.mapM_nil]
  split
  · rfl
  cases s.nh_id_tree nid with
  | none => rfl
  | some n =>
    simp only
    split <;> rfl

theorem nextHopAddToGroup_cases {env} {gid nid} {s} :
    (∃ g n, gid.type = .nextHopGroup ∧ env.avail .nhList = true ∧ s.nh_group_tree gid = some g ∧
        isNhGroupSizeValid g 1 s = true ∧ nid.type = .nextHop ∧ s.nh_id_tree nid = some n ∧
        nextHopAddToGroup env gid [nid] s = nextHopAddNodes env g [n] s) ∨
      ((¬ ∃ g n, gid.type = .nextHopGroup ∧ env.avail .nhList = true ∧
          s.nh_group_tree gid = some g ∧ isNhGroupSizeValid g 1 s = true ∧
          nid.type = .nextHop ∧ s.nh_id_tree nid = some n) ∧
        ∃ rc, rc ≠ .success ∧ nextHopAddToGroup env gid [nid] s = (rc, s)) := by
  unfold nextHopAddToGroup
  by_cases htype : gid.type = .nextHopGroup
  · rw [if_neg (by simp [htype])]
    by_cases hroom : env.avail .nhList = true
    · rw [if_neg (by simp [hroom])]
      cases hg : s.nh_group_tree gid with
      | none => exact .inr ⟨by simp, .invalidObjectId, by simp, rfl⟩
      | some g =>
        simp only [List.length_cons, List.length_nil, Nat.zero_add, nextHopFill_one]
        by_cases hsize : isNhGroupSizeValid g 1 s = true
        · rw [if_neg (by simp [hsize])]
          by_cases hnid : nid.type = .nextHop
          · rw [if_neg (by simp [hnid])]
            cases hn : s.nh_id_tree nid with
            | none => exact .inr ⟨by simp, .invalidObjectId, by simp, rfl⟩
            | some n => exact .inl ⟨g, n, htype, hroom, rfl, hsize, hnid, rfl, by simp⟩
          · rw [if_pos hnid]
            exact .inr ⟨by simp [hnid], .invalidObjectType, by simp, rfl⟩
        · rw [if_pos (by simpa using hsize)]
          exact .inr ⟨by simp [hsize], .insufficientResources, by simp, rfl⟩
    · rw [if_pos (by simpa using hroom)]
      exact .inr ⟨by simp [hroom], .noMemory, by simp, rfl⟩
  · rw [if_pos htype]
    exact .inr ⟨by simp [htype], .invalidObjectType, by simp, rfl⟩

theorem nextHopGroupMemberCreate_rejected (h : ¬ ∃ gid g nid n, MemberRequest env attr_list s gid g nid n) :
    ∃ rc, rc ≠ .success ∧ nextHopGroupMemberCreate env attr_list s = ((rc, s), none) := by
  unfold nextHopGroupMemberCreate
  cases hinfo : nextHopGroupMemberGetInfo 1 attr_list with
  | error rc => exact ⟨rc, memberGetInfo_error hinfo, rfl⟩
  | ok x =>
    obtain ⟨gid, ids⟩ := x
    obtain ⟨nid, rfl⟩ := memberGetInfo_one hinfo
    rcases nextHopAddToGroup_cases with
      ⟨g, n, htype, hroom, hg, hsize, hnid, hn, _⟩ | ⟨_, rc, hrc, heq⟩
    · exact absurd ⟨gid, g, nid, n, hinfo, htype, hroom, hg, hsize, hnid, hn⟩ h
    · simp only [heq]
      exact ⟨rc, hrc, by rw [if_pos hrc]⟩

theorem nextHopGroupMemberCreate_accepted (h : MemberRequest env attr_list s gid g nid n) :
    nextHopGroupMemberCreate env attr_list s =
      let x := nextHopAddNodes env g [n] s
      if x.1 ≠ .success then (x, none)
      else match generateNextHopGrpMemberId env x.2 with
        | none => ((.failure, x.2), some .null)
        | some m => (nextHopMapInsert env gid nid m x.2, some m) := by
  unfold nextHopGroupMemberCreate
  rw [h.info]
  rcases nextHopAddToGroup_cases with
    ⟨g', n', -, -, hg, -, -, hn, heq⟩ | ⟨hno, -⟩
  · obtain rfl : g = g' := Option.some.inj (h.group.symm.trans hg)
    obtain rfl : n = n' := Option.some.inj (h.nh.symm.trans hn)
    dsimp only
    rw [heq]
    rfl
  · exact absurd ⟨g, n, h.gid_type, h.nh_list, h.group, h.size, h.nid_type, h.nh⟩ hno

theorem MemberRequest.unique {gid' nid'} {g' n'} (h : MemberRequest env attr_list s gid g nid n)
    (h' : MemberRequest env attr_list s gid' g' nid' n') :
    gid = gid' ∧ g = g' ∧ nid = nid' ∧ n = n' := by
  have hinfo := h.info.symm.trans h'.info
  simp only [Except.ok.injEq, Prod.mk.injEq, List.cons.injEq, and_true] at hinfo
  obtain ⟨rfl, rfl⟩ := hinfo
  exact ⟨rfl, Option.some.inj (h.group.symm.trans h'.group), rfl,
    Option.some.inj (h.nh.symm.trans h'.nh)⟩

theorem LinkLists.has_iff (h : LinkLists s) (g n) :
    WList.has (s.group g).nh_list n = true ↔ WList.has (s.nh n).nh_group_list g = true := by
  rw [WList.has_iff_weight_pos (h.group_wf g), WList.has_iff_weight_pos (h.nh_wf n), h.sym]

theorem nhGroupAddInLists_one {env} (h : LinkLists s) {g n} :
    (Linkable env g 0 n s ∧ ∃ t, t.core = (s.addLink g n).core ∧
        nhGroupAddInLists env g [n] s = (.success, t)) ∨
      (¬ Linkable env g 0 n s ∧ nhGroupAddInLists env g [n] s = (.success, s)) := by
  unfold nhGroupAddInLists nhGroupAddFrom
  cases hone : nhGroupAddOne env g 0 n s with
  | ok t =>
    obtain ⟨hlink, hcore⟩ := nhGroupAddOne_ok hone
    exact .inl ⟨hlink, t, hcore, by simp [nhGroupAddFrom]⟩
  | error t =>
    obtain ⟨hlink, rfl⟩ := nhGroupAddOne_error (h.nh_wf n) hone
    exact .inr ⟨hlink, by simp⟩

/-- **Adding one next hop.** The four outcomes: linked or not, and programmed or not. A next
hop that could not be linked is handed to the NPU all the same, and taken out of a list it is
not on when the NPU refuses it. -/
theorem nextHopAddNodes_cases (env) (h : LinkLists s) (g n) :
    (Linkable env g 0 n s ∧ env.status (.addNhToGroup g [n]) = .success ∧
        ∃ t, t.core = (s.addLink g n).core ∧ nextHopAddNodes env g [n] s = (.success, t)) ∨
      (Linkable env g 0 n s ∧ env.status (.addNhToGroup g [n]) ≠ .success ∧
        ∃ t, t.core = s.core ∧
          nextHopAddNodes env g [n] s = (env.status (.addNhToGroup g [n]), t)) ∨
      (¬ Linkable env g 0 n s ∧ env.status (.addNhToGroup g [n]) = .success ∧
        ∃ t, t.core = s.core ∧ nextHopAddNodes env g [n] s = (.success, t)) ∨
      (¬ Linkable env g 0 n s ∧ env.status (.addNhToGroup g [n]) ≠ .success ∧
        ∃ t, t.core = (s.dropLink g n).core ∧
          nextHopAddNodes env g [n] s = (env.status (.addNhToGroup g [n]), t)) := by
  unfold nextHopAddNodes
  rcases nhGroupAddInLists_one h with ⟨hlink, t, hcore, hadd⟩ | ⟨hlink, hadd⟩
  · rw [hadd, andThen_of_success rfl]
    by_cases hnpu : env.status (.addNhToGroup g [n]) = .success
    · refine .inl ⟨hlink, hnpu, (t.call env (.addNhToGroup g [n])).2, hcore, ?_⟩
      simp [call, hnpu]
    refine .inr (.inl ⟨hlink, hnpu,
      nhGroupRemoveOne env g n (t.call env (.addNhToGroup g [n])).2, ?_, ?_⟩)
    · calc (nhGroupRemoveOne env g n (t.call env (.addNhToGroup g [n])).2).core
          = t.core.dropLink g n := by rw [nhGroupRemoveOne_core, core_dropLink, call_core]
        _ = ((s.addLink g n).dropLink g n).core := by rw [hcore, core_dropLink]
        _ = s.core := by rw [dropLink_addLink h]
    · simp [call, hnpu, nhGroupRemoveFromLists]
  · rw [hadd, andThen_of_success rfl]
    by_cases hnpu : env.status (.addNhToGroup g [n]) = .success
    · refine .inr (.inr (.inl ⟨hlink, hnpu, (s.call env (.addNhToGroup g [n])).2, rfl, ?_⟩))
      simp [call, hnpu]
    refine .inr (.inr (.inr ⟨hlink, hnpu,
      nhGroupRemoveOne env g n (s.call env (.addNhToGroup g [n])).2, ?_, ?_⟩))
    · rw [nhGroupRemoveOne_core, core_dropLink, call_core, ← core_dropLink]
    · simp [call, hnpu, nhGroupRemoveFromLists]

/-! ## The map -/

theorem generateNextHopGrpMemberId_of_core (h : s.core = t.core) :
    generateNextHopGrpMemberId env s = generateNextHopGrpMemberId env t := by
  unfold generateNextHopGrpMemberId
  have huse : isNextHopGrpMemberIdInUse s = isNextHopGrpMemberIdInUse t := by
    funext id
    unfold isNextHopGrpMemberIdInUse nextHopMapGetIdsFromMemberId
    rw [sai_map_of_core h]
  rw [huse]

theorem generateNextHopGrpMemberId_unused {m} (h : generateNextHopGrpMemberId env s = some m) :
    s.sai_map (memberInfoKey m) = none ∧ m.type = .nextHopGroupMember := by
  unfold generateNextHopGrpMemberId at h
  obtain ⟨id, hid, rfl⟩ := Option.map_eq_some_iff.mp h
  have hunused := env.member_id_gen.unused _ _ hid
  unfold isNextHopGrpMemberIdInUse nextHopMapGetIdsFromMemberId at hunused
  rw [Option.isSome_map] at hunused
  exact ⟨by simpa using hunused, rfl⟩

theorem addLink_sai_map {s : Fib} {g n : Ptr} : (s.addLink g n).sai_map = s.sai_map := rfl

theorem dropLink_sai_map (s : Fib) (g n : Ptr) : (s.dropLink g n).sai_map = s.sai_map := rfl

def addMember (gid nid m : Oid) (s : Fib) : Fib :=
  let list := s.sai_map.insert (memberListKey gid) ⟨m, .null⟩
  { s with sai_map := list.insert (memberInfoKey m) ⟨gid, nid⟩ }

theorem nextHopMapInsert_cases (env) (gid nid m) (s) :
    (env.avail .memberListMap = true ∧ env.avail .memberInfoMap = true ∧
        nextHopMapInsert env gid nid m s = (.success, addMember gid nid m s)) ∨
      (env.avail .memberListMap = true ∧ env.avail .memberInfoMap = false ∧
        nextHopMapInsert env gid nid m s = (.failure,
          { s with sai_map := s.sai_map.insert (memberListKey gid) ⟨m, .null⟩ })) ∨
      (env.avail .memberListMap = false ∧ nextHopMapInsert env gid nid m s = (.failure, s)) := by
  unfold nextHopMapInsert saiMapInsert
  by_cases hlist : env.avail .memberListMap = true
  · by_cases hinfo : env.avail .memberInfoMap = true
    · exact .inl ⟨hlist, hinfo, by simp [hlist, hinfo, andThen, addMember]⟩
    · have hinfo' : env.avail .memberInfoMap = false := by simpa using hinfo
      exact .inr (.inl ⟨hlist, hinfo', by simp [hlist, hinfo', andThen]⟩)
  · have hlist' : env.avail .memberListMap = false := by simpa using hlist
    exact .inr (.inr ⟨hlist', by simp [hlist', andThen]⟩)

/-! ## All or nothing -/

/-- Nothing about groups and their members has changed. -/
structure SameMembership (s t : Fib) : Prop where
  nh_list : ∀ g, (t.group g).nh_list = (s.group g).nh_list
  nh_count : ∀ g, (t.group g).nh_count = (s.group g).nh_count
  group_ref : ∀ g, (t.group g).ref_count = (s.group g).ref_count
  nh_group_list : ∀ n, (t.nh n).nh_group_list = (s.nh n).nh_group_list
  nh_ref : ∀ n, (t.nh n).ref_count = (s.nh n).ref_count
  sai_map : t.sai_map = s.sai_map

theorem SameMembership.of_core (h : t.core = s.core) : SameMembership s t where
  nh_list := group_field_of_core (f := Group.nh_list) (fun _ => rfl) h
  nh_count := group_field_of_core (f := Group.nh_count) (fun _ => rfl) h
  group_ref := group_field_of_core (f := Group.ref_count) (fun _ => rfl) h
  nh_group_list := nh_field_of_core (f := Nh.nh_group_list) (fun _ => rfl) h
  nh_ref := nh_field_of_core (f := Nh.ref_count) (fun _ => rfl) h
  sai_map := sai_map_of_core h

/-- The next hop is in the group once more, and the returned member id says so. -/
def MemberAdded (attr_list : List MemberAttr) (s t : Fib) (out_member_id : Option Oid) : Prop :=
  ∃ gid g nid n m, nextHopGroupMemberGetInfo 1 attr_list = .ok (gid, [nid]) ∧
    s.nh_group_tree gid = some g ∧ s.nh_id_tree nid = some n ∧ out_member_id = some m ∧
    WList.weight (t.group g).nh_list n = WList.weight (s.group g).nh_list n + 1 ∧
    nextHopMapGetIdsFromMemberId m t = some (gid, nid)

/-- `sai_fib_next_hop_group_member_create` is all-or-nothing in this call. -/
def MemberCreateAtomic (env : Env) (attr_list : List MemberAttr) (s : Fib) : Prop :=
  let x := nextHopGroupMemberCreate env attr_list s
  (x.1.1 ≠ .success → SameMembership s x.1.2) ∧
    (x.1.1 = .success → MemberAdded attr_list s x.1.2 x.2)

/-- When the links can be made, nothing may fail after the NPU has taken the next hop. When
they cannot, the NPU must refuse the next hop with no reference count to take back, or the
member id or its first map entry must fail. -/
def MemberCreateClean (env : Env) (attr_list : List MemberAttr) (s : Fib) : Prop :=
  ∀ gid g nid n, MemberRequest env attr_list s gid g nid n →
    if Linkable env g 0 n s then
      env.status (.addNhToGroup g [n]) = .success →
        (generateNextHopGrpMemberId env s).isSome ∧ env.avail .memberListMap = true ∧
          env.avail .memberInfoMap = true
    else if env.status (.addNhToGroup g [n]) = .success then
      (generateNextHopGrpMemberId env s).isSome → env.avail .memberListMap = false
    else (s.nh n).ref_count = 0 ∧ (s.group g).ref_count = 0

theorem memberCreateClean_iff (h : MemberRequest env attr_list s gid g nid n) :
    MemberCreateClean env attr_list s ↔
      if Linkable env g 0 n s then
        env.status (.addNhToGroup g [n]) = .success →
          (generateNextHopGrpMemberId env s).isSome ∧ env.avail .memberListMap = true ∧
            env.avail .memberInfoMap = true
      else if env.status (.addNhToGroup g [n]) = .success then
        (generateNextHopGrpMemberId env s).isSome → env.avail .memberListMap = false
      else (s.nh n).ref_count = 0 ∧ (s.group g).ref_count = 0 := by
  constructor
  · intro hclean
    exact hclean gid g nid n h
  · intro hbody gid' g' nid' n' h'
    obtain ⟨rfl, rfl, rfl, rfl⟩ := h.unique h'
    exact hbody

/-- Where the links cannot be made, there are none. -/
theorem not_has_of_not_linkable (h : LinkLists s) {i : Nat} (hlink : ¬ Linkable env g i n s) :
    WList.has (s.group g).nh_list n = false ∧ WList.has (s.nh n).nh_group_list g = false := by
  have hiff := h.has_iff g n
  have hgroup : ¬ WList.has (s.group g).nh_list n = true := fun hhas =>
    hlink ⟨.inl (hiff.mp hhas), .inl hhas⟩
  exact ⟨by simpa using hgroup, by simpa using fun hhas => hgroup (hiff.mpr hhas)⟩

/-- Taking a next hop out of a group it is not in changes the two reference counts, unless
they are zero already. -/
theorem sameMembership_dropLink_iff
    (hcore : t.core = (s.dropLink g n).core) (hgroup : WList.has (s.group g).nh_list n = false)
    (hnh : WList.has (s.nh n).nh_group_list g = false) :
    SameMembership s t ↔ (s.nh n).ref_count = 0 ∧ (s.group g).ref_count = 0 := by
  have hsame := SameMembership.of_core hcore
  constructor
  · intro h
    have hn := (hsame.nh_ref n).symm.trans (h.nh_ref n)
    have hg := (hsame.group_ref g).symm.trans (h.group_ref g)
    rw [nh_ref_count_dropLink, if_pos rfl] at hn
    rw [group_ref_count_dropLink, if_pos rfl] at hg
    omega
  · rintro ⟨hn, hg⟩
    refine ⟨fun q => ?_, fun q => ?_, fun q => ?_, fun q => ?_, fun q => ?_, ?_⟩
    · rw [hsame.nh_list, nh_list_dropLink]
      split
      next hq => rw [hq, WList.drop_of_not_has hgroup]
      · rfl
    · rw [hsame.nh_count, nh_count_dropLink]
      split
      next hq =>
        rw [hq.1, hgroup] at hq
        simp at hq
      · rfl
    · rw [hsame.group_ref, group_ref_count_dropLink]
      split
      next hq =>
        rw [hq]
        omega
      · rfl
    · rw [hsame.nh_group_list, nh_group_list_dropLink]
      split
      next hq => rw [hq, WList.drop_of_not_has hnh]
      · rfl
    · rw [hsame.nh_ref, nh_ref_count_dropLink]
      split
      next hq =>
        rw [hq]
        omega
      · rfl
    · rw [hsame.sai_map, dropLink_sai_map]

/-- The links of an added member are a change, whatever has become of the map. -/
theorem not_sameMembership_addLink {u} (hg : s.GroupLive g)
    (hcore : t.core = (s.addLink g n).core) (hgroups : u.groups = t.groups) :
    ¬ SameMembership s u := by
  intro h
  have hcount := h.nh_count g
  have ht := (SameMembership.of_core hcore).nh_count g
  have hu : u.group g = t.group g := by
    unfold Fib.group
    rw [hgroups]
  rw [hu, ht, nh_count_addLink s g n g hg, if_pos rfl] at hcount
  omega

theorem nextHopMapGetIds_addMember {m} (hm : s.sai_map (memberInfoKey m) = none)
    (gid nid) : nextHopMapGetIdsFromMemberId m (addMember gid nid m s) = some (gid, nid) := by
  have hne : memberInfoKey m ≠ memberListKey gid := by simp [memberInfoKey, memberListKey]
  unfold nextHopMapGetIdsFromMemberId addMember
  simp only [MultiMap.insert_self, MultiMap.values, MultiMap.insert_of_ne _ _ hne, hm]
  rfl

/-- **Member create is all-or-nothing exactly when** `MemberCreateClean` holds: the group and
the next hop stay linked when the member id or a map insertion fails, and a first link that
cannot be allocated goes unnoticed. -/
theorem memberCreateAtomic_iff {s : Fib} (hs : LinksOk s) (env : Env)
    (attr_list : List MemberAttr) :
    MemberCreateAtomic env attr_list s ↔ MemberCreateClean env attr_list s := by
  by_cases hreq : ∃ gid g nid n, MemberRequest env attr_list s gid g nid n
  · obtain ⟨gid, g, nid, n, hreq⟩ := hreq
    rw [memberCreateClean_iff hreq]
    unfold MemberCreateAtomic
    rw [nextHopGroupMemberCreate_accepted hreq]
    have hg : s.GroupLive g := (hs.groups gid g hreq.group).1
    rcases nextHopAddNodes_cases env hs.toLinkLists g n with
      ⟨hlink, hnpu, t, hcore, hadd⟩ | ⟨hlink, hnpu, t, hcore, hadd⟩ |
      ⟨hlink, hnpu, t, hcore, hadd⟩ | ⟨hlink, hnpu, t, hcore, hadd⟩
    · -- linked and programmed: from here on nothing is undone
      have hgen : generateNextHopGrpMemberId env t = generateNextHopGrpMemberId env s :=
        (generateNextHopGrpMemberId_of_core hcore).trans rfl
      rw [if_pos hlink]
      simp only [hadd, ne_eq, not_true_eq_false, if_false, hgen, hnpu, true_implies]
      cases hm : generateNextHopGrpMemberId env s with
      | none =>
        have hno := not_sameMembership_addLink hg hcore rfl
        simp [hno]
      | some m =>
        obtain ⟨hunused, -⟩ := generateNextHopGrpMemberId_unused (hgen.trans hm)
        rcases nextHopMapInsert_cases env gid nid m t with
          ⟨hlist, hinfo, hins⟩ | ⟨hlist, hinfo, hins⟩ | ⟨hlist, hins⟩
        · simp only [hins, hlist, hinfo, not_true_eq_false, false_implies, true_implies, true_and,
            Option.isSome_some, and_self, iff_true]
          refine ⟨gid, g, nid, n, m, hreq.info, hreq.group, hreq.nh, rfl, ?_,
            nextHopMapGetIds_addMember hunused gid nid⟩
          have hlist : (t.group g).nh_list = WList.bump (s.group g).nh_list n := by
            rw [(SameMembership.of_core hcore).nh_list, nh_list_addLink s g n g hg, if_pos rfl]
          show WList.weight (t.group g).nh_list n = _
          rw [hlist, WList.weight_bump, if_pos rfl]
        · have hno := not_sameMembership_addLink (u := (nextHopMapInsert env gid nid m t).2) hg
            hcore (by rw [hins])
          rw [hins] at hno
          simp [hins, hinfo, hno]
        · have hno := not_sameMembership_addLink hg hcore rfl
          simp [hins, hlist, hno]
    · -- linked, refused and unlinked again
      have hsame := SameMembership.of_core hcore
      rw [if_pos hlink]
      simp [hadd, hnpu, hsame]
    · -- not linked, but programmed
      have hsame := SameMembership.of_core hcore
      have hgen : generateNextHopGrpMemberId env t = generateNextHopGrpMemberId env s :=
        generateNextHopGrpMemberId_of_core hcore
      rw [if_neg hlink, if_pos hnpu]
      simp only [hadd, ne_eq, not_true_eq_false, if_false, hgen]
      cases hm : generateNextHopGrpMemberId env s with
      | none => simp [hsame]
      | some m =>
        rcases nextHopMapInsert_cases env gid nid m t with
          ⟨hlist, hinfo, hins⟩ | ⟨hlist, hinfo, hins⟩ | ⟨hlist, hins⟩
        · -- SUCCESS, and the weight is what it was
          have hno : ¬ MemberAdded attr_list s (addMember gid nid m t) (some m) := by
            rintro ⟨gid', g', nid', n', m', hinfo', hg', hn', -, hweight, -⟩
            have hpair := hreq.info.symm.trans hinfo'
            simp only [Except.ok.injEq, Prod.mk.injEq, List.cons.injEq, and_true] at hpair
            obtain ⟨rfl, rfl⟩ := hpair
            obtain rfl := Option.some.inj (hreq.group.symm.trans hg')
            obtain rfl := Option.some.inj (hreq.nh.symm.trans hn')
            have hsamelist : ((addMember gid nid m t).group g).nh_list = (s.group g).nh_list :=
              hsame.nh_list g
            rw [hsamelist] at hweight
            omega
          simp [hins, hlist, hno]
        · have hno : ¬ SameMembership s (nextHopMapInsert env gid nid m t).2 := by
            intro h
            have hmap := congrFun h.sai_map (memberListKey gid)
            rw [hins, ← hsame.sai_map] at hmap
            simp only [MultiMap.insert_self, MultiMap.values] at hmap
            have hlen := congrArg (fun o => (o.getD []).length) hmap
            simp at hlen
          rw [hins] at hno
          simp [hins, hlist, hno]
        · simp [hins, hlist, hsame]
    · -- not linked, refused, and the reference counts taken back all the same
      obtain ⟨hgroup, hnh⟩ := not_has_of_not_linkable hs.toLinkLists hlink
      have hiff := sameMembership_dropLink_iff hcore hgroup hnh
      rw [if_neg hlink, if_neg hnpu]
      simp [hadd, hnpu, hiff]
  · -- a request that is not accepted does nothing
    obtain ⟨rc, hrc, hrej⟩ := nextHopGroupMemberCreate_rejected hreq
    have hclean : MemberCreateClean env attr_list s := fun gid g nid n h =>
      absurd ⟨gid, g, nid, n, h⟩ hreq
    have hsame := SameMembership.of_core (s := s) rfl
    unfold MemberCreateAtomic
    simp [hrej, hrc, hclean, hsame]

/-! ## One group and one next hop -/

def oneNhOneGroup : Fib :=
  { Fib.init 4 with
    nhs := Heap.empty.alloc { Nh.zero with next_hop_id := ⟨.nextHop, 1⟩, owner_flag := ⟨true, false⟩ }
    groups := Heap.empty.alloc { Group.zero with group_id := ⟨.nextHopGroup, 1⟩ }
    nh_id_tree := fun id => if id = ⟨.nextHop, 1⟩ then some 1 else none
    nh_group_tree := fun id => if id = ⟨.nextHopGroup, 1⟩ then some 1 else none }

def oneMemberAttrs : List MemberAttr :=
  [.nextHopGroupId ⟨.nextHopGroup, 1⟩, .nextHopId ⟨.nextHop, 1⟩]

def noMemberId : Env :=
  { Env.good 1 with member_id_gen := ⟨fun _ => none, by simp⟩ }

theorem linksOk_oneNhOneGroup : LinksOk oneNhOneGroup := by
  have hgroup : ∀ g, oneNhOneGroup.group g =
      if g = 1 then { Group.zero with group_id := ⟨.nextHopGroup, 1⟩ } else Group.zero := by
    intro g
    show ((if g = 1 then some _ else none : Option Group)).getD Group.zero = _
    split <;> rfl
  have hnh : ∀ n, (oneNhOneGroup.nh n).nh_group_list = [] := by
    intro n
    show (((if n = 1 then some _ else none : Option Nh)).getD Nh.zero).nh_group_list = _
    split <;> rfl
  have hlist : ∀ g, (oneNhOneGroup.group g).nh_list = [] := by
    intro g
    rw [hgroup]
    split <;> rfl
  refine ⟨⟨fun g => ?_, fun n => ?_, fun g n => ?_⟩, fun g => ?_, fun id g hg => ?_,
    fun id n hn => ?_⟩
  · rw [hlist]
    exact WList.wf_nil
  · rw [hnh]
    exact WList.wf_nil
  · rw [hlist, hnh]
    rfl
  · rw [hlist, hgroup]
    split <;> rfl
  · change (if id = _ then some 1 else none) = some g at hg
    split at hg
    next hid =>
      cases hg
      exact ⟨rfl, hid.symm⟩
    · simp at hg
  · change (if id = _ then some 1 else none) = some n at hn
    split at hn
    next hid =>
      cases hn
      exact ⟨rfl, hid.symm⟩
    · simp at hn

/-- Without a member id the call fails, and the next hop stays in the group. -/
theorem memberCreate_not_atomic :
    ¬ MemberCreateAtomic noMemberId oneMemberAttrs oneNhOneGroup := by
  intro h
  have hcount := (h.1 (by decide)).nh_count 1
  revert hcount
  decide

theorem memberCreateAtomic_iff_oneMember :
    MemberCreateAtomic noMemberId oneMemberAttrs oneNhOneGroup ↔
      MemberCreateClean noMemberId oneMemberAttrs oneNhOneGroup :=
  memberCreateAtomic_iff linksOk_oneNhOneGroup _ _

end OpxSai
