import OpxSai.Routing.MemberCreate
import OpxSai.Routing.System

/-!
# Routing — group membership over whole runs

`Registry` says what membership is for: which member ids are in use, and for which
group and next hop each stands. `GroupRep s M` says that the state `s` shows the
registry `M` from all its sides: the weights of the links, the counts and the map.

* `groupRep_of_run`, `groupMembership_of_run` — every run from a state without
  groups ends in a state in which all sides agree.
-/

namespace OpxSai

open Fib

variable {s t : Fib} {gid m nid : Oid} {g : Ptr} {x : Option Group} {gid' id : Oid} {n : Ptr}
variable {env : Env} {attr_list : List GroupAttr}

/-! ## The registry -/

/-- The member ids in use, in the order of their creation, each with its group and next hop. -/
abbrev Registry := List (Oid × (Oid × Oid))

/-- How many members of the group `gid` stand for the next hop `nid`. -/
def Registry.copies (M : Registry) (gid nid : Oid) : Nat :=
  M.countP fun e => e.2 = (gid, nid)

/-- The members of the group `gid`. -/
def Registry.members (M : Registry) (gid : Oid) : List Oid :=
  (M.filter fun e => e.2.1 = gid).map Prod.fst

variable {M : Registry}

theorem Registry.mem_members :
    m ∈ M.members gid ↔ ∃ nid, (m, (gid, nid)) ∈ M := by
  unfold Registry.members
  rw [List.mem_map]
  constructor
  · rintro ⟨⟨m', gid', nid⟩, he, rfl⟩
    obtain ⟨hmem, hgid⟩ := List.mem_filter.mp he
    have heq : gid' = gid := by simpa using hgid
    exact ⟨nid, heq ▸ hmem⟩
  · rintro ⟨nid, he⟩
    exact ⟨_, List.mem_filter.mpr ⟨he, by simp⟩, rfl⟩

theorem Registry.nodup_members (hM : Tree.Keyed M) (gid) :
    (M.members gid).Nodup :=
  hM.sublist (List.filter_sublist.map Prod.fst)

theorem Registry.members_insert (M : Registry) (m gid nid gid' : Oid) :
    Registry.members (Tree.insert M m (gid, nid)) gid' =
      if gid' = gid then M.members gid' ++ [m] else M.members gid' := by
  unfold Registry.members Tree.insert
  rw [List.filter_append, List.map_append]
  by_cases h : gid' = gid
  · simp [h]
  · have hne : ¬ gid = gid' := fun heq => h heq.symm
    simp [h, hne]

theorem Registry.members_erase (M : Registry) (m gid : Oid) :
    Registry.members (Tree.erase M m) gid = (M.members gid).filter fun i => i ≠ m := by
  unfold Registry.members Tree.erase
  rw [List.filter_map, List.filter_filter, List.filter_filter]
  congr 1
  refine List.filter_congr fun e _ => ?_
  simp [Bool.and_comm]

theorem Registry.copies_insert (M : Registry) (m gid nid gid' nid' : Oid) :
    Registry.copies (Tree.insert M m (gid, nid)) gid' nid' =
      M.copies gid' nid' + if gid' = gid ∧ nid' = nid then 1 else 0 := by
  unfold Registry.copies Tree.insert
  rw [List.countP_append]
  by_cases h : gid' = gid ∧ nid' = nid
  · simp [h]
  have hne : ¬ (gid = gid' ∧ nid = nid') := fun heq => h ⟨heq.1.symm, heq.2.symm⟩
  rw [if_neg h]
  simp [hne]

theorem Registry.copies_erase (hM : Tree.Keyed M) (h : Tree.find M m = some (gid, nid)) {nid'} :
    M.copies gid' nid' =
      Registry.copies (Tree.erase M m) gid' nid' + if gid' = gid ∧ nid' = nid then 1 else 0 := by
  have hcount := Tree.countP_erase hM (Tree.mem_of_find h) fun p => decide (p = (gid', nid'))
  unfold Registry.copies
  refine hcount.trans ?_
  congr 1
  by_cases h : gid' = gid ∧ nid' = nid
  · simp [h]
  have hne : ¬ (gid = gid' ∧ nid = nid') := fun heq => h ⟨heq.1.symm, heq.2.symm⟩
  rw [if_neg h]
  simp [hne]

theorem Registry.copies_pos :
    0 < M.copies gid nid ↔ ∃ m, (m, (gid, nid)) ∈ M := by
  unfold Registry.copies
  rw [List.countP_pos_iff]
  constructor
  · rintro ⟨e, he, heq⟩
    obtain ⟨m, p⟩ := e
    obtain rfl : p = (gid, nid) := by simpa using heq
    exact ⟨m, he⟩
  · rintro ⟨m, he⟩
    exact ⟨_, he, by simp⟩

/-! ## The map shows the registry -/

/-- The map entry of a list of member ids: a group without members has no entry. -/
def memberListEntry (l : List Oid) : Option (List MapData) :=
  if l = [] then none else some (l.map fun m => ⟨m, .null⟩)

structure MemberMap (s : Fib) (M : Registry) : Prop where
  keyed : Tree.Keyed M
  list : ∀ gid, s.sai_map (memberListKey gid) = memberListEntry (M.members gid)
  info : ∀ m, s.sai_map (memberInfoKey m) = (Tree.find M m).map fun p => [⟨p.1, p.2⟩]

theorem getD_memberListEntry (l) :
    (memberListEntry l).getD [] = l.map fun m => (⟨m, .null⟩ : MapData) := by
  unfold memberListEntry
  split
  next hl =>
    rw [hl]
    rfl
  · rfl

theorem memberListKey_inj : memberListKey gid = memberListKey gid' ↔ gid = gid' := by
  simp [memberListKey]

theorem memberInfoKey_inj {m'} : memberInfoKey m = memberInfoKey m' ↔ m = m' := by
  simp [memberInfoKey]

theorem memberListKey_ne_info {gid m} : memberListKey gid ≠ memberInfoKey m := by
  simp [memberListKey, memberInfoKey]

theorem MemberMap.ids (h : MemberMap s M) (m) :
    nextHopMapGetIdsFromMemberId m s = Tree.find M m := by
  unfold nextHopMapGetIdsFromMemberId
  rw [h.info]
  cases Tree.find M m <;> rfl

theorem MemberMap.of_map (hmap : t.sai_map = s.sai_map) (h : MemberMap s M) : MemberMap t M:= by
  refine ⟨h.keyed, fun gid => ?_, fun m => ?_⟩
  · rw [hmap]
    exact h.list gid
  · rw [hmap]
    exact h.info m

theorem MemberMap.insert (h : MemberMap s M) (hm : Tree.find M m = none) (gid nid : Oid) :
    MemberMap (addMember gid nid m s) (Tree.insert M m (gid, nid)) := by
  refine ⟨h.keyed.insert _ hm, fun gid' => ?_, fun m' => ?_⟩
  · unfold addMember
    simp only
    rw [MultiMap.insert_of_ne _ _ memberListKey_ne_info, MultiMap.insert_apply,
      Registry.members_insert]
    by_cases hgid : gid' = gid
    · subst hgid
      unfold MultiMap.values
      rw [if_pos rfl, if_pos rfl, h.list, getD_memberListEntry]
      simp [memberListEntry]
    · rw [if_neg (by simpa [memberListKey_inj] using hgid), if_neg hgid, h.list]
  · unfold addMember
    simp only
    rw [MultiMap.insert_apply, Tree.find_insert hm]
    by_cases hm' : m' = m
    · subst hm'
      rw [if_pos rfl, if_pos rfl, MultiMap.values_insert,
        if_neg memberListKey_ne_info.symm]
      unfold MultiMap.values
      rw [h.info, hm]
      rfl
    · rw [if_neg (by simpa [memberInfoKey_inj] using hm'), if_neg hm',
        MultiMap.insert_of_ne _ _ memberListKey_ne_info.symm, h.info]

theorem memberListEntry_erase (m) (l) :
    memberListEntry (l.filter fun i => i ≠ m) =
      if (memberListEntry l).map (List.filter fun d => !decide (d.val1 = m)) = some [] then none
      else (memberListEntry l).map (List.filter fun d => !decide (d.val1 = m)) := by
  have hfilter : (l.map fun i => (⟨i, .null⟩ : MapData)).filter (fun d => !decide (d.val1 = m)) =
      (l.filter fun i => i ≠ m).map fun i => (⟨i, .null⟩ : MapData) := by
    rw [List.filter_map]
    congr 1
    refine List.filter_congr fun i _ => ?_
    simp
  unfold memberListEntry
  by_cases hl : l = []
  · simp [hl]
  rw [if_neg hl, Option.map_some, hfilter]
  by_cases hnil : (l.filter fun i => i ≠ m) = []
  · rw [if_pos hnil, hnil]
    simp
  · rw [if_neg hnil, if_neg (by simpa using hnil)]

theorem MemberMap.remove (h : MemberMap s M) (hm : Tree.find M m = some (gid, nid)) :
    MemberMap (nextHopMapRemove gid m s) (Tree.erase M m) := by
  -- the map after the elements are gone, at the key of any group
  have hdel : ∀ gid', (nextHopMapRemove gid m s).sai_map (memberListKey gid') =
      if gid' = gid then memberListEntry ((M.members gid).filter fun i => i ≠ m)
      else s.sai_map (memberListKey gid') := by
    intro gid'
    have hself : (s.sai_map.deleteElements (memberListKey gid) fun d => d.val1 = m)
        (memberListKey gid) =
        (memberListEntry (M.members gid)).map (List.filter fun d => !decide (d.val1 = m)) := by
      unfold MultiMap.deleteElements
      rw [if_pos rfl, h.list]
    unfold nextHopMapRemove
    simp only
    rw [MultiMap.delete_of_ne _ memberListKey_ne_info, hself, memberListEntry_erase]
    by_cases hgid : gid' = gid
    · subst hgid
      rw [if_pos rfl]
      split
      · rw [MultiMap.delete_apply, if_pos rfl]
      · exact hself
    have hne : memberListKey gid' ≠ memberListKey gid := by
      simpa [memberListKey_inj] using hgid
    rw [if_neg hgid]
    split
    · rw [MultiMap.delete_of_ne _ hne, MultiMap.deleteElements_of_ne _ _ hne]
    · rw [MultiMap.deleteElements_of_ne _ _ hne]
  refine ⟨h.keyed.erase m, fun gid' => ?_, fun m' => ?_⟩
  · rw [hdel, Registry.members_erase]
    by_cases hgid : gid' = gid
    · rw [if_pos hgid, hgid]
    -- the id is not among the members of another group
    have hnot : ∀ i ∈ M.members gid', i ≠ m := by
      rintro i hi rfl
      obtain ⟨nid', he⟩ := Registry.mem_members.mp hi
      have heq := h.keyed.eq_of_key he (Tree.mem_of_find hm)
      exact hgid (congrArg Prod.fst heq)
    have hfilter : ((M.members gid').filter fun i => i ≠ m) = M.members gid' :=
      List.filter_eq_self.mpr fun i hi => by simpa using hnot i hi
    rw [if_neg hgid, hfilter, h.list]
  · unfold nextHopMapRemove
    simp only
    rw [Tree.find_erase, MultiMap.delete_apply]
    by_cases hm' : m' = m
    · rw [if_pos (by rw [hm']), if_pos hm']
      rfl
    have hne : memberInfoKey m' ≠ memberListKey gid := memberListKey_ne_info.symm
    rw [if_neg (by simpa [memberInfoKey_inj] using hm'), if_neg hm']
    split
    · rw [MultiMap.delete_of_ne _ hne, MultiMap.deleteElements_of_ne _ _ hne, h.info]
    · rw [MultiMap.deleteElements_of_ne _ _ hne, h.info]

theorem MemberMap.getMemberList (h : MemberMap s M) (gid) (count : Nat) :
    nextHopGetMemberList count gid s =
      if M.members gid = [] then .error .itemNotFound
      else if count < (M.members gid).length then .error .bufferOverflow
      else .ok (M.members gid) := by
  unfold nextHopGetMemberList
  rw [h.list]
  unfold memberListEntry
  by_cases hnil : M.members gid = []
  · rw [if_pos hnil, if_pos hnil]
  · rw [if_neg hnil, if_neg hnil]
    simp [Function.comp_def]

/-! ## The state shows the registry -/

/-- The links, the counts and the map of `s` are those of the registry `M`. -/
structure GroupRep (s : Fib) (M : Registry) : Prop extends LinksOk s, MemberMap s M where
  types : ∀ e ∈ M, e.2.1.type = .nextHopGroup ∧ e.2.2.type = .nextHop
  registered : ∀ e ∈ M, (∃ g, s.nh_group_tree e.2.1 = some g) ∧
    ∃ n, s.nh_id_tree e.2.2 = some n
  weight : ∀ gid g nid n, s.nh_group_tree gid = some g → s.nh_id_tree nid = some n →
    WList.weight (s.group g).nh_list n = M.copies gid nid
  linked : ∀ g n, 0 < WList.weight (s.group g).nh_list n →
    (∃ gid, s.nh_group_tree gid = some g) ∧ ∃ nid, s.nh_id_tree nid = some n
  refs : ∀ g, (s.group g).nh_count ≤ (s.group g).ref_count

theorem GroupRep.of_core (hcore : t.core = s.core) (h : GroupRep s M) : GroupRep t M:= by
  have hsame := SameMembership.of_core hcore
  have hgt := nh_group_tree_of_core hcore
  have hnt := nh_id_tree_of_core hcore
  refine ⟨h.toLinksOk.of_core hcore.symm, h.toMemberMap.of_map hsame.sai_map, h.types, ?_, ?_, ?_, ?_⟩
  · rw [hgt, hnt]
    exact h.registered
  · intro gid g nid n hg hn
    rw [hgt] at hg
    rw [hnt] at hn
    rw [hsame.nh_list]
    exact h.weight gid g nid n hg hn
  · intro g n hpos
    rw [hsame.nh_list] at hpos
    rw [hgt, hnt]
    exact h.linked g n hpos
  · intro g
    rw [hsame.nh_count, hsame.group_ref]
    exact h.refs g

theorem GroupRep.no_member (h : GroupRep s M)
    (hg : s.nh_group_tree gid = some g) (hnil : (s.group g).nh_list = []) :
    ∀ e ∈ M, e.2.1 ≠ gid := by
  rintro ⟨m, gid', nid⟩ he rfl
  obtain ⟨-, n, hn⟩ := h.registered _ he
  have hweight := h.weight _ _ _ _ hg hn
  have hpos : 0 < M.copies gid' nid := Registry.copies_pos.mpr ⟨m, he⟩
  rw [hnil] at hweight
  simp only [WList.weight] at hweight
  omega

theorem LinksOk.of_same (h : LinksOk s) (hsame : SameMembership s t)
    (hnhs : t.nhs = s.nhs) (hids : t.nh_id_tree = s.nh_id_tree)
    (hlive : ∀ id g, t.nh_group_tree id = some g → t.GroupLive g ∧ (t.group g).group_id = id) :
    LinksOk t := by
  refine ⟨⟨fun g => ?_, fun n => ?_, fun g n => ?_⟩, fun g => ?_, hlive, fun id n hn => ?_⟩
  · rw [hsame.nh_list]
    exact h.group_wf g
  · rw [hsame.nh_group_list]
    exact h.nh_wf n
  · rw [hsame.nh_list, hsame.nh_group_list]
    exact h.sym g n
  · rw [hsame.nh_count, hsame.nh_list]
    exact h.count g
  · rw [hids] at hn
    unfold NhLive Fib.nh
    rw [hnhs]
    exact h.nhs id n hn

theorem GroupRep.of_same (h : GroupRep s M)
    (hsame : SameMembership s t) (hnhs : t.nhs = s.nhs) (hids : t.nh_id_tree = s.nh_id_tree)
    (hlive : ∀ id g, t.nh_group_tree id = some g → t.GroupLive g ∧ (t.group g).group_id = id)
    (hnew : ∀ id g, t.nh_group_tree id = some g → s.nh_group_tree id = some g ∨
      (s.nh_group_tree id = none ∧ (s.group g).nh_list = []))
    (hold : ∀ id g, s.nh_group_tree id = some g → t.nh_group_tree id = some g ∨ (s.group g).nh_list = []) :
    GroupRep t M := by
  refine ⟨h.toLinksOk.of_same hsame hnhs hids hlive, h.toMemberMap.of_map hsame.sai_map,
    h.types, fun e he => ⟨?_, ?_⟩, ?_, ?_, fun g => ?_⟩
  · obtain ⟨⟨g, hg⟩, -⟩ := h.registered e he
    rcases hold _ g hg with hkept | hnil
    · exact ⟨g, hkept⟩
    · exact absurd rfl (h.no_member hg hnil e he)
  · rw [hids]
    exact (h.registered e he).2
  · intro gid g nid n hg hn
    rw [hids] at hn
    rw [hsame.nh_list]
    rcases hnew gid g hg with hg | ⟨hnone, hnil⟩
    · exact h.weight gid g nid n hg hn
    -- a new group: no link, and no member under an id that was not there
    have hzero : ¬ 0 < M.copies gid nid := by
      intro hpos
      obtain ⟨m, he⟩ := Registry.copies_pos.mp hpos
      obtain ⟨⟨g', hg'⟩, -⟩ := h.registered _ he
      rw [hnone] at hg'
      simp at hg'
    rw [hnil]
    simp only [WList.weight]
    omega
  · intro g n hpos
    rw [hsame.nh_list] at hpos
    obtain ⟨⟨gid, hg⟩, hn⟩ := h.linked g n hpos
    rw [hids]
    refine ⟨?_, hn⟩
    rcases hold gid g hg with hkept | hnil
    · exact ⟨gid, hkept⟩
    · rw [hnil] at hpos
      simp [WList.weight] at hpos
  · rw [hsame.nh_count, hsame.group_ref]
    exact h.refs g

/-! ## Members -/

/-- One link of a group and a next hop has `up` more and `down` less, and the registry follows. -/
theorem GroupRep.relink (h : GroupRep s M) (up down : Nat) (hg : s.nh_group_tree gid = some g)
    (hn : s.nh_id_tree nid = some n) (hgt : t.nh_group_tree = s.nh_group_tree)
    (hnt : t.nh_id_tree = s.nh_id_tree) (hlinks : LinksOk t) {M'} (hmap : MemberMap t M')
    (hmem : ∀ e ∈ M', e ∈ M ∨ e.2 = (gid, nid)) (hkinds : gid.type = .nextHopGroup ∧ nid.type = .nextHop)
    (hweight : ∀ q n', WList.weight (t.group q).nh_list n' + (if q = g ∧ n' = n then down else 0) =
      WList.weight (s.group q).nh_list n' + if q = g ∧ n' = n then up else 0)
    (hcopies : ∀ gid' nid', M'.copies gid' nid' + (if gid' = gid ∧ nid' = nid then down else 0) =
      M.copies gid' nid' + if gid' = gid ∧ nid' = nid then up else 0)
    (hrefs : ∀ q, (t.group q).nh_count ≤ (t.group q).ref_count) : GroupRep t M' := by
  refine ⟨hlinks, hmap, fun e he => ?_, fun e he => ?_, fun gid' g' nid' n' hg' hn' => ?_,
    fun g' n' hpos => ?_, hrefs⟩
  · rcases hmem e he with he | heq
    · exact h.types e he
    · rw [heq]
      exact hkinds
  · rw [hgt, hnt]
    rcases hmem e he with he | heq
    · exact h.registered e he
    · rw [heq]
      exact ⟨⟨g, hg⟩, n, hn⟩
  · rw [hgt] at hg'
    rw [hnt] at hn'
    have hold := h.weight _ g' _ n' hg' hn'
    have hsame : (g' = g ∧ n' = n) ↔ gid' = gid ∧ nid' = nid := by
      constructor
      · rintro ⟨rfl, rfl⟩
        exact ⟨h.group_inj hg' hg, h.nh_inj hn' hn⟩
      · rintro ⟨rfl, rfl⟩
        exact ⟨Option.some.inj (hg'.symm.trans hg), Option.some.inj (hn'.symm.trans hn)⟩
    have hnew := hweight g' n'
    simp only [hsame] at hnew
    have := hcopies gid' nid'
    omega
  · rw [hgt, hnt]
    by_cases hat : g' = g ∧ n' = n
    · exact ⟨⟨gid, hat.1 ▸ hg⟩, nid, hat.2 ▸ hn⟩
    have hsame := hweight g' n'
    rw [if_neg hat, if_neg hat] at hsame
    exact h.linked g' n' (by omega)

theorem GroupRep.addMember (h : GroupRep s M) (hgid : gid.type = .nextHopGroup) (hnid : nid.type = .nextHop)
    (hg : s.nh_group_tree gid = some g) (hn : s.nh_id_tree nid = some n)
    (hm : Tree.find M m = none) (hcore : t.core = (s.addLink g n).core) :
    GroupRep (OpxSai.addMember gid nid m t) (Tree.insert M m (gid, nid)) := by
  have hglive := (h.groups gid g hg).1
  have hsame := SameMembership.of_core hcore
  have hlinks : LinksOk t := (h.toLinksOk.addLink hglive (h.nhs nid n hn).1).of_core hcore.symm
  have hmap : MemberMap t M := h.toMemberMap.of_map (hsame.sai_map.trans addLink_sai_map)
  -- the map is all that differs between t and the state with the member
  refine h.relink (t := OpxSai.addMember gid nid m t) 1 0 hg hn ((nh_group_tree_of_core hcore).trans rfl)
    ((nh_id_tree_of_core hcore).trans rfl)
    ⟨⟨hlinks.group_wf, hlinks.nh_wf, hlinks.sym⟩, hlinks.count, hlinks.groups, hlinks.nhs⟩
    (hmap.insert hm gid nid) (fun e he => ?_) ⟨hgid, hnid⟩ (fun q n' => ?_) (fun gid' nid' => ?_) fun q => ?_
  · exact (Tree.mem_insert.mp he).imp id fun heq => by rw [heq]
  · show WList.weight (t.group q).nh_list n' + _ = _
    rw [hsame.nh_list, nh_list_addLink s g n q hglive]
    by_cases hq : q = g
    · simp [hq, WList.weight_bump]
    · simp [hq]
  · simp [Registry.copies_insert]
  · have hrefs := h.refs q
    show (t.group q).nh_count ≤ (t.group q).ref_count
    rw [hsame.nh_count, hsame.group_ref, nh_count_addLink s g n q hglive,
      group_ref_count_addLink s g n q hglive]
    omega

theorem GroupRep.removeMember (h : GroupRep s M)
    (hg : s.nh_group_tree gid = some g) (hn : s.nh_id_tree nid = some n)
    (hm : Tree.find M m = some (gid, nid)) (hcore : t.core = (s.dropLink g n).core) :
    GroupRep (nextHopMapRemove gid m t) (Tree.erase M m) := by
  have hsame := SameMembership.of_core hcore
  have hlinks : LinksOk t := (h.toLinksOk.dropLink g n).of_core hcore.symm
  have hmap : MemberMap t M := h.toMemberMap.of_map (hsame.sai_map.trans (dropLink_sai_map s g n))
  have hhas : WList.has (s.group g).nh_list n = true := by
    rw [WList.has_iff_weight_pos (h.group_wf g), h.weight gid g nid n hg hn]
    exact Registry.copies_pos.mpr ⟨m, Tree.mem_of_find hm⟩
  have hpos := (WList.has_iff_weight_pos (h.group_wf g)).mp hhas
  refine h.relink (t := nextHopMapRemove gid m t) 0 1 hg hn ((nh_group_tree_of_core hcore).trans rfl)
    ((nh_id_tree_of_core hcore).trans rfl)
    ⟨⟨hlinks.group_wf, hlinks.nh_wf, hlinks.sym⟩, hlinks.count, hlinks.groups, hlinks.nhs⟩
    (hmap.remove hm) (fun e he => .inl (Tree.mem_erase.mp he).1) (h.types _ (Tree.mem_of_find hm))
    (fun q n' => ?_) (fun gid' nid' => ?_) fun q => ?_
  · show WList.weight (t.group q).nh_list n' + _ = _
    rw [hsame.nh_list, nh_list_dropLink]
    by_cases hq : q = g
    · rw [if_pos hq, WList.weight_drop (h.group_wf q), hq]
      by_cases hn' : n' = n
      · simp [hn']
        omega
      · simp [hn']
    · simp [hq]
  · simpa using (Registry.copies_erase h.keyed hm).symm
  · have hrefs := h.refs q
    show (t.group q).nh_count ≤ (t.group q).ref_count
    rw [hsame.nh_count, hsame.group_ref, nh_count_dropLink, group_ref_count_dropLink]
    by_cases hq : q = g
    · obtain rfl := hq
      rw [if_pos ⟨rfl, hhas⟩, if_pos rfl]
      omega
    · rw [if_neg fun hand => hq hand.1, if_neg hq]
      omega

/-- Nothing that a member call allocates or generates is missing. -/
structure GroupResources (env : Env) (s : Fib) : Prop where
  avail : ∀ r, env.avail r = true
  member : (generateNextHopGrpMemberId env s).isSome

/-- **Member create** puts the new member into the registry, or does nothing. -/
theorem GroupRep.memberCreate (h : GroupRep s M) (henv : GroupResources env s) (attr_list) :
    ∃ M', GroupRep (nextHopGroupMemberCreate env attr_list s).1.2 M' := by
  by_cases hreq : ∃ gid g nid n, MemberRequest env attr_list s gid g nid n
  · obtain ⟨gid, g, nid, n, hreq⟩ := hreq
    rw [nextHopGroupMemberCreate_accepted hreq]
    have hlinkable : Linkable env g 0 n s := ⟨.inr (henv.avail _), .inr (henv.avail _)⟩
    rcases nextHopAddNodes_cases env h.toLinkLists g n with
      ⟨-, -, t, hcore, hadd⟩ | ⟨-, hnpu, t, hcore, hadd⟩ | ⟨hno, -⟩ | ⟨hno, -⟩
    · have hgen : generateNextHopGrpMemberId env t = generateNextHopGrpMemberId env s :=
        (generateNextHopGrpMemberId_of_core hcore).trans rfl
      obtain ⟨m, hm⟩ := Option.isSome_iff_exists.mp henv.member
      have hunused : Tree.find M m = none := by
        have hinfo := (generateNextHopGrpMemberId_unused hm).1
        rw [h.info] at hinfo
        simpa using hinfo
      simp only [hadd, ne_eq, not_true_eq_false, if_false, hgen, hm]
      rcases nextHopMapInsert_cases env gid nid m t with
        ⟨-, -, hins⟩ | ⟨-, hinfo, -⟩ | ⟨hlist, -⟩
      · rw [hins]
        exact ⟨_, h.addMember hreq.gid_type hreq.nid_type hreq.group hreq.nh hunused hcore⟩
      · rw [henv.avail] at hinfo
        simp at hinfo
      · rw [henv.avail] at hlist
        simp at hlist
    · simp only [hadd, ne_eq, hnpu, not_false_eq_true, if_true]
      exact ⟨M, h.of_core hcore⟩
    · exact absurd hlinkable hno
    · exact absurd hlinkable hno
  · obtain ⟨rc, -, hrej⟩ := nextHopGroupMemberCreate_rejected hreq
    rw [hrej]
    exact ⟨M, h⟩

theorem GroupRep.memberRemove (h : GroupRep s M) (havail : ∀ r, env.avail r = true) (member_id) :
    ∃ M', GroupRep (nextHopGroupMemberRemove env member_id s).2 M' := by
  unfold nextHopGroupMemberRemove
  split
  · exact ⟨M, h⟩
  rw [h.ids]
  cases hm : Tree.find M member_id with
  | none => exact ⟨M, h⟩
  | some p =>
    obtain ⟨gid, nid⟩ := p
    have he := Tree.mem_of_find hm
    obtain ⟨hgid, hnid⟩ := h.types _ he
    obtain ⟨⟨g, hg⟩, n, hn⟩ := h.registered _ he
    have hhas : WList.has (s.group g).nh_list n = true := by
      rw [WList.has_iff_weight_pos (h.group_wf g), h.weight gid g nid n hg hn]
      exact Registry.copies_pos.mpr ⟨member_id, he⟩
    have hfill : nextHopFillFromNhIdList g [nid] true s = .ok [n] := by
      simp only at hnid hn
      simp [nextHopFill_one, hnid, hn, hhas]
    -- from here on only the NPU can refuse
    have hremove : nextHopRemoveFromGroup env gid [nid] s =
        andThen (s.call env (.removeNhFromGroup g [n])) fun s =>
          (.success, nhGroupRemoveFromLists env g [n] s) := by
      simp only at hgid hg
      simp [nextHopRemoveFromGroup, hgid, havail, hg, hfill]
    simp only [hremove]
    by_cases hnpu : env.status (.removeNhFromGroup g [n]) = .success
    · rw [andThen_of_success (x := s.call env _) hnpu, andThen_of_success rfl]
      refine ⟨_, h.removeMember hg hn hm ?_⟩
      show (nhGroupRemoveOne env g n _).core = _
      rw [nhGroupRemoveOne_core, core_dropLink, call_core, ← core_dropLink]
    rw [andThen_of_failure (x := s.call env _) hnpu,
      andThen_of_failure (x := s.call env _) hnpu]
    exact ⟨M, h.of_core (call_core env _ s)⟩

/-! ## Groups -/

theorem nextHopGroupInfoFill_ok {info} (h : nextHopGroupInfoFill attr_list Group.zero = .ok info) :
    info = Group.zero := by
  unfold nextHopGroupInfoFill at h
  split at h
  · simp at h
  simp only at h
  split at h
  · simp at h
  next info' hinfo =>
    cases h
    refine attrListParse_keeps (P := fun x : Group × Bool => x.1 = Group.zero)
      (fun x a x' hx ha => ?_) rfl hinfo
    cases a with
    | type s32 =>
      simp only at ha
      split at ha
      next type _ =>
        cases ha
        cases type
        show ({ x.1 with type := .ecmp } : Group) = Group.zero
        rw [hx]
      · simp at ha
    | nextHopMemberList => simp at ha
    | nextHopCount => simp at ha
    | other id => simp at ha
  · simp at h

/-- What a group create call does: at most one new group, without a link, and at most one id
for it in the tree. -/
structure GroupCreated (s t : Fib) (x : Option Group) : Prop where
  groups : ∀ q, t.groups.get q = if q = s.groups.next then x else s.groups.get q
  fresh : ∀ g, x = some g → ∃ id, g = { Group.zero with group_id := id }
  nhs : t.nhs = s.nhs
  ids : t.nh_id_tree = s.nh_id_tree
  sai_map : t.sai_map = s.sai_map
  routes : t.routes = s.routes
  vrfs : t.vrf_tree = s.vrf_tree
  rifs : t.router_interface_tree = s.router_interface_tree
  tree : t.nh_group_tree = s.nh_group_tree ∨ ∃ id, s.nh_group_tree id = none ∧
    x = some { Group.zero with group_id := id } ∧
    t.nh_group_tree = fun i => if i = id then some s.groups.next else s.nh_group_tree i

theorem nhGroupCreateFail_created {u} (status) {g}
    (hu : u.groups.get s.groups.next = some g) (hcount : g.nh_count = 0)
    (hgroups : ∀ q, q ≠ s.groups.next → u.groups.get q = s.groups.get q) (hnhs : u.nhs = s.nhs)
    (hids : u.nh_id_tree = s.nh_id_tree) (hmap : u.sai_map = s.sai_map)
    (hroutes : u.routes = s.routes) (hvrfs : u.vrf_tree = s.vrf_tree)
    (hrifs : u.router_interface_tree = s.router_interface_tree) (htree : u.nh_group_tree = s.nh_group_tree) :
    GroupCreated s (nhGroupCreateFail env status s.groups.next u).2 none := by
  have hread : (u.group s.groups.next).nh_count = 0 := by
    rw [group_of_get hu]
    exact hcount
  unfold nhGroupCreateFail
  simp only
  rw [if_neg (by simpa using hread)]
  refine ⟨fun q => ?_, by simp, hnhs, hids, hmap, hroutes, hvrfs, hrifs, .inl htree⟩
  show (u.groups.free s.groups.next).get q = _
  rw [Heap.get_free]
  split
  · rfl
  next hq => exact hgroups q hq

theorem nextHopGroupCreate_created :
    ∃ x, GroupCreated s (nextHopGroupCreate env attr_list s).1.2 x := by
  have halloc : ∀ q, q ≠ s.groups.next →
      (s.groups.alloc Group.zero).get q = s.groups.get q := fun q hq =>
    Heap.get_alloc_of_ne _ _ hq
  unfold nextHopGroupCreate
  split
  · refine ⟨none, fun q => ?_, by simp, rfl, rfl, rfl, rfl, rfl, rfl, .inl rfl⟩
    split
    next hq => rw [hq, Heap.get_next]
    · rfl
  simp only
  split
  · exact ⟨none, nhGroupCreateFail_created _ (Heap.get_alloc_next _ _) rfl halloc rfl rfl
      rfl rfl rfl rfl rfl⟩
  rename_i info hinfo
  obtain rfl := nextHopGroupInfoFill_ok hinfo
  have hfill : ((s.groups.alloc Group.zero).modify s.groups.next fun _ => Group.zero).get
      s.groups.next = some Group.zero := by
    simp
  have hother : ∀ q, q ≠ s.groups.next →
      ((s.groups.alloc Group.zero).modify s.groups.next fun _ => Group.zero).get q =
        s.groups.get q := fun q hq => by
    rw [Heap.get_modify_of_ne _ _ hq, halloc q hq]
  split
  · exact ⟨none, nhGroupCreateFail_created _ hfill rfl hother rfl rfl rfl rfl rfl rfl
      rfl⟩
  -- the node has its id; the tree takes it, or it is left behind
  have hgroups : ∀ q, (((s.groups.alloc Group.zero).modify s.groups.next fun _ =>
      Group.zero).modify s.groups.next fun g =>
        { g with group_id := uoidCreate .nextHopGroup env.hw_id }).get q =
      if q = s.groups.next then
        some { Group.zero with group_id := uoidCreate .nextHopGroup env.hw_id }
      else s.groups.get q := by
    intro q
    rw [Heap.get_modify]
    split
    next hq =>
      rw [hq, hfill]
      rfl
    next hq => exact hother q hq
  have hfresh : ∀ g, some { Group.zero with group_id := uoidCreate .nextHopGroup env.hw_id }
      = some g → ∃ id, g = { Group.zero with group_id := id } := fun g hg =>
    ⟨_, (Option.some.inj hg).symm⟩
  split
  next u hu =>
    unfold nhGroupTreeInsert at hu
    split at hu
    next hnew =>
      cases hu
      refine ⟨_, hgroups, hfresh, rfl, rfl, rfl, rfl, rfl, rfl, .inr ⟨_, ?_, rfl, rfl⟩⟩
      exact Option.isNone_iff_eq_none.mp hnew.1
    · simp at hu
  · exact ⟨_, hgroups, hfresh, rfl, rfl, rfl, rfl, rfl, rfl, .inl rfl⟩

theorem group_next (s : Fib) : s.group s.groups.next = Group.zero :=
  group_of_not_live (by simp [GroupLive])

theorem GroupCreated.sameMembership (hx : GroupCreated s t x) :
    SameMembership s t := by
  have hread : ∀ q, (t.group q).nh_list = (s.group q).nh_list ∧
      (t.group q).nh_count = (s.group q).nh_count ∧
      (t.group q).ref_count = (s.group q).ref_count := by
    intro q
    by_cases hq : q = s.groups.next
    · rw [hq, group_next]
      unfold Fib.group
      rw [hx.groups, if_pos rfl]
      cases hg : x with
      | none => exact ⟨rfl, rfl, rfl⟩
      | some g =>
        obtain ⟨id, rfl⟩ := hx.fresh g hg
        exact ⟨rfl, rfl, rfl⟩
    · unfold Fib.group
      rw [hx.groups, if_neg hq]
      exact ⟨rfl, rfl, rfl⟩
  have hnh : ∀ n, t.nh n = s.nh n := fun n => by
    unfold Fib.nh
    rw [hx.nhs]
  exact ⟨fun g => (hread g).1, fun g => (hread g).2.1, fun g => (hread g).2.2,
    fun n => by rw [hnh], fun n => by rw [hnh], hx.sai_map⟩

theorem GroupCreated.tree_cases (hx : GroupCreated s t x) (hg : t.nh_group_tree id = some g) :
    s.nh_group_tree id = some g ∨
      (s.nh_group_tree id = none ∧ g = s.groups.next ∧
        x = some { Group.zero with group_id := id }) := by
  rcases hx.tree with htree | ⟨id', hnone, hsome, htree⟩
  · rw [htree] at hg
    exact .inl hg
  rw [htree] at hg
  simp only at hg
  split at hg
  next hid =>
    subst hid
    exact .inr ⟨hnone, (Option.some.inj hg).symm, hsome⟩
  · exact .inl hg

theorem GroupCreated.live (hx : GroupCreated s t x) (h : LinksOk s) : ∀ id g, t.nh_group_tree id = some g →
      t.GroupLive g ∧ (t.group g).group_id = id := by
  intro id g hg
  rcases hx.tree_cases hg with hold | ⟨-, rfl, hsome⟩
  · -- a group in the old tree is at another address than the new one
    obtain ⟨hlive, hid⟩ := h.groups id g hold
    obtain ⟨a, ha⟩ := Option.isSome_iff_exists.mp hlive
    have hget : t.groups.get g = s.groups.get g := by
      rw [hx.groups, if_neg (Heap.ne_next_of_get ha)]
    unfold GroupLive Fib.group
    rw [hget]
    exact ⟨hlive, hid⟩
  · have hget : t.groups.get s.groups.next = some { Group.zero with group_id := id } := by
      rw [hx.groups, if_pos rfl, hsome]
    unfold GroupLive Fib.group
    rw [hget]
    exact ⟨rfl, rfl⟩

theorem GroupRep.groupCreate (h : GroupRep s M) (env : Env) (attr_list : List GroupAttr) :
    GroupRep (nextHopGroupCreate env attr_list s).1.2 M := by
  obtain ⟨x, hx⟩ := nextHopGroupCreate_created
  refine h.of_same hx.sameMembership hx.nhs hx.ids (hx.live h.toLinksOk) (fun i g hg => ?_)
    fun i g hg => .inl ?_
  · rcases hx.tree_cases hg with hold | ⟨hnone, rfl, -⟩
    · exact .inl hold
    · rw [group_next]
      exact .inr ⟨hnone, rfl⟩
  · rcases hx.tree with htree | ⟨id, hnone, -, htree⟩
    · rw [htree]
      exact hg
    rw [htree]
    simp only
    rw [if_neg]
    · exact hg
    rintro rfl
    rw [hnone] at hg
    simp at hg

theorem GroupRep.empty_of_unused (h : GroupRep s M) (hrefs : (s.group g).ref_count = 0) :
    (s.group g).nh_count = 0 ∧ (s.group g).nh_list = [] := by
  have hle := h.refs g
  have hcount : (s.group g).nh_count = 0 := by omega
  refine ⟨hcount, (WList.total_eq_zero (h.group_wf g)).mp ?_⟩
  rw [← h.count]
  exact hcount

def groupRemoved (id : Oid) (g : Ptr) (s : Fib) : Fib :=
  nhGroupNodeFree g
    { s with nh_group_tree := fun i => if i = id then none else s.nh_group_tree i }

/-- Only a group that nothing refers to is removed; then it has no next hop to unlink. -/
theorem nextHopGroupRemove_cases (hempty : ∀ g, (s.group g).ref_count = 0 → (s.group g).nh_count = 0) :
    (nextHopGroupRemove env id s).2.core = s.core ∨ ∃ g u, s.nh_group_tree id = some g ∧
      (s.group g).ref_count = 0 ∧ u.core = s.core ∧ (nextHopGroupRemove env id s).2 = groupRemoved id g u:= by
  unfold nextHopGroupRemove
  split
  · exact .inl rfl
  split
  · exact .inl rfl
  rename_i g hg
  split
  · exact .inl rfl
  rename_i hrefs
  have hzero : (s.group g).ref_count = 0 := by simpa using hrefs
  by_cases hnpu : env.status (.nhGroupRemove (s.group g)) = .success
  · rw [andThen_of_success (x := s.call env _) hnpu]
    have hread : ((s.call env (.nhGroupRemove (s.group g))).2.group g).nh_count = 0 :=
      hempty g hzero
    simp only
    rw [if_neg (by simpa using hread)]
    exact .inr ⟨g, _, hg, hzero, call_core env _ s, rfl⟩
  · rw [andThen_of_failure (x := s.call env _) hnpu]
    exact .inl (call_core env _ s)

theorem sameMembership_groupRemoved (hnil : (s.group g).nh_list = [])
    (hcount : (s.group g).nh_count = 0) (hrefs : (s.group g).ref_count = 0) (id) :
    SameMembership s (groupRemoved id g s) := by
  have hread : ∀ q, (groupRemoved id g s).group q = if q = g then Group.zero else s.group q := by
    intro q
    show ((s.groups.free g).get q).getD Group.zero = _
    rw [Heap.get_free]
    split <;> rfl
  have hfield : ∀ {γ : Type} (f : Group → γ), f (s.group g) = f Group.zero →
      ∀ q, f ((groupRemoved id g s).group q) = f (s.group q) := by
    intro γ f hf q
    rw [hread]
    split
    next hq => rw [hq, hf]
    · rfl
  exact ⟨hfield Group.nh_list hnil, hfield Group.nh_count hcount, hfield Group.ref_count hrefs,
    fun _ => rfl, fun _ => rfl, rfl⟩

theorem groupRemoved_live (h : LinksOk s) (hg : s.nh_group_tree id = some g) :
    ∀ i q, (groupRemoved id g s).nh_group_tree i = some q →
      (groupRemoved id g s).GroupLive q ∧ ((groupRemoved id g s).group q).group_id = i := by
  intro i q hq
  change (if i = id then none else s.nh_group_tree i) = some q at hq
  split at hq
  · simp at hq
  rename_i hi
  obtain ⟨hlive, hid⟩ := h.groups i q hq
  have hne : q ≠ g := by
    rintro rfl
    exact hi (h.group_inj hq hg)
  have hget : (s.groups.free g).get q = s.groups.get q := Heap.get_free_of_ne _ hne
  show ((s.groups.free g).get q).isSome ∧
    (((s.groups.free g).get q).getD Group.zero).group_id = i
  rw [hget]
  exact ⟨hlive, hid⟩

/-- **Group remove** takes a group without members, and leaves the registry as it is. -/
theorem GroupRep.groupRemove (h : GroupRep s M) (env) (nh_group_id) :
    GroupRep (nextHopGroupRemove env nh_group_id s).2 M := by
  rcases nextHopGroupRemove_cases (fun _ hrefs => (h.empty_of_unused hrefs).1) with
    hcore | ⟨g, u, hg, hrefs, hcore, heq⟩
  · exact h.of_core hcore
  · obtain ⟨hcount, hnil⟩ := h.empty_of_unused hrefs
    have hu : GroupRep u M := h.of_core hcore
    have hsame := SameMembership.of_core hcore
    have hgu : u.nh_group_tree nh_group_id = some g := by
      rw [nh_group_tree_of_core hcore]
      exact hg
    have hnil' : (u.group g).nh_list = [] := (hsame.nh_list g).trans hnil
    rw [heq]
    refine hu.of_same (sameMembership_groupRemoved hnil' ((hsame.nh_count g).trans hcount)
      ((hsame.group_ref g).trans hrefs) _) rfl rfl (groupRemoved_live hu.toLinksOk hgu)
      (fun i q hq => ?_) fun i q hq => ?_
    · change (if i = nh_group_id then none else u.nh_group_tree i) = some q at hq
      split at hq
      · simp at hq
      · exact .inl hq
    · show (if i = nh_group_id then none else u.nh_group_tree i) = some q ∨ _
      by_cases hi : i = nh_group_id
      · right
        rw [hi, hgu] at hq
        rw [← Option.some.inj hq]
        exact hnil'
      left
      rw [if_neg hi]
      exact hq

/-! ## Runs -/

structure NoGroups (s : Fib) : Prop where
  groups : ∀ g, ¬ s.GroupLive g
  tree : ∀ id, s.nh_group_tree id = none
  links : ∀ n, (s.nh n).nh_group_list = []
  nhs : ∀ id n, s.nh_id_tree id = some n → s.NhLive n ∧ (s.nh n).next_hop_id = id
  list : ∀ gid, s.sai_map (memberListKey gid) = none
  info : ∀ m, s.sai_map (memberInfoKey m) = none

theorem NoGroups.groupRep (h : NoGroups s) : GroupRep s [] := by
  have hzero : ∀ g, s.group g = Group.zero := fun g => group_of_not_live (h.groups g)
  refine ⟨⟨⟨fun g => ?_, fun n => ?_, fun g n => ?_⟩, fun g => ?_, fun id g hg => ?_, h.nhs⟩,
    ⟨List.nodup_nil, fun gid => h.list gid, fun m => h.info m⟩, by simp, by simp,
    fun gid g nid n hg _ => ?_, fun g n hpos => ?_, fun g => ?_⟩
  · rw [hzero]
    exact WList.wf_nil
  · rw [h.links]
    exact WList.wf_nil
  · rw [hzero, h.links]
    rfl
  · rw [hzero]
    rfl
  · rw [h.tree] at hg
    simp at hg
  · rw [h.tree] at hg
    simp at hg
  · rw [hzero] at hpos
    simp [Group.zero, WList.weight] at hpos
  · rw [hzero]
    exact Nat.le_refl _

/-- The calls on groups and members, in which allocation, the generation of member ids and map
insertion succeed. The NPU may refuse anything. -/
inductive GroupCall : Call → Fib → Prop where
  | groupCreate {env : Env} {attr_list : List GroupAttr} {s : Fib}
      (henv : ∀ r, env.avail r = true) : GroupCall ⟨env, .nextHopGroupCreate attr_list⟩ s
  | groupRemove {env : Env} {nh_group_id : Oid} {s : Fib}
      (henv : ∀ r, env.avail r = true) : GroupCall ⟨env, .nextHopGroupRemove nh_group_id⟩ s
  | memberCreate {env : Env} {attr_list : List MemberAttr} {s : Fib}
      (henv : GroupResources env s) : GroupCall ⟨env, .nextHopGroupMemberCreate attr_list⟩ s
  | memberRemove {env : Env} {member_id : Oid} {s : Fib}
      (henv : ∀ r, env.avail r = true) : GroupCall ⟨env, .nextHopGroupMemberRemove member_id⟩ s

/-- **The step.** Every call on groups and members leads from a registry to a registry. -/
theorem GroupRep.step {c} (hc : GroupCall c s) (h : ∃ M, GroupRep s M) :
    ∃ M, GroupRep (fibStep c s) M := by
  obtain ⟨M, h⟩ := h
  cases hc with
  | groupCreate henv => exact ⟨M, h.groupCreate _ _⟩
  | groupRemove henv => exact ⟨M, h.groupRemove _ _⟩
  | memberCreate henv => exact h.memberCreate henv _
  | memberRemove henv => exact h.memberRemove henv _

theorem groupRep_of_run (hs : NoGroups s) (hrun : FibRun GroupCall s t) :
    ∃ M, GroupRep t M :=
  hrun.induct (P := fun t => ∃ M, GroupRep t M) (fun _ _ h hc => GroupRep.step hc h)
    ⟨[], hs.groupRep⟩

/-- The member id `m` stands for the next hop `nid` in the group `gid`. -/
def IsMember (s : Fib) (gid nid m : Oid) : Prop :=
  nextHopMapGetIdsFromMemberId m s = some (gid, nid)

/-- Membership is one weighted relation: the links from both sides, the counts, the member ids
and the member lists all say the same. -/
structure GroupMembership (s : Fib) : Prop where
  group_links : ∀ g, WList.Wf (s.group g).nh_list
  nh_links : ∀ n, WList.Wf (s.nh n).nh_group_list
  weight : ∀ g n, WList.weight (s.group g).nh_list n = WList.weight (s.nh n).nh_group_list g
  members : ∀ gid g nid n, s.nh_group_tree gid = some g → s.nh_id_tree nid = some n →
    WList.weight (s.group g).nh_list n = Set.ncard {m | IsMember s gid nid m}
  linked : ∀ g n, 0 < WList.weight (s.group g).nh_list n →
    (∃ gid, s.nh_group_tree gid = some g) ∧ ∃ nid, s.nh_id_tree nid = some n
  count : ∀ g, (s.group g).nh_count = WList.total (s.group g).nh_list
  /-- A group without members has no list; any other list has each member once. -/
  list : ∀ gid, ∃ l : List Oid, l.Nodup ∧ (∀ m, m ∈ l ↔ ∃ nid, IsMember s gid nid m) ∧
    ∀ count, nextHopGetMemberList count gid s =
      if l = [] then .error .itemNotFound
      else if count < l.length then .error .bufferOverflow
      else .ok l

theorem GroupRep.groupMembership (h : GroupRep s M) :
    GroupMembership s where
  group_links := h.group_wf
  nh_links := h.nh_wf
  weight := h.sym
  members := by
    intro gid g nid n hg hn
    have hset : {m | IsMember s gid nid m} = {m | Tree.find M m = some (gid, nid)} := by
      ext m
      unfold IsMember
      simp only [Set.mem_ofPred_eq, h.ids]
    rw [hset, Tree.ncard_find h.keyed, h.weight gid g nid n hg hn]
    rfl
  linked := h.linked
  count := h.count
  list := by
    intro gid
    refine ⟨M.members gid, Registry.nodup_members h.keyed gid, fun m => ?_, h.getMemberList gid⟩
    rw [Registry.mem_members]
    unfold IsMember
    simp only [h.ids, Tree.find_eq_some h.keyed]

def oneNh : Fib :=
  { Fib.init 4 with
    nhs := Heap.empty.alloc { Nh.zero with next_hop_id := ⟨.nextHop, 1⟩, owner_flag := ⟨true, false⟩ }
    nh_id_tree := fun id => if id = ⟨.nextHop, 1⟩ then some 1 else none }

theorem noGroups_oneNh : NoGroups oneNh := by
  refine ⟨fun g => by simp [GroupLive, oneNh, Fib.init], fun _ => rfl, fun n => ?_,
    fun id n hn => ?_, fun _ => rfl, fun _ => rfl⟩
  · show (((if n = 1 then some _ else none : Option Nh)).getD Nh.zero).nh_group_list = []
    split <;> rfl
  · change (if id = _ then some 1 else none) = some n at hn
    split at hn
    next hid =>
      cases hn
      exact ⟨rfl, hid.symm⟩
    · simp at hn

def oneNhTwice : Fib :=
  let member : Call := ⟨Env.good 1, .nextHopGroupMemberCreate oneMemberAttrs⟩
  fibStep member (fibStep member (fibStep ⟨Env.good 1, .nextHopGroupCreate [.type 0]⟩ oneNh))

example : WList.weight (oneNhTwice.group 1).nh_list 1 = 2 := by decide

end OpxSai
