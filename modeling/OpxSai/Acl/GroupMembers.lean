import OpxSai.Acl.TableGroup
import OpxSai.Lib.Run

/-!
# The members of ACL table groups

What a run of calls on groups and members leaves: the members in the tree are the live ones, each
is on the table list of its group once and on no other, and each table has the priority of the
members that name it.

* `GroupOpOk` — the condition on a call. Two things go wrong without it. A member whose table or
  group does not exist is freed and stays in the tree; and a set moves neither the link nor the
  priority of the table along with the attribute.
* `groupsConsistent_of_run` — the main result.
-/

namespace OpxSai

open AclDb

variable {x : Status × AclDb} {env : AclEnv} {db : AclDb} {mid gid : Oid} {p : Ptr}
variable {group : AclTableGroup} {attr : AclGroupAttr} {member : AclTableGroupMember}

/-! ## The property and the condition -/

/-- A member is in the tree iff it is on the list of its own group, once, and on no other. Trees
and lists hold live members. A group with members is not deleted. The table of a member has its
priority. -/
structure GroupsConsistent (db : AclDb) : Prop where
  listed : ∀ p, (∃ m, db.member_tree m = some p) ↔
    ∃ member, db.members.get p = some member ∧ (db.group_tree member.acl_group_id).isSome ∧
      ∀ g group, db.group_tree g = some group →
        group.table_list_head.count p = if g = member.acl_group_id then 1 else 0
  tree_live : ∀ m p, db.member_tree m = some p →
    ∃ member, db.members.get p = some member ∧ member.acl_table_group_member_id = m
  list_live : ∀ g group p, db.group_tree g = some group → p ∈ group.table_list_head →
    ∃ member, db.members.get p = some member ∧ member.acl_group_id = g
  in_use : ∀ m p member, db.member_tree m = some p → db.members.get p = some member →
    aclTableGroupDelete member.acl_group_id db = (.objectInUse, db)
  priority : ∀ m p member table, db.member_tree m = some p → db.members.get p = some member →
    db.table_tree member.acl_table_id = some table → table.acl_table_priority = member.priority

/-- Every live member that names the table has the priority. -/
def PriorityAgrees (table_id : Oid) (priority : BitVec 32) (db : AclDb) : Prop :=
  ∀ p member, db.members.get p = some member → member.acl_table_id = table_id →
    member.priority = priority

/-- The condition on a create that comes to the tree: the table and the group of the member exist,
and the members that name the table already have its priority. -/
def MemberCreateOk (env : AclEnv) (attr_list : List AclMemberAttr) (db : AclDb) : Prop :=
  let x := aclTableGroupMemberAttrsSet 0 attr_list .zero
  env.avail .memberNode = true → env.validate_member .create attr_list = .success →
    x.1 = .success → env.avail .memberTree = true →
    (db.table_tree x.2.acl_table_id).isSome ∧ (db.group_tree x.2.acl_group_id).isSome ∧
      PriorityAgrees x.2.acl_table_id x.2.priority db

/-- The condition on a set that is accepted: the group stays what it is, and the table of the
member has its priority afterwards. -/
def MemberSetOk (env : AclEnv) (member_id : Oid) (attr : AclMemberAttr) (db : AclDb) : Prop :=
  env.validate_member .set [attr] = .success → ∀ p member,
    memberFind member_id db = some (p, member) →
    match attr with
    | .tableGroupId oid => oid = member.acl_group_id
    | .tableId oid => ∀ table, db.table_tree oid = some table →
        table.acl_table_priority = member.priority
    | .priority u32 => ∀ table, db.table_tree member.acl_table_id = some table →
        table.acl_table_priority = u32
    | .other _ => True

/-- The calls that keep groups and members consistent. -/
def GroupOpOk (c : AclGroupOpCall) (db : AclDb) : Prop :=
  match c.op with
  | .memberCreate attr_list => MemberCreateOk c.env attr_list db
  | .memberSet mid attr => MemberSetOk c.env mid attr db
  | _ => True

/-- No group and no member yet; there may be tables. -/
structure GroupsEmpty (db : AclDb) : Prop where
  group_tree : ∀ g, db.group_tree g = none
  members : ∀ p, db.members.get p = none
  member_tree : ∀ m, db.member_tree m = none

/-! ## The invariant -/

structure GroupsOk (db : AclDb) : Prop where
  live : ∀ p member, db.members.get p = some member →
    db.member_tree member.acl_table_group_member_id = some p
  tree : ∀ m p, db.member_tree m = some p →
    ∃ member, db.members.get p = some member ∧ member.acl_table_group_member_id = m
  listed : ∀ g group p, db.group_tree g = some group → (p ∈ group.table_list_head ↔
    ∃ member, db.members.get p = some member ∧ member.acl_group_id = g)
  nodup : ∀ g group, db.group_tree g = some group → group.table_list_head.Nodup
  grouped : ∀ p member, db.members.get p = some member →
    (db.group_tree member.acl_group_id).isSome
  priority : ∀ p member table, db.members.get p = some member →
    db.table_tree member.acl_table_id = some table → table.acl_table_priority = member.priority

theorem GroupsOk.consistent (h : GroupsOk db) : GroupsConsistent db := by
  have hcount : ∀ p member g group, db.members.get p = some member →
      db.group_tree g = some group →
      group.table_list_head.count p = if g = member.acl_group_id then 1 else 0 := by
    intro p member g group hp hg
    split
    next heq =>
      have hin : p ∈ group.table_list_head := (h.listed g _ p hg).mpr ⟨member, hp, heq.symm⟩
      exact List.count_eq_one_of_mem (h.nodup g _ hg) hin
    rename_i hne
    refine List.count_eq_zero_of_not_mem fun hin => ?_
    obtain ⟨other, hother, hgroup⟩ := (h.listed g _ p hg).mp hin
    rw [hp] at hother
    cases hother
    exact hne hgroup.symm
  refine ⟨fun p => ⟨?_, ?_⟩, h.tree, ?_, ?_, fun m p member table _ => h.priority p _ _⟩
  · rintro ⟨m, hm⟩
    obtain ⟨member, hp, -⟩ := h.tree m p hm
    exact ⟨member, hp, h.grouped p _ hp, fun g group => hcount p member g group hp⟩
  · rintro ⟨member, hp, -, -⟩
    exact ⟨_, h.live p _ hp⟩
  · intro g group p hg hin
    exact (h.listed g _ p hg).mp hin
  · intro m p member _ hp
    obtain ⟨group, hg⟩ := Option.isSome_iff_exists.mp (h.grouped p _ hp)
    have hin : p ∈ group.table_list_head := (h.listed _ _ p hg).mpr ⟨member, hp, rfl⟩
    have hne : group.table_list_head ≠ [] := List.ne_nil_of_mem hin
    unfold aclTableGroupDelete
    rw [hg]
    dsimp only
    rw [if_pos hne]

theorem memberFind_some (h : memberFind mid db = some (p, member)) :
    db.member_tree mid = some p ∧ db.members.get p = some member := by
  unfold memberFind at h
  split at h
  · cases h
  rename_i q hq
  obtain ⟨other, hget, heq⟩ := Option.map_eq_some_iff.mp h
  cases heq
  exact ⟨hq, hget⟩

/-- The link goes onto the list of a group that there is, whatever else was written before. -/
theorem aclTableGroupTableIdUpdate_of_isSome {db'}
    {is_add : Bool} (hg : (db.group_tree gid).isSome) (hsame : db'.group_tree = db.group_tree) :
    aclTableGroupTableIdUpdate env gid p is_add db' =
      (.success, db'.modGroup gid fun group => { group with
        table_list_head := if is_add then group.table_list_head ++ [p]
          else aclDllRemove env p group.table_list_head }) := by
  obtain ⟨group, hgroup⟩ := Option.isSome_iff_exists.mp hg
  unfold aclTableGroupTableIdUpdate
  rw [hsame, hgroup]

namespace GroupsOk

theorem empty (h : GroupsEmpty db) : GroupsOk db := by
  refine ⟨?_, ?_, ?_, ?_, ?_, ?_⟩
  · intro p member hp
    rw [h.members] at hp
    cases hp
  · intro m p hm
    rw [h.member_tree] at hm
    cases hm
  · intro g group p hg
    rw [h.group_tree] at hg
    cases hg
  · intro g group hg
    rw [h.group_tree] at hg
    cases hg
  · intro p member hp
    rw [h.members] at hp
    cases hp
  · intro p member table hp
    rw [h.members] at hp
    cases hp

/-- The invariant looks at the live members and not at the break of the heap. -/
theorem of_get (h : GroupsOk db) (members : Heap AclTableGroupMember)
    (hget : ∀ p, members.get p = db.members.get p) : GroupsOk { db with members := members } := by
  refine ⟨?_, ?_, ?_, h.nodup, ?_, ?_⟩
  · intro p member hp
    exact h.live p _ ((hget p).symm.trans hp)
  · intro m p hm
    obtain ⟨member, hp, hid⟩ := h.tree m p hm
    exact ⟨member, (hget p).trans hp, hid⟩
  · intro g group p hg
    show _ ↔ ∃ member, members.get p = some member ∧ _
    rw [hget]
    exact h.listed g _ p hg
  · intro p member hp
    exact h.grouped p _ ((hget p).symm.trans hp)
  · intro p member table hp
    exact h.priority p _ _ ((hget p).symm.trans hp)

theorem addGroup (h : GroupsOk db) (hnew : db.group_tree gid = none)
    (group) (hempty : group.table_list_head = []) :
    GroupsOk { db with
      group_tree := fun g => if g = gid then some group else db.group_tree g } := by
  have hno : ∀ p member, db.members.get p = some member → member.acl_group_id ≠ gid := by
    intro p member hp heq
    have hsome := h.grouped p _ hp
    rw [heq, hnew] at hsome
    cases hsome
  have hcase : ∀ g grp, (if g = gid then some group else db.group_tree g) = some grp →
      (g = gid ∧ grp = group) ∨ db.group_tree g = some grp := by
    intro g grp hg
    by_cases heq : g = gid
    · rw [if_pos heq] at hg
      exact .inl ⟨heq, (Option.some.inj hg).symm⟩
    · rw [if_neg heq] at hg
      exact .inr hg
  refine ⟨h.live, h.tree, ?_, ?_, ?_, h.priority⟩
  · intro g grp p hg
    rcases hcase g grp hg with ⟨rfl, rfl⟩ | hg
    · rw [hempty]
      refine iff_of_false List.not_mem_nil ?_
      rintro ⟨member, hp, hgroup⟩
      exact hno p member hp hgroup
    · exact h.listed g grp p hg
  · intro g grp hg
    rcases hcase g grp hg with ⟨rfl, rfl⟩ | hg
    · rw [hempty]
      exact List.nodup_nil
    · exact h.nodup g grp hg
  · intro p member hp
    show (if member.acl_group_id = gid then _ else _ : Option AclTableGroup).isSome
    rw [if_neg (hno p member hp)]
    exact h.grouped p _ hp

theorem removeGroup (h : GroupsOk db)
    (hg : db.group_tree gid = some group) (hempty : group.table_list_head = []) :
    GroupsOk { db with group_tree := fun g => if g = gid then none else db.group_tree g } := by
  have hold : ∀ g grp, (if g = gid then none else db.group_tree g) = some grp →
      db.group_tree g = some grp := by
    intro g grp hgrp
    by_cases heq : g = gid
    · rw [if_pos heq] at hgrp
      cases hgrp
    · rwa [if_neg heq] at hgrp
  refine ⟨h.live, h.tree, ?_, ?_, ?_, h.priority⟩
  · intro g grp p hgrp
    exact h.listed g grp p (hold g grp hgrp)
  · intro g grp hgrp
    exact h.nodup g grp (hold g grp hgrp)
  · intro p member hp
    by_cases heq : member.acl_group_id = gid
    · have hin := (h.listed gid _ p hg).mpr ⟨member, hp, heq⟩
      rw [hempty] at hin
      exact absurd hin List.not_mem_nil
    show (if member.acl_group_id = gid then _ else _ : Option AclTableGroup).isSome
    rw [if_neg heq]
    exact h.grouped p _ hp

theorem modGroup_some {f : AclTableGroup → AclTableGroup} {g} {grp} :
    (db.modGroup gid f).group_tree g = some grp ↔
      ∃ old, db.group_tree g = some old ∧ grp = if g = gid then f old else old := by
  show (if g = gid then (db.group_tree g).map f else db.group_tree g) = some grp ↔ _
  by_cases heq : g = gid
  · simp only [if_pos heq, Option.map_eq_some_iff]
    exact exists_congr fun old => and_congr_right fun _ => eq_comm
  · rw [if_neg heq]
    simp [if_neg heq]

theorem modGroup_isSome (gid) (f : AclTableGroup → AclTableGroup) (g) :
    ((db.modGroup gid f).group_tree g).isSome = (db.group_tree g).isSome := by
  show (if g = gid then (db.group_tree g).map f else db.group_tree g).isSome = _
  split
  · rw [Option.isSome_map]
  · rfl

theorem modGroup (h : GroupsOk db) {gid} (f : AclTableGroup → AclTableGroup)
    (hf : ∀ group, db.group_tree gid = some group →
      (f group).table_list_head = group.table_list_head) : GroupsOk (db.modGroup gid f) := by
  have hold : ∀ g grp, (db.modGroup gid f).group_tree g = some grp →
      ∃ old, db.group_tree g = some old ∧ grp.table_list_head = old.table_list_head := by
    intro g grp hgrp
    obtain ⟨old, hold, rfl⟩ := modGroup_some.mp hgrp
    refine ⟨old, hold, ?_⟩
    split
    next heq =>
      subst heq
      exact hf old hold
    · rfl
  refine ⟨h.live, h.tree, ?_, ?_, ?_, h.priority⟩
  · intro g grp p hgrp
    obtain ⟨old, hgrp', hlist⟩ := hold g grp hgrp
    rw [hlist]
    exact h.listed g old p hgrp'
  · intro g grp hgrp
    obtain ⟨old, hgrp', hlist⟩ := hold g grp hgrp
    rw [hlist]
    exact h.nodup g old hgrp'
  · intro p member hp
    rw [modGroup_isSome]
    exact h.grouped p _ hp

/-- **A member comes**, into the tree and onto the list of its group, and its priority goes to the
table. -/
theorem addMember (h : GroupsOk db) (hnew : db.member_tree member.acl_table_group_member_id = none)
    (hgroup : (db.group_tree member.acl_group_id).isSome)
    (hagree : PriorityAgrees member.acl_table_id member.priority db) :
    GroupsOk (({ db with
      members := db.members.alloc member
      member_tree := fun m => if m = member.acl_table_group_member_id then some db.members.next
        else db.member_tree m }.modTable member.acl_table_id fun table =>
          { table with acl_table_priority := member.priority }).modGroup member.acl_group_id
            fun group => { group with table_list_head := group.table_list_head ++
              [db.members.next] }) := by
  -- the new address is on no list and in no tree
  have hfresh : ∀ g group, db.group_tree g = some group → db.members.next ∉ group.table_list_head := by
    intro g group hg hin
    obtain ⟨other, hother, -⟩ := (h.listed g _ _ hg).mp hin
    exact absurd hother (by simp)
  refine ⟨?_, ?_, ?_, ?_, ?_, ?_⟩
  · intro p other hp
    have hp' : (db.members.alloc member).get p = some other := hp
    show (if other.acl_table_group_member_id = _ then some db.members.next else _) = _
    rw [Heap.get_alloc] at hp'
    split at hp'
    next heq =>
      cases hp'
      rw [if_pos rfl, heq]
    have hin := h.live p _ hp'
    have hne : other.acl_table_group_member_id ≠ member.acl_table_group_member_id := by
      intro heq
      rw [heq, hnew] at hin
      cases hin
    rw [if_neg hne]
    exact hin
  · intro m p hm
    have hm' : (if m = member.acl_table_group_member_id then some db.members.next
      else db.member_tree m) = some p := hm
    show ∃ other, (db.members.alloc member).get p = some other ∧ _
    split at hm'
    next heq =>
      cases hm'
      exact ⟨member, Heap.get_alloc_next _ _, heq.symm⟩
    · obtain ⟨other, hp, hid⟩ := h.tree m p hm'
      exact ⟨other, Heap.get_alloc_of_get hp, hid⟩
  · intro g group p hg
    obtain ⟨old, hold, rfl⟩ := modGroup_some.mp hg
    have hold : db.group_tree g = some old := hold
    show _ ↔ ∃ other, (db.members.alloc member).get p = some other ∧ _
    rw [Heap.get_alloc]
    by_cases hp : p = db.members.next
    · subst hp
      rw [if_pos rfl]
      by_cases heq : g = member.acl_group_id
      · simp [heq]
      rw [if_neg heq]
      refine iff_of_false (hfresh g old hold) ?_
      rintro ⟨other, hother, hgroup'⟩
      cases hother
      exact heq hgroup'.symm
    · rw [if_neg hp, ← h.listed g old p hold]
      by_cases heq : g = member.acl_group_id
      · rw [if_pos heq]
        simp [hp]
      · rw [if_neg heq]
  · intro g group hg
    obtain ⟨old, hold, rfl⟩ := modGroup_some.mp hg
    have hold : db.group_tree g = some old := hold
    have hnodup := h.nodup g old hold
    split
    · refine List.Nodup.append hnodup (List.nodup_singleton _) ?_
      rw [List.disjoint_singleton]
      exact hfresh g old hold
    · exact hnodup
  · intro p other hp
    have hp' : (db.members.alloc member).get p = some other := hp
    rw [modGroup_isSome]
    show (db.group_tree other.acl_group_id).isSome
    rw [Heap.get_alloc] at hp'
    split at hp'
    · cases hp'
      exact hgroup
    · exact h.grouped p _ hp'
  · intro p other table hp htable
    have hp' : (db.members.alloc member).get p = some other := hp
    have htable' : (if other.acl_table_id = member.acl_table_id then
      (db.table_tree other.acl_table_id).map fun table =>
        { table with acl_table_priority := member.priority }
      else db.table_tree other.acl_table_id) = some table := htable
    -- whoever names the table has the priority that it gets
    have hsame : other.acl_table_id = member.acl_table_id → other.priority = member.priority := by
      intro heq
      rw [Heap.get_alloc] at hp'
      split at hp'
      · cases hp'
        rfl
      · exact hagree p other hp' heq
    split at htable'
    next heq =>
      obtain ⟨old, -, rfl⟩ := Option.map_eq_some_iff.mp htable'
      exact (hsame heq).symm
    rename_i hne
    rw [Heap.get_alloc] at hp'
    split at hp'
    · cases hp'
      exact absurd rfl hne
    · exact h.priority p _ _ hp' htable'

theorem removeMember (h : GroupsOk db) (hp : db.members.get p = some member) :
    GroupsOk { ({ db with
      member_tree := fun m => if m = member.acl_table_group_member_id then none
        else db.member_tree m }.modGroup member.acl_group_id fun group =>
          { group with table_list_head := aclDllRemove env p group.table_list_head }) with
      members := db.members.free p } := by
  have hother : ∀ q other, (db.members.free p).get q = some other →
      q ≠ p ∧ db.members.get q = some other := by
    intro q other hq
    rw [Heap.get_free] at hq
    split at hq
    · cases hq
    next hne => exact ⟨hne, hq⟩
  refine ⟨?_, ?_, ?_, ?_, ?_, ?_⟩
  · intro q other hq
    obtain ⟨hne, hq⟩ := hother q other hq
    have hin := h.live q _ hq
    show (if other.acl_table_group_member_id = _ then none else _) = _
    rw [if_neg]
    · exact hin
    intro heq
    rw [heq, h.live p _ hp] at hin
    exact hne (Option.some.inj hin).symm
  · intro m q hm
    have hm' : (if m = member.acl_table_group_member_id then none else db.member_tree m) =
      some q := hm
    split at hm'
    · cases hm'
    rename_i hne
    obtain ⟨other, hq, hid⟩ := h.tree m q hm'
    refine ⟨other, ?_, hid⟩
    show (db.members.free p).get q = some other
    rw [Heap.get_free_of_ne]
    · exact hq
    rintro rfl
    rw [hp] at hq
    cases hq
    exact hne hid.symm
  · intro g group q hg
    obtain ⟨old, hold, rfl⟩ := modGroup_some.mp hg
    have hold : db.group_tree g = some old := hold
    show _ ↔ ∃ other, (db.members.free p).get q = some other ∧ _
    rw [Heap.get_free]
    have hlisted := h.listed g old q hold
    by_cases heq : g = member.acl_group_id
    · have hin : p ∈ old.table_list_head := (h.listed g old p hold).mpr ⟨member, hp, heq.symm⟩
      rw [if_pos heq]
      show q ∈ aclDllRemove env p old.table_list_head ↔ _
      rw [aclDllRemove, if_pos hin, (h.nodup g old hold).mem_erase_iff, hlisted]
      by_cases hq : q = p
      · simp [hq]
      · simp [hq]
    · rw [if_neg heq, hlisted]
      by_cases hq : q = p
      · subst hq
        rw [if_pos rfl, hp]
        simp only [Option.some.injEq, exists_eq_left', reduceCtorEq, false_and, exists_false,
          iff_false]
        exact fun hgroup => heq hgroup.symm
      · rw [if_neg hq]
  · intro g group hg
    obtain ⟨old, hold, rfl⟩ := modGroup_some.mp hg
    have hold : db.group_tree g = some old := hold
    have hnodup := h.nodup g old hold
    split
    next heq =>
      have hin : p ∈ old.table_list_head := (h.listed g old p hold).mpr ⟨member, hp, heq.symm⟩
      show (aclDllRemove env p old.table_list_head).Nodup
      rw [aclDllRemove, if_pos hin]
      exact hnodup.erase p
    · exact hnodup
  · intro q other hq
    obtain ⟨-, hq⟩ := hother q other hq
    have hsome := h.grouped q _ hq
    show (((_ : AclDb).modGroup member.acl_group_id _).group_tree _).isSome
    rw [modGroup_isSome]
    exact hsome
  · intro q other table hq htable
    obtain ⟨-, hq⟩ := hother q other hq
    exact h.priority q _ _ hq htable

/-- **A member is written**: it keeps its id and its group, and agrees with its table. -/
theorem modMember (h : GroupsOk db) {new} (hp : db.members.get p = some member)
    (hid : new.acl_table_group_member_id = member.acl_table_group_member_id)
    (hgroup : new.acl_group_id = member.acl_group_id)
    (hpriority : ∀ table, db.table_tree new.acl_table_id = some table →
      table.acl_table_priority = new.priority) : GroupsOk (db.modMember p fun _ => new) := by
  have hget : ∀ q other, (db.members.modify p fun _ => new).get q = some other ↔
      (q = p ∧ other = new) ∨ (q ≠ p ∧ db.members.get q = some other) := by
    intro q other
    rw [Heap.get_modify]
    by_cases hq : q = p
    · subst hq
      rw [if_pos rfl, hp]
      simp [eq_comm]
    · rw [if_neg hq]
      simp [hq]
  -- id and group read the same at every address
  have hsame : ∀ q other, (db.members.modify p fun _ => new).get q = some other →
      ∃ old, db.members.get q = some old ∧
        other.acl_table_group_member_id = old.acl_table_group_member_id ∧
        other.acl_group_id = old.acl_group_id := by
    intro q other hq
    rcases (hget q other).mp hq with ⟨rfl, rfl⟩ | ⟨-, hq⟩
    · exact ⟨member, hp, hid, hgroup⟩
    · exact ⟨other, hq, rfl, rfl⟩
  have hback : ∀ q old, db.members.get q = some old →
      ∃ other, (db.members.modify p fun _ => new).get q = some other ∧
        other.acl_table_group_member_id = old.acl_table_group_member_id ∧
        other.acl_group_id = old.acl_group_id := by
    intro q old hq
    by_cases heq : q = p
    · subst heq
      rw [hp] at hq
      cases hq
      exact ⟨new, (hget q new).mpr (.inl ⟨rfl, rfl⟩), hid, hgroup⟩
    · exact ⟨old, (hget q old).mpr (.inr ⟨heq, hq⟩), rfl, rfl⟩
  refine ⟨?_, ?_, ?_, h.nodup, ?_, ?_⟩
  · intro q other hq
    obtain ⟨old, hold, hids, -⟩ := hsame q other hq
    rw [hids]
    exact h.live q old hold
  · intro m q hm
    obtain ⟨old, hold, hm⟩ := h.tree m q hm
    obtain ⟨other, hother, hids, -⟩ := hback q old hold
    exact ⟨other, hother, hids.trans hm⟩
  · intro g group q hg
    rw [h.listed g _ q hg]
    constructor
    · rintro ⟨old, hold, hog⟩
      obtain ⟨other, hother, -, hgroups⟩ := hback q old hold
      exact ⟨other, hother, hgroups.trans hog⟩
    · rintro ⟨other, hother, hog⟩
      obtain ⟨old, hold, -, hgroups⟩ := hsame q other hother
      exact ⟨old, hold, hgroups.symm.trans hog⟩
  · intro q other hq
    obtain ⟨old, hold, -, hgroups⟩ := hsame q other hq
    rw [hgroups]
    exact h.grouped q old hold
  · intro q other table hq htable
    rcases (hget q other).mp hq with ⟨rfl, rfl⟩ | ⟨-, hq⟩
    · exact hpriority table htable
    · exact h.priority q _ _ hq htable

/-! ## One call -/

theorem memberFree_new (h : GroupsOk db) (member) :
    GroupsOk (memberFree db.members.next { db with members := db.members.alloc member }) :=
  h.of_get _ fun q => Heap.get_free_alloc_next _ _ q

theorem groupCreate (h : GroupsOk db) {attr_list}
    (hx : aclTableGroupCreate env attr_list db = x) : GroupsOk x.2 := by
  simp only [aclTableGroupCreate] at hx
  split at hx
  · subst hx
    exact h
  split at hx
  · subst hx
    exact h
  cases hid : aclTableGroupIdCreate env db with
  | none =>
    rw [hid] at hx
    subst hx
    exact h
  | some gid =>
    rw [hid] at hx
    dsimp only at hx
    split at hx
    · subst hx
      exact h
    subst hx
    -- the generator gives an id that no group has
    obtain ⟨n, hn, rfl⟩ := Option.map_eq_some_iff.mp hid
    have hunused := env.group_id_gen.unused _ n hn
    exact h.addGroup (Option.isSome_eq_false_iff.mp hunused |> Option.isNone_iff_eq_none.mp) _ rfl

theorem groupDelete (h : GroupsOk db) (hx : aclTableGroupDelete gid db = x) : GroupsOk x.2 := by
  unfold aclTableGroupDelete at hx
  cases hg : db.group_tree gid with
  | none =>
    rw [hg] at hx
    subst hx
    exact h
  | some group =>
    rw [hg] at hx
    dsimp only at hx
    split at hx
    · subst hx
      exact h
    rename_i hempty
    subst hx
    exact h.removeGroup hg (not_not.mp hempty)

theorem aclTableGroupAttrSet_list :
    (aclTableGroupAttrSet env group attr).2.table_list_head = group.table_list_head := by
  cases attr with
  | bindPointTypeList s32list =>
    unfold aclTableGroupAttrSet
    dsimp only
    split <;> rfl
  | stage s32 => rfl
  | type s32 => rfl
  | other id => rfl

theorem groupSet (h : GroupsOk db) (hx : aclTableGroupAttributeSet env gid attr db = x) : GroupsOk x.2 := by
  simp only [aclTableGroupAttributeSet] at hx
  cases hg : db.group_tree gid with
  | none =>
    rw [hg] at hx
    subst hx
    exact h
  | some group =>
    rw [hg] at hx
    dsimp only at hx
    split at hx
    · subst hx
      exact h
    subst hx
    refine h.modGroup _ fun old hold => ?_
    rw [hg] at hold
    cases hold
    exact aclTableGroupAttrSet_list

theorem memberCreate (h : GroupsOk db) {attr_list}
    (hok : MemberCreateOk env attr_list db) (hx : aclTableGroupMemberCreate env attr_list db = x) : GroupsOk x.2 := by
  simp only [aclTableGroupMemberCreate] at hx
  by_cases hnode : env.avail .memberNode = true
  swap
  · rw [if_pos (by simp [hnode])] at hx
    subst hx
    exact h
  rw [if_neg (by simp [hnode])] at hx
  by_cases hvalid : env.validate_member .create attr_list = .success
  swap
  · have hparse : aclTableGroupMemberParseUpdateAttributes env .zero attr_list .create =
        (env.validate_member .create attr_list, .zero) := by
      simp [aclTableGroupMemberParseUpdateAttributes, hvalid]
    rw [hparse, if_pos hvalid] at hx
    subst hx
    exact h.memberFree_new _
  have hparse : aclTableGroupMemberParseUpdateAttributes env .zero attr_list .create =
      aclTableGroupMemberAttrsSet 0 attr_list .zero := by
    simp [aclTableGroupMemberParseUpdateAttributes, hvalid]
  rw [hparse] at hx
  by_cases hset : (aclTableGroupMemberAttrsSet 0 attr_list .zero).1 = .success
  swap
  · rw [if_pos hset] at hx
    subst hx
    exact h.memberFree_new _
  rw [if_ok hset] at hx
  have hready := hok hnode hvalid hset
  generalize (aclTableGroupMemberAttrsSet 0 _ _).2 = member at hx hready
  cases hid : aclTableGroupMemberIdCreate env { db with members := db.members.alloc member } with
  | none =>
    rw [hid] at hx
    subst hx
    exact h.memberFree_new _
  | some mid =>
    rw [hid] at hx
    dsimp only at hx
    -- the node gets its id before it is in any tree
    have hwrite : ({ db with members := db.members.alloc member }.modMember db.members.next
        fun _ => { member with acl_table_group_member_id := mid }) =
        { db with members := db.members.alloc { member with acl_table_group_member_id := mid } } := by
      unfold AclDb.modMember
      rw [Heap.modify_alloc_next]
    rw [hwrite] at hx
    by_cases htree : env.avail .memberTree = true
    swap
    · rw [if_pos (by simp [htree])] at hx
      subst hx
      exact h.memberFree_new _
    rw [if_neg (by simp [htree])] at hx
    obtain ⟨htable, hgroup, hagree⟩ := hready htree
    obtain ⟨table, htable⟩ := Option.isSome_iff_exists.mp htable
    rw [htable] at hx
    dsimp only at hx
    rw [aclTableGroupTableIdUpdate_of_isSome hgroup ?same] at hx
    case same => rfl
    subst hx
    have hnew : db.member_tree mid = none := by
      obtain ⟨n, hn, rfl⟩ := Option.map_eq_some_iff.mp hid
      have hunused := env.member_id_gen.unused _ n hn
      rw [Option.isSome_eq_false_iff, Option.isNone_iff_eq_none] at hunused
      by_contra hsome
      obtain ⟨p, hp⟩ := Option.ne_none_iff_exists'.mp hsome
      obtain ⟨other, hother, -⟩ := h.tree _ p hp
      have hget : (db.members.alloc member).get p = some other := Heap.get_alloc_of_get hother
      unfold memberFind at hunused
      rw [hp] at hunused
      dsimp only at hunused
      rw [hget] at hunused
      cases hunused
    have hnewId : db.member_tree
        { member with acl_table_group_member_id := mid }.acl_table_group_member_id = none := hnew
    exact h.addMember hnewId hgroup hagree

theorem memberDelete (h : GroupsOk db) (hx : aclTableGroupMemberDelete env mid db = x) : GroupsOk x.2 := by
  simp only [aclTableGroupMemberDelete] at hx
  cases hfind : memberFind mid db with
  | none =>
    rw [hfind] at hx
    subst hx
    exact h
  | some found =>
    obtain ⟨p, member⟩ := found
    obtain ⟨htree, hp⟩ := memberFind_some hfind
    obtain ⟨other, hother, rfl⟩ := h.tree mid p htree
    rw [hp] at hother
    cases hother
    rw [hfind] at hx
    dsimp only at hx
    rw [aclTableGroupTableIdUpdate_of_isSome (h.grouped p _ hp) ?same] at hx
    case same => rfl
    subst hx
    exact h.removeMember hp

theorem memberSet (h : GroupsOk db) {attr} (hok : MemberSetOk env mid attr db)
    (hx : aclTableGroupMemberAttributeSet env mid attr db = x) : GroupsOk x.2 := by
  simp only [aclTableGroupMemberAttributeSet] at hx
  cases hfind : memberFind mid db with
  | none =>
    rw [hfind] at hx
    subst hx
    exact h
  | some found =>
    obtain ⟨p, member⟩ := found
    obtain ⟨-, hp⟩ := memberFind_some hfind
    rw [hfind] at hx
    dsimp only at hx
    split at hx
    · subst hx
      exact h
    rename_i hparse
    subst hx
    have hvalid : env.validate_member .set [attr] = .success := by
      by_contra hne
      refine hparse ?_
      simp [aclTableGroupMemberParseUpdateAttributes, hne]
    have hready := hok hvalid p member hfind
    cases attr with
    | tableGroupId oid =>
      obtain rfl := hready
      exact h.modMember hp rfl rfl fun table htable => h.priority p _ _ hp htable
    | tableId oid => exact h.modMember hp rfl rfl hready
    | priority u32 => exact h.modMember hp rfl rfl hready
    | other id => exact h.modMember hp rfl rfl fun table htable => h.priority p _ _ hp htable

theorem step {c} (h : GroupsOk db) (hok : GroupOpOk c db) :
    GroupsOk (aclGroupStep c db) := by
  obtain ⟨env, op⟩ := c
  cases op with
  | groupCreate attr_list => exact h.groupCreate rfl
  | groupDelete gid => exact h.groupDelete rfl
  | groupSet gid attr => exact h.groupSet rfl
  | memberCreate attr_list => exact h.memberCreate hok rfl
  | memberDelete mid => exact h.memberDelete rfl
  | memberSet mid attr => exact h.memberSet hok rfl

end GroupsOk

/-- **Groups and members stay consistent**: in every state that calls which meet the condition
lead to from a state without groups. -/
theorem groupsConsistent_of_run {db₀ db : AclDb} (hempty : GroupsEmpty db₀)
    (hrun : Run aclGroupStep GroupOpOk db₀ db) : GroupsConsistent db :=
  (hrun.induct (fun c _ h hok => h.step hok) (GroupsOk.empty hempty)).consistent

theorem groupsConsistent_of_run_member :
    let env := AclEnv.good (fun _ => .invalid) []
    let gid := uoidCreate .aclTableGroup 0
    let tid := uoidCreate .aclTable 1
    let mid := uoidCreate .aclTableGroupMember 0
    let db₀ := AclDb.initial (fun t => if t = tid then some ⟨.ingress, 0, [], 0, false, []⟩ else none)
      (fun _ => none) (fun _ => false) .empty
    let db₁ := aclGroupStep ⟨env, .groupCreate [.stage 0]⟩ db₀
    let db₂ := aclGroupStep ⟨env, .memberCreate [.tableGroupId gid, .tableId tid, .priority 5]⟩ db₁
    let db₃ := aclGroupStep ⟨env, .memberDelete mid⟩ db₂
    (db₂.member_tree mid).isSome ∧ GroupsConsistent db₂ ∧ GroupsConsistent db₃ := by
  intro env gid tid mid db₀ db₁ db₂ db₃
  have hempty : GroupsEmpty db₀ := ⟨fun _ => rfl, fun _ => rfl, fun _ => rfl⟩
  have hcreate : MemberCreateOk env [.tableGroupId gid, .tableId tid, .priority 5] db₁ := by
    intro _ _ _ _
    refine ⟨by decide, by decide, fun p member hp => ?_⟩
    have hnone : db₁.members.get p = none := rfl
    rw [hnone] at hp
    cases hp
  have hrun₁ : Run aclGroupStep GroupOpOk db₀ db₁ := .snoc _ (.nil db₀) trivial
  have hrun₂ : Run aclGroupStep GroupOpOk db₀ db₂ := .snoc _ hrun₁ hcreate
  have hrun₃ : Run aclGroupStep GroupOpOk db₀ db₃ := .snoc _ hrun₂ trivial
  exact ⟨by decide, groupsConsistent_of_run hempty hrun₂, groupsConsistent_of_run hempty hrun₃⟩

/-- A member is created for a table that does not exist. The call fails, the member is freed, and
the member tree still has it. -/
theorem not_groupsConsistent_orphan :
    let env := AclEnv.good (fun _ => .invalid) []
    let gid := uoidCreate .aclTableGroup 0
    let tid := uoidCreate .aclTable 1
    let db₀ := AclDb.initial (fun _ => none) (fun _ => none) (fun _ => false) .empty
    let db₁ := aclGroupStep ⟨env, .groupCreate [.stage 0]⟩ db₀
    let x := aclGroupExec ⟨env, .memberCreate [.tableGroupId gid, .tableId tid, .priority 5]⟩ db₁
    x.1 = .invalidObjectId ∧ ¬ GroupsConsistent x.2 := by
  intro env gid tid db₀ db₁ x
  refine ⟨by decide, fun h => ?_⟩
  have hin : x.2.member_tree (uoidCreate .aclTableGroupMember 0) = some 1 := by decide
  obtain ⟨member, hp, -⟩ := h.tree_live _ 1 hin
  have hfreed : x.2.members.get 1 = none := rfl
  rw [hfreed] at hp
  cases hp

end OpxSai
