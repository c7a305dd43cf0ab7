import OpxSai.Lib.Run
import OpxSai.Switching.L2mc

/-!
# L2 multicast — members on LAGs

A member on a LAG is entered in the map of its bridge port, so that a change of the LAG reaches it.
Whether it is on one is decided by any of the bridge ports that its attributes name, and the one that
it is stored with is the last; and the list that a change is to be told to is written into memory that
was allocated for none of it.

* `MembersMapped` — the invariant: the map lists the members, in their order;
* `MapExact` — the map holds a bridge port and a member exactly for a live member on a LAG;
* `l2mcMapped_of_run` — any run.
-/

namespace OpxSai

open L2mcDb

variable {is_lag : Oid → Bool} {port id : Oid} {node : L2mcMember} {db : L2mcDb}
variable {attr_list : List L2mcMemberAttr} {data : LagChange}

/-! ## Properties -/

def MapExact (is_lag : Oid → Bool) (db : L2mcDb) : Prop :=
  ∀ port m, m ∈ db.member_map port ↔
    (∃ node ∈ db.members, node.l2mc_member_id = m ∧ node.bridge_port_id = port) ∧ is_lag port = true

/-- A change is told exactly once to each live member on the bridge port, and writes to no element that
was not allocated. -/
structure LagChangeTold (env : L2mcEnv) (port : Oid) (data : LagChange) (db : L2mcDb) : Prop where
  inside : ∀ i ∈ (l2mcHandleLagChangeNotification env port data db).written,
    i < (l2mcHandleLagChangeNotification env port data db).allocated
  rc : (l2mcHandleLagChangeNotification env port data db).rc = .success
  told : ∃ ids : List Oid, ids.Nodup ∧
    (∀ m, m ∈ ids ↔ ∃ node ∈ db.members, node.l2mc_member_id = m ∧ node.bridge_port_id = port) ∧
    (l2mcHandleLagChangeNotification env port data db).db.outside_log =
      db.outside_log ++ ids.map fun m => (.memberLagNotif m data, .success)

def L2mcEnv.Does (env : L2mcEnv) (c : L2mcCall) : Prop := ∀ log, env.outside log c = .success

variable {env : L2mcEnv}

/-- The condition on a call. The bridge ports that a create names decide as the last of them does, and
what becomes of the map is not left to fail. -/
def L2mcMapOk (is_lag : Oid → Bool) (c : L2mcOpCall) (db : L2mcDb) : Prop :=
  match c.op with
  | .createGroupMember _ attr_list => ∀ group port,
      l2mcMemberAttrs attr_list none none = .ok (some group, some port) →
      (l2mcCheckIfAttrBridgePortIsLag is_lag attr_list = true → is_lag port = true) ∧
      (is_lag port = true → c.env.Does (.mapInsert port c.env.npu_l2mc_member_id))
  | .removeGroupMember id => ∀ node, db.member id = some node → is_lag node.bridge_port_id = true →
      c.env.Does (.mapRemove node.bridge_port_id id) ∧ c.env.Does (.memberNodeRemove id)
  | _ => True

/-! ## The invariant -/

def membersOn (port : Oid) (members : List L2mcMember) : List Oid :=
  (members.filter fun m => m.bridge_port_id = port).map L2mcMember.l2mc_member_id

structure MembersMapped (is_lag : Oid → Bool) (db : L2mcDb) : Prop where
  ids : (db.members.map L2mcMember.l2mc_member_id).Nodup
  map : ∀ port, db.member_map port = if is_lag port = true then membersOn port db.members else []

theorem mem_membersOn {m} {members} :
    m ∈ membersOn port members ↔
      ∃ node ∈ members, node.l2mc_member_id = m ∧ node.bridge_port_id = port := by
  unfold membersOn
  simp only [List.mem_map, List.mem_filter, decide_eq_true_eq]
  constructor
  · rintro ⟨node, ⟨hin, hport⟩, hid⟩
    exact ⟨node, hin, hid, hport⟩
  · rintro ⟨node, hin, hid, hport⟩
    exact ⟨node, ⟨hin, hport⟩, hid⟩

theorem membersOn_append (port) (members : List L2mcMember) (node : L2mcMember) :
    membersOn port (members ++ [node]) =
      if node.bridge_port_id = port then membersOn port members ++ [node.l2mc_member_id]
      else membersOn port members := by
  unfold membersOn
  by_cases h : node.bridge_port_id = port
  · simp [h]
  · simp [h]

theorem membersOn_filter (port id) (members : List L2mcMember) :
    membersOn port (members.filter fun m => m.l2mc_member_id ≠ id) =
      (membersOn port members).filter fun m => m ≠ id := by
  unfold membersOn
  rw [List.filter_map, List.filter_filter, List.filter_filter]
  congr 1
  refine List.filter_congr fun m _ => ?_
  exact Bool.and_comm _ _

namespace MembersMapped

variable {db' : L2mcDb}

theorem initial : MembersMapped is_lag .initial where
  ids := List.nodup_nil
  map port := by
    split
    · rfl
    · rfl

theorem kept (h : MembersMapped is_lag db) (hmembers : db'.members = db.members)
    (hmap : db'.member_map = db.member_map) : MembersMapped is_lag db' where
  ids := by
    rw [hmembers]
    exact h.ids
  map := by
    rw [hmembers, hmap]
    exact h.map

theorem exact (h : MembersMapped is_lag db) : MapExact is_lag db := by
  intro port m
  rw [h.map]
  by_cases hlag : is_lag port = true
  · rw [if_pos hlag, mem_membersOn]
    simp [hlag]
  · rw [if_neg hlag]
    simp [hlag]

theorem nodup_membersOn (h : MembersMapped is_lag db) {port} :
    (membersOn port db.members).Nodup :=
  h.ids.sublist (List.Sublist.map _ List.filter_sublist)

theorem member_some (h : db.member id = some node) :
    node ∈ db.members ∧ node.l2mc_member_id = id :=
  ⟨List.mem_of_find?_eq_some h, by simpa using List.find?_some h⟩

theorem member_isSome (h : ∃ node ∈ db.members, node.l2mc_member_id = id) :
    ∃ node, db.member id = some node := by
  obtain ⟨node, hin, hid⟩ := h
  cases hfind : db.member id with
  | some node' => exact ⟨node', rfl⟩
  | none =>
    have hno := List.find?_eq_none.mp hfind node hin
    exact absurd hid (by simpa using hno)

theorem add (h : MembersMapped is_lag db)
    (hnew : db.member node.l2mc_member_id = none) (hmembers : db'.members = db.members ++ [node])
    (hmap : ∀ port, db'.member_map port =
      if port = node.bridge_port_id ∧ is_lag port = true then
        db.member_map port ++ [node.l2mc_member_id]
      else db.member_map port) : MembersMapped is_lag db' where
  ids := by
    rw [hmembers, List.map_append, List.map_singleton, List.nodup_append]
    refine ⟨h.ids, List.nodup_singleton _, fun a ha b hb heq => ?_⟩
    obtain ⟨node', hin, rfl⟩ := List.mem_map.mp ha
    obtain rfl := List.mem_singleton.mp hb
    have hno := List.find?_eq_none.mp hnew node' hin
    exact absurd heq (by simpa using hno)
  map port := by
    rw [hmap, hmembers, membersOn_append, h.map]
    by_cases hlag : is_lag port = true
    · by_cases hport : port = node.bridge_port_id
      · simp [hlag, hport.symm]
      · have hne : node.bridge_port_id ≠ port := fun heq => hport heq.symm
        simp [hlag, hport, hne]
    · simp [hlag]

theorem remove (h : MembersMapped is_lag db) (hnode : db.member id = some node)
    (hmembers : db'.members = db.members.filter fun m => m.l2mc_member_id ≠ id)
    (hmap : ∀ port, db'.member_map port =
      if port = node.bridge_port_id ∧ is_lag port = true then (db.member_map port).filter fun m => m ≠ id
      else db.member_map port) : MembersMapped is_lag db' where
  ids := by
    rw [hmembers]
    exact h.ids.sublist (List.Sublist.map _ List.filter_sublist)
  map port := by
    rw [hmap, hmembers, membersOn_filter, h.map]
    by_cases hlag : is_lag port = true
    · by_cases hport : port = node.bridge_port_id
      · rw [if_pos ⟨hport, hlag⟩, if_pos hlag, if_pos hlag]
      rw [if_neg fun hand => hport hand.1, if_pos hlag, if_pos hlag]
      -- the member is on another bridge port
      refine (List.filter_eq_self.mpr fun m hm => ?_).symm
      obtain ⟨hin, hid⟩ := member_some hnode
      obtain ⟨node', hin', hid', hport'⟩ := mem_membersOn.mp hm
      rw [decide_eq_true_iff]
      rintro rfl
      have hsame : node' = node := List.inj_on_of_nodup_map h.ids hin' hin (hid'.trans hid.symm)
      exact hport (by rw [← hport', hsame])
    · rw [if_neg fun hand => hlag hand.2, if_neg hlag, if_neg hlag]

end MembersMapped

/-! ## What the calls do to members and map -/

/-- The calls that are not about members and their map. -/
def L2mcCall.apart : L2mcCall → Bool
  | .memberAdd _ | .memberNodeRemove _ | .mapInsert _ _ | .mapRemove _ _ => false
  | _ => true

theorem call_apart (env : L2mcEnv) (c : L2mcCall) (db : L2mcDb) (h : c.apart = true) :
    (db.call env c).2.members = db.members ∧ (db.call env c).2.member_map = db.member_map := by
  rcases call_cases env with ⟨-, hdone⟩ | ⟨-, hlog⟩
  · rw [hdone]
    cases c with
    | memberAdd | memberNodeRemove | mapInsert | mapRemove => cases h
    | groupCreate | groupDelete | groupAdd | groupNodeRemove | memberCreate | memberRemove
    | _ => exact ⟨rfl, rfl⟩
  · rw [hlog]
    exact ⟨rfl, rfl⟩

theorem call_does {c} (h : env.Does c) (db : L2mcDb) :
    db.call env c = (.success, (db.logged env c).done c) := by
  rcases call_cases env with ⟨hok, hdone⟩ | ⟨hfail, -⟩
  · exact Prod.ext hok hdone
  · exact absurd (h db.outside_log) hfail

def MembersSame (db db' : L2mcDb) : Prop :=
  db'.members = db.members ∧ db'.member_map = db.member_map

theorem MembersSame.trans {db' db''} (h : MembersSame db db') (k : MembersSame db' db'') :
    MembersSame db db'' :=
  ⟨k.1.trans h.1, k.2.trans h.2⟩

theorem l2mcCreateGroup_apart {attr_count : Nat} :
    MembersSame db (l2mcCreateGroup env attr_count db).2 := by
  have hadd : ∀ d, MembersSame d (addL2mcGroupNode env env.npu_l2mc_group_id d).2 := by
    intro d
    unfold addL2mcGroupNode
    split
    · exact ⟨rfl, rfl⟩
    · exact call_apart env _ d rfl
  have hcreate := call_apart env .groupCreate db rfl
  simp only [l2mcCreateGroup]
  split
  · exact ⟨rfl, rfl⟩
  split
  · exact hcreate
  split
  · exact (MembersSame.trans hcreate (hadd _)).trans (call_apart env _ _ rfl)
  · exact MembersSame.trans hcreate (hadd _)

theorem l2mcRemoveGroup_apart {id} :
    MembersSame db (l2mcRemoveGroup env id db).2 := by
  have hdelete := call_apart env (.groupDelete id) db rfl
  unfold l2mcRemoveGroup
  split
  · exact ⟨rfl, rfl⟩
  split
  · exact ⟨rfl, rfl⟩
  simp only
  split
  · exact hdelete
  · exact MembersSame.trans hdelete (call_apart env _ _ rfl)

theorem l2mcCreateEntryLocked_apart {node} :
    MembersSame db (l2mcCreateEntryLocked env node db).2 := by
  have hinsert : ∀ d, MembersSame d (insertMcastEntryNode env node d).2 := by
    intro d
    unfold insertMcastEntryNode
    split
    · exact ⟨rfl, rfl⟩
    · exact call_apart env _ d rfl
  have hcreate := call_apart env (.mcastEntryCreate node) db rfl
  simp only [l2mcCreateEntryLocked]
  split
  · exact hcreate
  split
  · exact (MembersSame.trans hcreate (hinsert _)).trans (call_apart env _ _ rfl)
  · exact MembersSame.trans hcreate (hinsert _)

theorem l2mcRemoveEntry_apart {entry} :
    MembersSame db (l2mcRemoveEntry env entry db).2 := by
  simp only [l2mcRemoveEntry]
  split
  · exact ⟨rfl, rfl⟩
  split
  · exact call_apart env _ db rfl
  · exact call_apart env _ db rfl

/-- **The create of a member**: nothing, or the member and the map, which decides as the attributes
do. -/
theorem l2mcCreateGroupMemberLocked_cases {flag : Bool} {node} :
    let x := l2mcCreateGroupMemberLocked env flag node db
    MembersSame db x.2 ∨
    db.member node.l2mc_member_id = none ∧ x.2.members = db.members ++ [node] ∧
      ((flag = true → env.Does (.mapInsert node.bridge_port_id node.l2mc_member_id)) →
        ∀ port, x.2.member_map port =
          if port = node.bridge_port_id ∧ flag = true then db.member_map port ++ [node.l2mc_member_id]
          else db.member_map port) := by
  intro x
  have hx : x = l2mcCreateGroupMemberLocked env flag node db := rfl
  unfold l2mcCreateGroupMemberLocked at hx
  split at hx
  · rw [hx]
    exact .inl ⟨rfl, rfl⟩
  split at hx
  · rw [hx]
    exact .inl ⟨rfl, rfl⟩
  obtain ⟨hmembers, hmap⟩ := call_apart env (.memberCreate node) db rfl
  simp only at hx
  generalize db.call _ _ = a at hmembers hmap hx
  split at hx
  · rw [hx]
    exact .inl ⟨hmembers, hmap⟩
  have hmember : a.2.member node.l2mc_member_id = db.member node.l2mc_member_id := by
    unfold L2mcDb.member
    rw [hmembers]
  unfold addL2mcMemberNode at hx
  rw [hmember] at hx
  cases hnew : db.member node.l2mc_member_id with
  | some node' =>
    simp only [hnew] at hx
    rw [if_pos (by simp)] at hx
    rw [hx]
    exact .inl (MembersSame.trans ⟨hmembers, hmap⟩ (call_apart env _ a.2 rfl))
  | none =>
    simp only [hnew] at hx
    rcases call_cases env with ⟨hok, hdone⟩ | ⟨hfail, hlog⟩
    · have hadded : (a.2.call env (.memberAdd node)).2.members = db.members ++ [node] := by
        rw [hdone, ← hmembers]
        rfl
      have haddedMap : (a.2.call env (.memberAdd node)).2.member_map = db.member_map := by
        rw [hdone, ← hmap]
        rfl
      generalize a.2.call _ _ = b at hok hadded haddedMap hx
      rw [if_ok hok] at hx
      refine .inr ⟨rfl, ?_, fun hdoes port => ?_⟩
      · rw [hx]
        cases flag with
        | false => exact hadded
        | true =>
          rw [if_pos rfl, ← hadded]
          show (b.2.call env (.mapInsert node.bridge_port_id node.l2mc_member_id)).2.members = b.2.members
          rcases call_cases env with
            ⟨-, hins⟩ | ⟨-, hins⟩
          · rw [hins]
            rfl
          · rw [hins]
            rfl
      · rw [hx]
        cases flag with
        | false =>
          rw [if_neg (by simp), if_neg (by simp)]
          exact congrFun haddedMap port
        | true =>
          rw [if_pos rfl, call_does (hdoes rfl), ← haddedMap]
          show (if port = node.bridge_port_id then _ else _) = _
          simp only [and_true]
          by_cases hport : port = node.bridge_port_id
          · rw [if_pos hport, if_pos hport, hport]
            rfl
          · rw [if_neg hport, if_neg hport]
            rfl
    · rw [if_pos hfail] at hx
      rw [hx]
      have hsame : MembersSame a.2 (a.2.call env (.memberAdd node)).2 := by
        rw [hlog]
        exact ⟨rfl, rfl⟩
      exact .inl ((MembersSame.trans ⟨hmembers, hmap⟩ hsame).trans (call_apart env _ _ rfl))

theorem l2mcMemberAttrs_port {group port} {g p}
    (h : l2mcMemberAttrs attr_list group port = .ok (some g, some p)) (hlag : is_lag p = true) :
    l2mcCheckIfAttrBridgePortIsLag is_lag attr_list = true ∨ port = some p := by
  induction attr_list generalizing group port with
  | nil =>
    simp only [l2mcMemberAttrs, Except.ok.injEq, Prod.mk.injEq] at h
    exact .inr h.2
  | cons attr attr_list ih =>
    cases attr with
    | groupId oid =>
      simp only [l2mcMemberAttrs] at h
      split at h
      · cases h
      · exact ih h
    | outputId oid =>
      simp only [l2mcMemberAttrs] at h
      refine .inl ?_
      show (is_lag oid || l2mcCheckIfAttrBridgePortIsLag is_lag attr_list) = true
      rcases ih h with hrest | hport
      · rw [hrest, Bool.or_true]
      · cases hport
        rw [hlag, Bool.true_or]
    | unknown id => cases h

theorem MembersMapped.create {switch_id} (h : MembersMapped is_lag db)
    (hok : L2mcMapOk is_lag ⟨env, .createGroupMember switch_id attr_list⟩ db) :
    MembersMapped is_lag (l2mcCreateGroupMember env is_lag switch_id attr_list db).2 := by
  unfold l2mcCreateGroupMember
  split
  · exact h
  split
  · exact h
  next group port hattrs =>
    obtain ⟨hlast, hdoes⟩ := hok group port hattrs
    have hflag : l2mcCheckIfAttrBridgePortIsLag is_lag attr_list = is_lag port := by
      rw [Bool.eq_iff_iff]
      refine ⟨hlast, fun hlag => ?_⟩
      exact (l2mcMemberAttrs_port hattrs hlag).resolve_right (by simp)
    rw [hflag]
    rcases l2mcCreateGroupMemberLocked_cases with ⟨hmembers, hmap⟩ | ⟨hnew, hmembers, hmap⟩
    · exact h.kept hmembers hmap
    refine h.add hnew hmembers fun p => ?_
    rw [hmap hdoes p]
    by_cases hp : p = port
    · simp [hp]
    · simp [hp]
  · exact h

theorem MembersMapped.removeMember
    (h : MembersMapped is_lag db) (hok : L2mcMapOk is_lag ⟨env, .removeGroupMember id⟩ db) :
    MembersMapped is_lag (l2mcRemoveGroupMember env is_lag id db).2 := by
  unfold l2mcRemoveGroupMember
  split
  · exact h
  split
  · exact h
  rename_i node hnode
  have hdoes := hok node hnode
  obtain ⟨hmembers, hmap⟩ := call_apart env (.memberRemove node) db rfl
  simp only
  generalize db.call _ _ = a at hmembers hmap ⊢
  split
  · exact h.kept hmembers hmap
  have hfind : ∀ d : L2mcDb, d.members = db.members → d.member id = some node := by
    intro d hd
    unfold L2mcDb.member
    rw [hd]
    exact hnode
  cases hlag : is_lag node.bridge_port_id with
  | true =>
    obtain ⟨hmapRemove, hnodeRemove⟩ := hdoes hlag
    rw [if_pos rfl, call_does hmapRemove, call_does hnodeRemove]
    generalize he : (a.2.logged env (.mapRemove node.bridge_port_id id)).done _ = e
    have hemembers : e.members = db.members := by
      rw [← he]
      exact hmembers
    have hemap : ∀ port, e.member_map port = if port = node.bridge_port_id then
        (db.member_map port).filter fun m => m ≠ id else db.member_map port := by
      intro port
      rw [← he, ← hmap]
      rfl
    have hedone : (e.logged env (.memberNodeRemove id)).done (.memberNodeRemove id) =
        { e.logged env (.memberNodeRemove id) with
          members := e.members.filter fun m => m.l2mc_member_id ≠ id }.modGroup node.l2mc_group_id
            fun g => { g with port_count := g.port_count - 1 } := by
      simp only [L2mcDb.done, hfind (e.logged env (.memberNodeRemove id)) hemembers]
      rfl
    rw [hedone]
    refine h.remove hnode ?_ fun port => ?_
    · rw [← hemembers]
      rfl
    · show e.member_map port = _
      rw [hemap port]
      by_cases hport : port = node.bridge_port_id
      · rw [if_pos hport, if_pos ⟨hport, hport ▸ hlag⟩]
      · rw [if_neg hport, if_neg fun hand => hport hand.1]
  | false =>
    rw [if_neg (by simp)]
    rcases call_cases env with ⟨-, hdone⟩ | ⟨-, hlog⟩
    · have hadone : (a.2.logged env (.memberNodeRemove id)).done (.memberNodeRemove id) =
          { a.2.logged env (.memberNodeRemove id) with
            members := a.2.members.filter fun m => m.l2mc_member_id ≠ id }.modGroup node.l2mc_group_id
              fun g => { g with port_count := g.port_count - 1 } := by
        simp only [L2mcDb.done, hfind (a.2.logged env (.memberNodeRemove id)) hmembers]
        rfl
      rw [hdone, hadone]
      refine h.remove hnode ?_ fun port => ?_
      · rw [← hmembers]
        rfl
      · show a.2.member_map port = _
        rw [hmap, if_neg]
        rintro ⟨hport, hyes⟩
        rw [hport, hlag] at hyes
        cases hyes
    · rw [hlog]
      exact h.kept hmembers hmap

/-! ## A change of a LAG -/

theorem l2mcNotifyMembers_told (hdoes : ∀ m, env.Does (.memberLagNotif m data)) (ids) :
    ∀ x : Status × L2mcDb, x.1 = .success → (∀ m ∈ ids, ∃ node, x.2.member m = some node) →
      (l2mcNotifyMembers env data ids x).1 = .success ∧
      MembersSame x.2 (l2mcNotifyMembers env data ids x).2 ∧
      (l2mcNotifyMembers env data ids x).2.outside_log =
        x.2.outside_log ++ ids.map fun m => (.memberLagNotif m data, .success) := by
  induction ids with
  | nil => exact fun x hok _ => ⟨hok, ⟨rfl, rfl⟩, (List.append_nil _).symm⟩
  | cons m ids ih =>
    intro x _ hin
    obtain ⟨node, hnode⟩ := hin m List.mem_cons_self
    simp only [l2mcNotifyMembers, hnode]
    rw [call_does (hdoes m), if_neg (by simp)]
    have hlog : ((x.2.logged env (.memberLagNotif m data)).done (.memberLagNotif m data)).outside_log =
        x.2.outside_log ++ [(.memberLagNotif m data, .success)] := by
      show x.2.outside_log ++ [(L2mcCall.memberLagNotif m data, env.outside _ _)] = _
      rw [hdoes m]
    obtain ⟨hok, hsame, hrest⟩ := ih
      (.success, (x.2.logged env (.memberLagNotif m data)).done (.memberLagNotif m data)) rfl
      fun m' hm' => hin m' (List.mem_cons_of_mem _ hm')
    refine ⟨hok, hsame, hrest.trans ?_⟩
    rw [hlog, List.append_assoc]
    rfl

/-- What a change does on a LAG, if there is memory to be had for nothing: it is told to each member
once. -/
theorem lagChange_told (h : MembersMapped is_lag db) (hlag : is_lag port = true)
    (hmemory : env.calloc_none = true) (hdoes : ∀ m, env.Does (.memberLagNotif m data)) :
    (l2mcHandleLagChangeNotification env port data db).rc = .success ∧
    (l2mcHandleLagChangeNotification env port data db).db.outside_log =
      db.outside_log ++ (membersOn port db.members).map fun m => (.memberLagNotif m data, .success) := by
  have hmap : db.member_map port = membersOn port db.members := by
    rw [h.map, if_pos hlag]
  simp only [l2mcHandleLagChangeNotification]
  split
  next hnone =>
    rw [hmap, List.length_eq_zero_iff] at hnone
    rw [hnone]
    exact ⟨rfl, (List.append_nil _).symm⟩
  rw [if_neg (by simp [hmemory])]
  rw [hmap]
  have hin : ∀ m ∈ membersOn port db.members, ∃ node, db.member m = some node := by
    intro m hm
    obtain ⟨node, hnode, hid, -⟩ := mem_membersOn.mp hm
    exact MembersMapped.member_isSome ⟨node, hnode, hid⟩
  obtain ⟨hok, -, hlog⟩ :=
    l2mcNotifyMembers_told hdoes (membersOn port db.members) (.success, db) rfl hin
  exact ⟨hok, hlog⟩

/-- **A change** does what it is to do exactly when no member is on the bridge port: the memory for the
list is of no elements. -/
theorem lagChangeTold_iff (h : MembersMapped is_lag db)
    (env : L2mcEnv) (data) (hlag : is_lag port = true) :
    LagChangeTold env port data db ↔ ∀ node ∈ db.members, node.bridge_port_id ≠ port := by
  have hmap : db.member_map port = membersOn port db.members := by
    rw [h.map, if_pos hlag]
  constructor
  · intro htold node hnode hport
    have hin : node.l2mc_member_id ∈ membersOn port db.members := mem_membersOn.mpr ⟨node, hnode, rfl, hport⟩
    have hpos : 0 < (db.member_map port).length := by
      rw [hmap]
      exact List.length_pos_of_mem hin
    have hinside := htold.inside
    have hrc := htold.rc
    simp only [l2mcHandleLagChangeNotification] at hinside hrc
    rw [if_neg (by omega)] at hinside hrc
    split at hrc
    · cases hrc
    rename_i hmemory
    rw [if_neg hmemory] at hinside
    have hzero := hinside 0 (List.mem_range.mpr hpos)
    exact absurd hzero (Nat.lt_irrefl 0)
  · intro hnone
    have hnil : membersOn port db.members = [] := by
      refine List.eq_nil_iff_forall_not_mem.mpr fun m hm => ?_
      obtain ⟨node, hin, -, hport⟩ := mem_membersOn.mp hm
      exact hnone node hin hport
    have hhandled : l2mcHandleLagChangeNotification env port data db = ⟨.success, db, 0, []⟩ := by
      unfold l2mcHandleLagChangeNotification
      rw [hmap, hnil]
      rfl
    refine ⟨?_, ?_, [], List.nodup_nil, fun m => ?_, ?_⟩
    · rw [hhandled]
      intro i hi
      cases hi
    · rw [hhandled]
    · refine iff_of_false (by simp) ?_
      rintro ⟨node, hin, -, hport⟩
      exact hnone node hin hport
    · rw [hhandled]
      exact (List.append_nil _).symm

/-! ## Runs -/

theorem MembersMapped.step (h : MembersMapped is_lag db) {c} (hok : L2mcMapOk is_lag c db) :
    MembersMapped is_lag (l2mcStep is_lag c db) := by
  obtain ⟨env, op⟩ := c
  cases op with
  | createGroup attr_count =>
    obtain ⟨hmembers, hmap⟩ := l2mcCreateGroup_apart
    exact h.kept hmembers hmap
  | removeGroup id =>
    obtain ⟨hmembers, hmap⟩ := l2mcRemoveGroup_apart
    exact h.kept hmembers hmap
  | createGroupMember switch_id attr_list => exact h.create hok
  | removeGroupMember id => exact h.removeMember hok
  | checkEntry caller entry attr_list =>
    simp only [l2mcStep, l2mcExec]
    split
    · exact h
    · exact h.kept rfl rfl
  | createEntry caller =>
    simp only [l2mcStep, l2mcExec]
    split
    · exact h
    rename_i node _
    obtain ⟨hmembers, hmap⟩ := l2mcCreateEntryLocked_apart
    exact h.kept hmembers hmap
  | removeEntry entry =>
    obtain ⟨hmembers, hmap⟩ := l2mcRemoveEntry_apart
    exact h.kept hmembers hmap
  | lagChange port data =>
    have hsame : ∀ ids x, MembersSame x.2 (l2mcNotifyMembers env data ids x).2 := by
      intro ids
      induction ids with
      | nil => exact fun x => ⟨rfl, rfl⟩
      | cons m ids ih =>
        intro x
        simp only [l2mcNotifyMembers]
        split
        · exact ⟨rfl, rfl⟩
        split
        · exact call_apart env _ x.2 rfl
        · exact MembersSame.trans (call_apart env _ x.2 rfl) (ih _)
    have hhandled : MembersSame db (l2mcHandleLagChangeNotification env port data db).db := by
      simp only [l2mcHandleLagChangeNotification]
      split
      · exact ⟨rfl, rfl⟩
      split
      · exact ⟨rfl, rfl⟩
      · exact hsame _ (.success, db)
    exact h.kept hhandled.1 hhandled.2

/-- **Any run** of calls that meet the condition: the map holds the live members on LAGs, and a change
of a LAG does what it is to do exactly when no member is on it; where there are members, and memory,
it is told to each of them once, from a list that is written outside of that memory. -/
theorem l2mcMapped_of_run {is_lag : Oid → Bool} {db : L2mcDb}
    (hrun : Run (l2mcStep is_lag) (L2mcMapOk is_lag) .initial db) :
    MapExact is_lag db ∧
    ∀ env port data, is_lag port = true →
      (LagChangeTold env port data db ↔ ∀ node ∈ db.members, node.bridge_port_id ≠ port) ∧
      (env.calloc_none = true → (∀ m, env.Does (.memberLagNotif m data)) →
        (membersOn port db.members).Nodup ∧
        (l2mcHandleLagChangeNotification env port data db).rc = .success ∧
        (l2mcHandleLagChangeNotification env port data db).db.outside_log = db.outside_log ++
          (membersOn port db.members).map fun m => (.memberLagNotif m data, .success)) := by
  have hmapped : MembersMapped is_lag db := by
    refine hrun.induct (P := MembersMapped is_lag) ?_ .initial
    exact fun c _ h hok => h.step hok
  refine ⟨hmapped.exact, fun env port data hlag => ⟨lagChangeTold_iff hmapped env data hlag, ?_⟩⟩
  exact fun hmemory hdoes => ⟨hmapped.nodup_membersOn, lagChange_told hmapped hlag hmemory hdoes⟩

def lagPort5 (port : Oid) : Bool := port = ⟨.bridgePort, 5⟩

/-- Group 7 with member 8 on a bridge port, after others that are named before it. -/
def memberRun (ports : List L2mcMemberAttr) : L2mcDb :=
  l2mcStep lagPort5 ⟨.good ⟨.l2mcGroup, 7⟩ ⟨.l2mcGroupMember, 8⟩,
      .createGroupMember .null (.groupId ⟨.l2mcGroup, 7⟩ :: ports)⟩
    (l2mcStep lagPort5 ⟨.good ⟨.l2mcGroup, 7⟩ ⟨.l2mcGroupMember, 8⟩, .createGroup 0⟩ .initial)

theorem l2mcMapped_of_run_port5 :
    let db := memberRun [.outputId ⟨.bridgePort, 4⟩, .outputId ⟨.bridgePort, 5⟩]
    MapExact lagPort5 db ∧
    ∀ env port data, lagPort5 port = true →
      (LagChangeTold env port data db ↔ ∀ node ∈ db.members, node.bridge_port_id ≠ port) ∧
      (env.calloc_none = true → (∀ m, env.Does (.memberLagNotif m data)) →
        (membersOn port db.members).Nodup ∧
        (l2mcHandleLagChangeNotification env port data db).rc = .success ∧
        (l2mcHandleLagChangeNotification env port data db).db.outside_log = db.outside_log ++
          (membersOn port db.members).map fun m => (.memberLagNotif m data, .success)) := by
  intro db
  refine l2mcMapped_of_run (.snoc _ (.snoc _ (.nil _) trivial) ?_)
  intro group port hattrs
  have hstored := (Prod.mk.inj (Except.ok.inj hattrs)).2
  cases hstored
  exact ⟨fun _ => rfl, fun _ _ => rfl⟩

/-- The LAG is named first and port 4, which is not on it, last: the map holds the member under a
bridge port that is not on a LAG. And the list of one member is written into no memory. -/
theorem not_l2mcMapped_port4 :
    ¬ (∀ db, Run (l2mcStep lagPort5) (fun _ _ => True) .initial db → MapExact lagPort5 db) ∧
    ¬ (∀ db, Run (l2mcStep lagPort5) (fun _ _ => True) .initial db →
      ∀ env data, LagChangeTold env ⟨.bridgePort, 5⟩ data db) := by
  have hrun : ∀ ports, Run (l2mcStep lagPort5) (fun _ _ => True) .initial (memberRun ports) :=
    fun _ => .snoc _ (.snoc _ (.nil _) trivial) trivial
  constructor
  · intro h
    have hexact := h _ (hrun [.outputId ⟨.bridgePort, 5⟩, .outputId ⟨.bridgePort, 4⟩])
    have hport := ((hexact ⟨.bridgePort, 4⟩ ⟨.l2mcGroupMember, 8⟩).mp (by decide)).2
    cases hport
  · intro h
    have htold := h _ (hrun [.outputId ⟨.bridgePort, 5⟩]) (.good .null .null) ⟨.null, [], true⟩
    exact absurd (htold.inside 0 (by decide)) (by decide)

end OpxSai
