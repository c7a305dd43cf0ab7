import OpxSai.Lib.Run
import OpxSai.Switching.L2mc

/-!
# L2 multicast — entries, groups and hardware

Every cached entry names a group that is live, and the keys of the cached entries are the keys that
the hardware has installed. Two calls break this: the remove of a group does not look for entries that
name it, and the create of an entry whose key is there already takes the installed entry away when the
tree refuses the new one.

* `l2mcStep_agree_iff` — a call keeps the property exactly when it meets the condition;
* `l2mcAgree_of_run` — any run.
-/

variable (env : L2mcEnv) (c : L2mcCall) (node : McastEntry) (db : L2mcDb)

namespace OpxSai

open L2mcDb

/-! ## Property and condition -/

structure L2mcAgree (db : L2mcDb) : Prop where
  grouped : ∀ k e, db.entries k = some e → (db.groups e.mcast_group_id).isSome = true
  installed : ∀ k, (db.entries k).isSome = db.hardware k

/-- Every entry that was cached still is, and is installed. -/
def EntriesStay (db db' : L2mcDb) : Prop :=
  ∀ k e, db.entries k = some e → db'.entries k = some e ∧ db'.hardware k = true

/-- A call keeps the property, and where it is the create of an entry and fails, it leaves the entries
that there are. -/
structure L2mcCallRight (is_lag : Oid → Bool) (c : L2mcOpCall) (db : L2mcDb) : Prop where
  agree : L2mcAgree (l2mcStep is_lag c db)
  failed : (∃ caller, c.op = .createEntry caller) → (l2mcExec is_lag c db).1 ≠ .success →
    EntriesStay db (l2mcStep is_lag c db)

/-- What the create of an entry needs when the NPU takes it: the key is new and what the tree refuses
is taken back, or the key is there already and is not taken back. -/
def EntryCreateOk (node : McastEntry) (db : L2mcDb) : Prop :=
  let created := db.call env (.mcastEntryCreate node)
  created.1 = .success →
    if (db.entries node.mcast_key).isSome = true then
      (created.2.call env (.mcastEntryRemove node.mcast_key)).1 ≠ .success
    else
      let inserted := created.2.call env (.mcastEntryInsert node)
      if inserted.1 = .success then (db.groups node.mcast_group_id).isSome = true
      else (inserted.2.call env (.mcastEntryRemove node.mcast_key)).1 = .success

/-- What the remove of a group needs: no cached entry names it, or it is not removed. -/
def GroupRemoveOk (l2mc_group_id : Oid) (db : L2mcDb) : Prop :=
  (∀ k e, db.entries k = some e → e.mcast_group_id ≠ l2mc_group_id) ∨
  (∃ group, db.groups l2mc_group_id = some group ∧ 0 < group.port_count) ∨
  (db.call env (.groupDelete l2mc_group_id)).1 ≠ .success ∨
  ((db.call env (.groupDelete l2mc_group_id)).2.call env (.groupNodeRemove l2mc_group_id)).1 ≠ .success

def L2mcOpOk (c : L2mcOpCall) (db : L2mcDb) : Prop :=
  match c.op with
  | .removeGroup id => GroupRemoveOk c.env id db
  | .createEntry caller =>
    ∀ node, db.checked caller = some node → EntryCreateOk c.env node (db.takeUp caller)
  | _ => True

/-! ## What the calls leave alone -/

structure EntriesSame (db db' : L2mcDb) : Prop where
  entries : db'.entries = db.entries
  hardware : db'.hardware = db.hardware
  groups : ∀ o, (db.groups o).isSome = true → (db'.groups o).isSome = true

namespace EntriesSame

variable {db db' db'' : L2mcDb}

theorem refl (db : L2mcDb) : EntriesSame db db := ⟨rfl, rfl, fun _ h => h⟩

theorem trans (h : EntriesSame db db') (k : EntriesSame db' db'') : EntriesSame db db'' :=
  ⟨k.entries.trans h.entries, k.hardware.trans h.hardware, fun o ho => k.groups o (h.groups o ho)⟩

theorem agree (h : EntriesSame db db') (hagree : L2mcAgree db) : L2mcAgree db' where
  grouped := by
    intro k e he
    rw [h.entries] at he
    exact h.groups _ (hagree.grouped k e he)
  installed := by
    intro k
    rw [h.entries, h.hardware]
    exact hagree.installed k

theorem logged {db} : EntriesSame db (db.logged env c) :=
  ⟨rfl, rfl, fun _ h => h⟩

theorem modGroup (db : L2mcDb) (id) (f : L2mcGroup → L2mcGroup) :
    EntriesSame db (db.modGroup id f) := by
  refine ⟨rfl, rfl, fun o ho => ?_⟩
  show (if o = id then (db.groups o).map f else db.groups o).isSome = true
  split
  · rw [Option.isSome_map]
    exact ho
  · exact ho

end EntriesSame

def L2mcCall.aside : L2mcCall → Bool
  | .groupNodeRemove _ | .mcastEntryCreate _ | .mcastEntryRemove _ | .mcastEntryInsert _ => false
  | _ => true

theorem done_same (h : c.aside = true) : EntriesSame db (db.done c) := by
  cases c with
  | groupNodeRemove | mcastEntryCreate | mcastEntryRemove | mcastEntryInsert => cases h
  | groupAdd id =>
    refine ⟨rfl, rfl, fun o ho => ?_⟩
    show (if o = id then some ⟨id, 0⟩ else db.groups o).isSome = true
    split
    · rfl
    · exact ho
  | memberAdd node =>
    have hgroup := EntriesSame.modGroup { db with members := db.members ++ [node] } node.l2mc_group_id
      fun g => { g with port_count := g.port_count + 1 }
    exact ⟨rfl, rfl, hgroup.groups⟩
  | memberNodeRemove id =>
    simp only [L2mcDb.done]
    split
    · exact .refl db
    rename_i node _
    have hgroup := EntriesSame.modGroup
      { db with members := db.members.filter fun m => m.l2mc_member_id ≠ id } node.l2mc_group_id
      fun g => { g with port_count := g.port_count - 1 }
    exact ⟨rfl, rfl, hgroup.groups⟩
  | groupCreate | groupDelete | memberCreate | memberRemove | mapInsert | mapRemove
  | memberLagNotif => exact ⟨rfl, rfl, fun _ ho => ho⟩

theorem call_same (h : c.aside = true) : EntriesSame db (db.call env c).2 := by
  rcases call_cases env with ⟨-, hdone⟩ | ⟨-, hsame⟩
  · rw [hdone]
    exact (EntriesSame.logged env c).trans (done_same c _ h)
  · rw [hsame]
    exact .logged env c

theorem l2mcCreateGroup_same {attr_count : Nat} {db} :
    EntriesSame db (l2mcCreateGroup env attr_count db).2 := by
  have hadd : ∀ d, EntriesSame d (addL2mcGroupNode env env.npu_l2mc_group_id d).2 := by
    intro d
    unfold addL2mcGroupNode
    split
    · exact .refl d
    · exact call_same env _ d rfl
  simp only [l2mcCreateGroup]
  split
  · exact .refl db
  split
  · exact call_same env _ db rfl
  split
  · exact ((call_same env _ db rfl).trans (hadd _)).trans (call_same env _ _ rfl)
  · exact (call_same env _ db rfl).trans (hadd _)

theorem l2mcCreateGroupMember_same {is_lag : Oid → Bool} {switch_id}
    {attr_list} {db} :
    EntriesSame db (l2mcCreateGroupMember env is_lag switch_id attr_list db).2 := by
  have hlocked : ∀ lag node, EntriesSame db (l2mcCreateGroupMemberLocked env lag node db).2 := by
    intro lag node
    have hadd : ∀ d, EntriesSame d (addL2mcMemberNode env node d).2 := by
      intro d
      unfold addL2mcMemberNode
      split
      · exact .refl d
      · exact call_same env _ d rfl
    simp only [l2mcCreateGroupMemberLocked]
    split
    · exact .refl db
    split
    · exact .refl db
    split
    · exact call_same env _ db rfl
    split
    · exact ((call_same env _ db rfl).trans (hadd _)).trans (call_same env _ _ rfl)
    split
    · exact ((call_same env _ db rfl).trans (hadd _)).trans (call_same env _ _ rfl)
    · exact (call_same env _ db rfl).trans (hadd _)
  unfold l2mcCreateGroupMember
  split
  · exact .refl db
  split
  · exact .refl db
  · exact hlocked _ _
  · exact .refl db

theorem l2mcRemoveGroupMember_same {is_lag : Oid → Bool} {id} {db} :
    EntriesSame db (l2mcRemoveGroupMember env is_lag id db).2 := by
  simp only [l2mcRemoveGroupMember]
  split
  · exact .refl db
  split
  · exact .refl db
  split
  · exact call_same env _ db rfl
  split
  · exact ((call_same env _ db rfl).trans (call_same env _ _ rfl)).trans (call_same env _ _ rfl)
  · exact (call_same env _ db rfl).trans (call_same env _ _ rfl)

theorem l2mcNotifyMembers_same (data) (members) :
    ∀ x : Status × L2mcDb, EntriesSame x.2 (l2mcNotifyMembers env data members x).2 := by
  induction members with
  | nil => exact fun x => .refl x.2
  | cons id members ih =>
    intro x
    simp only [l2mcNotifyMembers]
    split
    · exact .refl x.2
    split
    · exact call_same env _ x.2 rfl
    · exact (call_same env _ x.2 rfl).trans (ih _)

theorem l2mcHandleLagChange_same {port} {data} {db} :
    EntriesSame db (l2mcHandleLagChangeNotification env port data db).db := by
  simp only [l2mcHandleLagChangeNotification]
  split
  · exact .refl db
  split
  · exact .refl db
  · exact l2mcNotifyMembers_same env data _ (.success, db)

theorem l2mcRemoveGroup_cases {id} {db} : EntriesSame db (l2mcRemoveGroup env id db).2 ∧
      (GroupRemoveOk env id db ∨ db.groups id = none) ∨
    ((l2mcRemoveGroup env id db).2.entries = db.entries ∧
      (l2mcRemoveGroup env id db).2.hardware = db.hardware ∧
      (l2mcRemoveGroup env id db).2.groups = (fun o => if o = id then none else db.groups o)) ∧
      (GroupRemoveOk env id db → ∀ k e, db.entries k = some e → e.mcast_group_id ≠ id) := by
  unfold l2mcRemoveGroup
  split
  next hnone => exact .inl ⟨.refl db, .inr hnone⟩
  rename_i group hgroup
  split
  next hcount => exact .inl ⟨.refl db, .inl (.inr (.inl ⟨group, hgroup, hcount⟩))⟩
  rename_i hcount
  simp only
  split
  next hdelete => exact .inl ⟨call_same env _ db rfl, .inl (.inr (.inr (.inl hdelete)))⟩
  rename_i hdelete
  have hsame := call_same env (.groupDelete id) db rfl
  have hdeleted : (db.call env (.groupDelete id)).2 = db.logged env (.groupDelete id) := by
    rcases call_cases env with ⟨-, hdone⟩ | ⟨-, hlog⟩
    · exact hdone
    · exact hlog
  rcases call_cases env with
    ⟨hremove, hdone⟩ | ⟨hremove, hlog⟩
  · refine .inr ⟨?_, ?_⟩
    · rw [hdone, hdeleted]
      exact ⟨rfl, rfl, rfl⟩
    · rintro (hok | ⟨group', hgroup', hpos⟩ | hno | hno)
      · exact hok
      · rw [hgroup] at hgroup'
        cases hgroup'
        exact absurd hpos hcount
      · exact absurd hno hdelete
      · exact absurd hremove hno
  · refine .inl ⟨hsame.trans ?_, .inl (.inr (.inr (.inr hremove)))⟩
    rw [hlog]
    exact .logged env _

/-! ## The create of an entry -/

structure EntryWritten (db db' : L2mcDb) (node : McastEntry) (cached installed : Bool) : Prop where
  groups : db'.groups = db.groups
  entries : ∀ k, db'.entries k = if k = node.mcast_key ∧ cached = true then some node else db.entries k
  hardware : ∀ k, db'.hardware k = if k = node.mcast_key then installed else db.hardware k

theorem call_written : (db.call env (.mcastEntryCreate node)).2.groups = db.groups ∧
    (db.call env (.mcastEntryCreate node)).2.entries = db.entries ∧
    ∀ k, (db.call env (.mcastEntryCreate node)).2.hardware k =
      if k = node.mcast_key ∧ (db.call env (.mcastEntryCreate node)).1 = .success then true
      else db.hardware k := by
  rcases call_cases env with ⟨hok, hdone⟩ | ⟨hok, hlog⟩
  · rw [hdone]
    refine ⟨rfl, rfl, fun k => ?_⟩
    simp only [hok, and_true]
    rfl
  rw [hlog]
  refine ⟨rfl, rfl, fun k => ?_⟩
  rw [if_neg fun hand => hok hand.2]
  rfl

theorem call_taken (key) (db : L2mcDb) :
    (db.call env (.mcastEntryRemove key)).2.groups = db.groups ∧
    (db.call env (.mcastEntryRemove key)).2.entries = db.entries ∧
    ∀ k, (db.call env (.mcastEntryRemove key)).2.hardware k =
      if k = key ∧ (db.call env (.mcastEntryRemove key)).1 = .success then false
      else db.hardware k := by
  rcases call_cases env with ⟨hok, hdone⟩ | ⟨hok, hlog⟩
  · rw [hdone]
    refine ⟨rfl, rfl, fun k => ?_⟩
    simp only [hok, and_true]
    rfl
  rw [hlog]
  refine ⟨rfl, rfl, fun k => ?_⟩
  rw [if_neg fun hand => hok hand.2]
  rfl

theorem call_inserted : (db.call env (.mcastEntryInsert node)).2.groups = db.groups ∧
    (db.call env (.mcastEntryInsert node)).2.hardware = db.hardware ∧
    ∀ k, (db.call env (.mcastEntryInsert node)).2.entries k =
      if k = node.mcast_key ∧ (db.call env (.mcastEntryInsert node)).1 = .success then some node
      else db.entries k := by
  rcases call_cases env with ⟨hok, hdone⟩ | ⟨hok, hlog⟩
  · rw [hdone]
    refine ⟨rfl, rfl, fun k => ?_⟩
    simp only [hok, and_true]
    rfl
  rw [hlog]
  refine ⟨rfl, rfl, fun k => ?_⟩
  rw [if_neg fun hand => hok hand.2]
  rfl

variable {is_lag : Oid → Bool} {db db' : L2mcDb}

/-- **The create of an entry**: the NPU refuses it; it is written; or the tree refuses it, and the key
stays installed exactly when the NPU does not take it back. -/
theorem l2mcCreateEntryLocked_cases {env} {node} {db} :
    let x := l2mcCreateEntryLocked env node db
    (x.1 ≠ .success ∧ EntriesSame db x.2 ∧ EntryCreateOk env node db) ∨
    (x.1 = .success ∧ db.entries node.mcast_key = none ∧ EntryWritten db x.2 node true true ∧
      (EntryCreateOk env node db ↔ (db.groups node.mcast_group_id).isSome = true)) ∨
    (∃ left, x.1 ≠ .success ∧ EntryWritten db x.2 node false left ∧
      (EntryCreateOk env node db ↔ left = (db.entries node.mcast_key).isSome)) := by
  intro x
  obtain ⟨hgroups, hentries, hhardware⟩ := call_written env node db
  generalize ha : db.call _ _ = a at hgroups hentries hhardware
  have hx : x = l2mcCreateEntryLocked env node db := rfl
  simp only [l2mcCreateEntryLocked, ha] at hx
  unfold EntryCreateOk
  simp only [ha]
  by_cases hok : a.1 = .success
  swap
  · rw [if_pos hok] at hx
    rw [hx]
    refine .inl ⟨hok, ⟨hentries, ?_, fun o ho => by rw [hgroups]; exact ho⟩, fun hyes => absurd hyes hok⟩
    funext k
    rw [hhardware, if_neg fun hand => hok hand.2]
  rw [if_ok hok] at hx
  simp only [hok, and_true] at hhardware
  simp only [hok, forall_const]
  unfold insertMcastEntryNode at hx
  rw [hentries] at hx
  cases hkey : db.entries node.mcast_key with
  | some e =>
    simp only [hkey] at hx
    rw [if_pos (by simp)] at hx
    obtain ⟨tgroups, tentries, thardware⟩ := call_taken env node.mcast_key a.2
    generalize a.2.call _ _ = b at hx tgroups tentries thardware
    refine .inr (.inr ⟨decide (b.1 ≠ .success), ?_, ⟨?_, fun k => ?_, fun k => ?_⟩, ?_⟩)
    · rw [hx]
      simp
    · rw [hx]
      exact tgroups.trans hgroups
    · rw [hx, if_neg (by simp)]
      exact congrFun (tentries.trans hentries) k
    · rw [hx, thardware, hhardware]
      by_cases hk : k = node.mcast_key
      · by_cases hb : b.1 = .success <;> simp [hk, hb]
      · simp [hk]
    · simp
  | none =>
    simp only [hkey] at hx
    obtain ⟨igroups, ihardware, ientries⟩ := call_inserted env node a.2
    generalize a.2.call _ _ = b at hx igroups ihardware ientries ⊢
    by_cases hb : b.1 = .success
    · rw [if_ok hb] at hx
      rw [hx]
      refine .inr (.inl ⟨hb, rfl, ⟨igroups.trans hgroups, fun k => ?_, fun k => ?_⟩, by simp [hb]⟩)
      · rw [ientries, hentries]
        simp [hb]
      · rw [ihardware, hhardware]
    rw [if_pos hb] at hx
    obtain ⟨tgroups, tentries, thardware⟩ := call_taken env node.mcast_key b.2
    generalize b.2.call _ _ = c at hx tgroups tentries thardware ⊢
    refine .inr (.inr ⟨decide (c.1 ≠ .success), ?_, ⟨?_, fun k => ?_, fun k => ?_⟩, ?_⟩)
    · rw [hx]
      exact hb
    · rw [hx]
      exact (tgroups.trans igroups).trans hgroups
    · rw [hx, tentries, ientries, if_neg fun hand => hb hand.2, if_neg (by simp), hentries]
    · rw [hx, thardware, ihardware, hhardware]
      by_cases hk : k = node.mcast_key
      · by_cases hc : c.1 = .success <;> simp [hk, hc]
      · simp [hk]
    · simp [hb]

/-! ## One call -/

theorem L2mcAgree.initial : L2mcAgree .initial where
  grouped := by
    intro k e he
    cases he
  installed _ := rfl

theorem EntriesStay.of_same (hagree : L2mcAgree db) (h : EntriesSame db db') : EntriesStay db db' := by
  intro k e he
  rw [h.entries, h.hardware]
  refine ⟨he, ?_⟩
  rw [← hagree.installed k, he]
  rfl

theorem l2mcRemoveGroup_agree_iff (id) {db} (hagree : L2mcAgree db) :
    L2mcAgree (l2mcRemoveGroup env id db).2 ↔ GroupRemoveOk env id db := by
  rcases l2mcRemoveGroup_cases env with ⟨hsame, hok⟩ | ⟨⟨hentries, hhardware, hgroups⟩, hok⟩
  · refine iff_of_true (hsame.agree hagree) ?_
    rcases hok with hok | hnone
    · exact hok
    -- an entry that names the group would name one that is not live
    refine .inl fun k e he hid => ?_
    have hlive := hagree.grouped k e he
    rw [hid, hnone] at hlive
    cases hlive
  · constructor
    · intro h
      refine .inl fun k e he hid => ?_
      have hlive := h.grouped k e (hentries ▸ he)
      rw [hgroups, hid] at hlive
      simp at hlive
    · intro h
      refine ⟨fun k e he => ?_, fun k => ?_⟩
      · rw [hentries] at he
        rw [hgroups]
        show (if e.mcast_group_id = id then none else db.groups e.mcast_group_id).isSome = true
        rw [if_neg (hok h k e he)]
        exact hagree.grouped k e he
      · rw [hentries, hhardware]
        exact hagree.installed k

theorem EntryWritten.agree_iff {node} {cached left : Bool}
    (h : EntryWritten db db' node cached left) (hagree : L2mcAgree db) :
    L2mcAgree db' ↔
      (cached = true → (db.groups node.mcast_group_id).isSome = true) ∧
      left = (cached || (db.entries node.mcast_key).isSome) := by
  constructor
  · intro h'
    refine ⟨fun hcached => ?_, ?_⟩
    · have hlive := h'.grouped _ _ (by rw [h.entries, if_pos ⟨rfl, hcached⟩])
      rwa [h.groups] at hlive
    · have hkey := h'.installed node.mcast_key
      rw [h.entries, h.hardware] at hkey
      cases cached with
      | true => simpa using hkey.symm
      | false => simpa using hkey.symm
  · rintro ⟨hgroup, hleft⟩
    refine ⟨fun k e he => ?_, fun k => ?_⟩
    · rw [h.groups]
      rw [h.entries] at he
      split at he
      next hk =>
        cases he
        exact hgroup hk.2
      · exact hagree.grouped k e he
    · rw [h.entries, h.hardware]
      by_cases hk : k = node.mcast_key
      · rw [if_pos hk, hk, hleft]
        cases cached with
        | true => simp
        | false => simp
      · rw [if_neg hk, if_neg fun hand => hk hand.1]
        exact hagree.installed k

theorem EntryWritten.stay {node} {left : Bool}
    (h : EntryWritten db db' node false left) (hagree : L2mcAgree db)
    (hleft : left = (db.entries node.mcast_key).isSome) : EntriesStay db db' := by
  intro k e he
  rw [h.entries, h.hardware, if_neg (by simp)]
  refine ⟨he, ?_⟩
  by_cases hk : k = node.mcast_key
  · rw [if_pos hk, hleft, ← hk, he]
    rfl
  · rw [if_neg hk, ← hagree.installed k, he]
    rfl

theorem l2mcCreateEntryLocked_agree_iff (hagree : L2mcAgree db) :
    (L2mcAgree (l2mcCreateEntryLocked env node db).2 ∧
      ((l2mcCreateEntryLocked env node db).1 ≠ .success →
        EntriesStay db (l2mcCreateEntryLocked env node db).2)) ↔ EntryCreateOk env node db := by
  rcases l2mcCreateEntryLocked_cases with
    ⟨-, hsame, hok⟩ | ⟨hsucc, -, hwritten, hiff⟩ | ⟨left, -, hwritten, hiff⟩
  · exact iff_of_true ⟨hsame.agree hagree, fun _ => .of_same hagree hsame⟩ hok
  · rw [hiff, hwritten.agree_iff hagree]
    constructor
    · exact fun h => h.1.1 rfl
    · exact fun h => ⟨⟨fun _ => h, rfl⟩, fun hno => absurd hsucc hno⟩
  · rw [hiff, hwritten.agree_iff hagree]
    constructor
    · exact fun h => h.1.2
    · exact fun h => ⟨⟨fun hno => (by cases hno), h⟩, fun _ => hwritten.stay hagree h⟩

theorem l2mcRemoveEntry_agree {entry} {db}
    (hagree : L2mcAgree db) : L2mcAgree (l2mcRemoveEntry env entry db).2 := by
  simp only [l2mcRemoveEntry]
  split
  · exact hagree
  obtain ⟨hgroups, hentries, hhardware⟩ := call_taken env _ db
  generalize db.call _ _ = a at hgroups hentries hhardware ⊢
  split
  next hok =>
    have hsame : EntriesSame db a.2 := by
      refine ⟨hentries, funext fun k => ?_, fun o ho => by rw [hgroups]; exact ho⟩
      rw [hhardware, if_neg fun hand => hok hand.2]
    exact hsame.agree hagree
  rename_i hok
  have hsucc : a.1 = .success := not_not.mp hok
  refine ⟨fun k e he => ?_, fun k => ?_⟩
  · change (if k = _ then none else a.2.entries k) = some e at he
    show (a.2.groups e.mcast_group_id).isSome = true
    split at he
    · cases he
    rw [hentries] at he
    rw [hgroups]
    exact hagree.grouped k e he
  · show (if k = _ then none else a.2.entries k).isSome = a.2.hardware k
    rw [hhardware, hentries]
    by_cases hk : k = (l2mcEntryNodeInit entry).mcast_key
    · rw [if_pos hk, if_pos ⟨hk, hsucc⟩]
      rfl
    · rw [if_neg hk, if_neg fun hand => hk hand.1]
      exact hagree.installed k

theorem l2mcStep_agree_iff (hagree : L2mcAgree db)
    (c : L2mcOpCall) : L2mcCallRight is_lag c db ↔ L2mcOpOk c db := by
  obtain ⟨env, op⟩ := c
  have haside : (∀ caller, op ≠ .createEntry caller) → L2mcAgree (l2mcStep is_lag ⟨env, op⟩ db) →
      L2mcCallRight is_lag ⟨env, op⟩ db := by
    intro hop h
    exact ⟨h, fun hex => absurd hex.choose_spec (hop _)⟩
  cases op with
  | createGroup attr_count =>
    exact iff_of_true (haside (by simp) ((l2mcCreateGroup_same env).agree hagree)) trivial
  | createGroupMember switch_id attr_list =>
    exact iff_of_true (haside (by simp)
      ((l2mcCreateGroupMember_same env).agree hagree)) trivial
  | removeGroupMember id =>
    exact iff_of_true (haside (by simp)
      ((l2mcRemoveGroupMember_same env).agree hagree)) trivial
  | lagChange port data =>
    exact iff_of_true (haside (by simp) ((l2mcHandleLagChange_same env).agree hagree)) trivial
  | removeEntry entry =>
    exact iff_of_true (haside (by simp) (l2mcRemoveEntry_agree env hagree)) trivial
  | checkEntry caller entry attr_list =>
    refine iff_of_true (haside (by simp) ?_) trivial
    simp only [l2mcStep, l2mcExec]
    split
    · exact hagree
    · exact ⟨hagree.grouped, hagree.installed⟩
  | removeGroup id =>
    have hiff := l2mcRemoveGroup_agree_iff env id hagree
    exact ⟨fun h => hiff.mp h.agree, fun h => haside (by simp) (hiff.mpr h)⟩
  | createEntry caller =>
    cases hchecked : db.checked caller with
    | none =>
      have hexec : l2mcExec is_lag ⟨env, .createEntry caller⟩ db = (.success, db) := by
        simp only [l2mcExec, hchecked]
      refine iff_of_true ⟨?_, fun _ hno => absurd (by rw [hexec]) hno⟩ ?_
      · unfold l2mcStep
        rw [hexec]
        exact hagree
      · intro node hnode
        rw [hchecked] at hnode
        cases hnode
    | some node =>
      have hexec : l2mcExec is_lag ⟨env, .createEntry caller⟩ db =
          l2mcCreateEntryLocked env node (db.takeUp caller) := by
        simp only [l2mcExec, hchecked]
      have hiff := @l2mcCreateEntryLocked_agree_iff env node (db.takeUp caller)
        ⟨hagree.grouped, hagree.installed⟩
      constructor
      · intro h node' hnode'
        rw [hchecked] at hnode'
        cases hnode'
        have hagree' := h.agree
        have hfailed := h.failed ⟨caller, rfl⟩
        unfold l2mcStep at hagree' hfailed
        rw [hexec] at hagree' hfailed
        exact hiff.mp ⟨hagree', hfailed⟩
      · intro h
        obtain ⟨hagree', hfailed⟩ := hiff.mpr (h node hchecked)
        refine ⟨?_, fun _ => ?_⟩
        · unfold l2mcStep
          rw [hexec]
          exact hagree'
        · unfold l2mcStep
          rw [hexec]
          exact hfailed

/-! ## Runs -/

/-- **Any run** of calls that meet the condition, one or another of them between the halves of a
create: cache, groups and hardware agree, and the next call keeps it so, and leaves the entries when it
is a create that fails, exactly when it meets the condition too. -/
theorem l2mcAgree_of_run (hrun : Run (l2mcStep is_lag) L2mcOpOk .initial db) :
    L2mcAgree db ∧ ∀ c, L2mcCallRight is_lag c db ↔ L2mcOpOk c db := by
  have hagree : L2mcAgree db := by
    refine hrun.induct (P := L2mcAgree) ?_ .initial
    exact fun c _ h hok => ((l2mcStep_agree_iff h c).mpr hok).agree
  exact ⟨hagree, l2mcStep_agree_iff hagree⟩

def L2mcEnv.seven : L2mcEnv := .good ⟨.l2mcGroup, 7⟩ ⟨.l2mcGroupMember, 8⟩

def vlan10Entry : L2mcEntry :=
  ⟨.null, 10, .xg, .ip4 0xEF010101, .ip4 0⟩

def toGroup7 : List L2mcEntryAttr := [.packetAction 1, .outputGroupId ⟨.l2mcGroup, 7⟩]

def entryRun : L2mcDb :=
  l2mcStep (fun _ => false) ⟨.seven, .createEntry 0⟩
    (l2mcStep (fun _ => false) ⟨.seven, .checkEntry 0 vlan10Entry toGroup7⟩
      (l2mcStep (fun _ => false) ⟨.seven, .createGroup 0⟩ .initial))

theorem entryRun_run : Run (l2mcStep fun _ => false) L2mcOpOk .initial entryRun := by
  refine .snoc _ (.snoc _ (.snoc _ (.nil _) trivial) trivial) ?_
  intro node hnode
  cases hnode
  intro _
  decide

theorem l2mcAgree_of_run_vlan10 :
    L2mcAgree entryRun ∧ ∀ c, L2mcCallRight (fun _ => false) c entryRun ↔ L2mcOpOk c entryRun :=
  l2mcAgree_of_run entryRun_run

/-- The entry is created again: the tree refuses it, and the installed entry is taken out of the
hardware. And its group, which has no members, is removed under it. -/
theorem not_l2mcAgree_vlan10 :
    ¬ (∀ db, Run (l2mcStep fun _ => false) (fun _ _ => True) .initial db → L2mcAgree db) ∧
    ¬ L2mcAgree (l2mcStep (fun _ => false) ⟨.seven, .removeGroup ⟨.l2mcGroup, 7⟩⟩ entryRun) := by
  have hrun : Run (l2mcStep fun _ => false) (fun _ _ => True) .initial entryRun :=
    entryRun_run.mono fun _ _ _ => trivial
  constructor
  · intro h
    have hagain := h _ (.snoc ⟨.seven, .createEntry 1⟩
      (.snoc ⟨.seven, .checkEntry 1 vlan10Entry toGroup7⟩ hrun trivial) trivial)
    exact absurd (hagain.installed (l2mcEntryNodeInit vlan10Entry).mcast_key) (by decide)
  · intro h
    have hgroup := h.grouped (l2mcEntryNodeInit vlan10Entry).mcast_key
      { l2mcEntryNodeInit vlan10Entry with action := .forward, mcast_group_id := ⟨.l2mcGroup, 7⟩ } (by decide)
    cases hgroup

end OpxSai
