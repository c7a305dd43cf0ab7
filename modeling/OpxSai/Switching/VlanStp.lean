import OpxSai.Lib.Run
import OpxSai.Switching.Vlan

/-!
# VLANs and their STP instances

A VLAN that there is belongs to one STP instance: the one that the map names, and whose tree has it.
Calls that fail half-way leave VLANs that are in no instance, and the map names one all the same, or
it names none and the VLAN is still there.

* `VlanOpOk` — the condition: no step fails behind one that is not taken back;
* `vlansInOneInstance_of_run` — the main result.
-/

variable {g_def_stp_id : Oid} {l3 : Option (Oid × VlanId)} {mask : Nat}

namespace OpxSai

open StpDb

variable {v : VlanId} {db : VlanDb} {s : Oid} {env : StpEnv} {vlan_obj_id : Oid}
variable {attr_list : List VlanAttr}

/-! ## Trees and map -/

def StpDb.InTree (db : StpDb) (s : Oid) (v : VlanId) : Prop :=
  ∃ info, db.stp_info_tree s = some info ∧ v ∈ info.vlan_tree

def StpDb.Live (db : StpDb) (s : Oid) : Prop := (db.stp_info_tree s).isSome

structure StpSame (db db' : StpDb) : Prop where
  tree : db'.stp_info_tree = db.stp_info_tree
  map : db'.g_stp_vlan_map = db.g_stp_vlan_map
  deft : db'.g_def_stp_id = db.g_def_stp_id

theorem StpSame.refl (db) : StpSame db db := ⟨rfl, rfl, rfl⟩

theorem StpSame.trans {a b c} (hab : StpSame a b) (hbc : StpSame b c) : StpSame a c :=
  ⟨hbc.tree.trans hab.tree, hbc.map.trans hab.map, hbc.deft.trans hab.deft⟩

theorem StpSame.call (env) (c) (db) : StpSame db (db.call env c).2 :=
  ⟨rfl, rfl, rfl⟩

theorem StpSame.insert (env) (c) (taken : Bool) (db) :
    StpSame db (db.insert env c taken).2 := by
  unfold StpDb.insert
  split
  · exact .refl db
  · exact .call env c db

theorem StpSame.inTree {db db'} (h : StpSame db db') (s) (v) :
    db'.InTree s v ↔ db.InTree s v := by
  unfold StpDb.InTree
  rw [h.tree]

theorem StpSame.live {db db'} (h : StpSame db db') : db'.Live s ↔ db.Live s := by
  unfold StpDb.Live
  rw [h.tree]

/-- A VLAN has been put into a tree, or taken out of one: the instances are those there were, and so
is the map. -/
structure TreesMoved (db db' : StpDb) (inTree : Oid → VlanId → Prop) : Prop where
  inTree : ∀ s v, db'.InTree s v ↔ inTree s v
  live : ∀ s, db'.Live s ↔ db.Live s
  map : db'.g_stp_vlan_map = db.g_stp_vlan_map
  deft : db'.g_def_stp_id = db.g_def_stp_id

theorem TreesMoved.setInfo {db a} (hsame : StpSame db a) {info}
    (info') (hinfo : db.stp_info_tree s = some info) :
    TreesMoved db (a.setInfo s (some info')) (fun t w => if t = s then w ∈ info'.vlan_tree else db.InTree t w):= by
  refine ⟨fun t w => ?_, fun t => ?_, hsame.map, hsame.deft⟩
  · unfold StpDb.InTree StpDb.setInfo
    by_cases ht : t = s
    · simp [ht]
    · simp [ht, hsame.tree]
  · unfold StpDb.Live StpDb.setInfo
    by_cases ht : t = s
    · simp [ht, hinfo]
    · simp [ht, hsame.tree]

/-- **A VLAN is added**: it fails with nothing changed, or the VLAN is in one more tree. -/
theorem stpVlanAdd_cases (env) (s) (v) (db) :
    ((stpVlanAdd env s v db).1 ≠ .success ∧ StpSame db (stpVlanAdd env s v db).2) ∨
    ((stpVlanAdd env s v db).1 = .success ∧ db.Live s ∧ ¬ db.InTree s v ∧
      TreesMoved db (stpVlanAdd env s v db).2 fun t w => db.InTree t w ∨ (t = s ∧ w = v)) := by
  simp only [stpVlanAdd]
  split
  · exact .inl ⟨by simp, .refl db⟩
  split
  · exact .inl ⟨by simp, .refl db⟩
  rename_i info hinfo
  split
  · exact .inl ⟨by simp, .refl db⟩
  rename_i hnot
  have hnode := StpSame.call env .vlanNode db
  split
  · exact .inl ⟨by simp, hnode⟩
  have hadd := hnode.trans (.call env (.vlanAdd s v) _)
  split
  next hfail => exact .inl ⟨hfail, hadd⟩
  have htree := hadd.trans (.insert env (.vlanTree s v) false _)
  split
  · exact .inl ⟨by simp, htree.trans (.call env (.vlanRemove s v) _)⟩
  refine .inr ⟨rfl, by simp [StpDb.Live, hinfo], ?_, ?_⟩
  · rintro ⟨info', hinfo', hin⟩
    rw [hinfo] at hinfo'
    cases hinfo'
    exact hnot hin
  · have hmoved := TreesMoved.setInfo htree { info with vlan_tree := v :: info.vlan_tree } hinfo
    refine ⟨fun t w => (hmoved.inTree t w).trans ?_, hmoved.live, hmoved.map, hmoved.deft⟩
    by_cases ht : t = s
    · subst ht
      simp [StpDb.InTree, hinfo, or_comm]
    · simp [ht]

/-- **A VLAN is removed** from an instance: it fails with nothing changed, or the VLAN was in the
tree and is not any more. -/
theorem stpVlanRemove_cases {db} :
    ((stpVlanRemove env s v db).1 ≠ .success ∧ StpSame db (stpVlanRemove env s v db).2) ∨
    ((stpVlanRemove env s v db).1 = .success ∧ s.type = .stp ∧ db.InTree s v ∧
      TreesMoved db (stpVlanRemove env s v db).2 fun t w => db.InTree t w ∧ ¬(t = s ∧ w = v)) := by
  simp only [stpVlanRemove]
  split
  · exact .inl ⟨by simp, .refl db⟩
  rename_i htype
  split
  · exact .inl ⟨by simp, .refl db⟩
  rename_i info hinfo
  split
  · exact .inl ⟨by simp, .refl db⟩
  rename_i hin
  have hremove := StpSame.call env (.vlanRemove s v) db
  split
  next hfail => exact .inl ⟨hfail, hremove⟩
  refine .inr ⟨rfl, not_not.mp htype, ⟨info, hinfo, not_not.mp hin⟩, ?_⟩
  have hmoved := TreesMoved.setInfo hremove
    { info with vlan_tree := info.vlan_tree.filter (· ≠ v) } hinfo
  refine ⟨fun t w => (hmoved.inTree t w).trans ?_, hmoved.live, hmoved.map, hmoved.deft⟩
  by_cases ht : t = s
  · subst ht
    simp [StpDb.InTree, hinfo]
  · simp [ht]

/-! ## Agreement -/

/-- The map names the instance that has a VLAN in its tree. -/
structure StpAgree (db : StpDb) : Prop where
  map_iff : ∀ v s, s ≠ .null → (db.g_stp_vlan_map v = s ↔ db.InTree s v)
  typed : ∀ s, db.Live s → s.type = .stp

namespace StpAgree

variable {db db' : StpDb}

theorem congr (h : StpAgree db) (hsame : StpSame db db') : StpAgree db' := by
  refine ⟨fun v s hs => ?_, fun s hs => h.typed s (hsame.live.mp hs)⟩
  rw [hsame.map, hsame.inTree]
  exact h.map_iff v s hs

theorem not_live_null (h : StpAgree db) : ¬ db.Live .null := by
  intro hlive
  exact absurd (h.typed _ hlive) (by decide)

theorem live_of_inTree (h : db.InTree s v) : db.Live s := by
  obtain ⟨info, hinfo, -⟩ := h
  simp [StpDb.Live, hinfo]

theorem ne_null (h : StpAgree db) (hin : db.InTree s v) : s ≠ .null := by
  rintro rfl
  exact h.not_live_null (live_of_inTree hin)

/-- A VLAN is in the tree of the instance that the map names, and in no other. -/
theorem map_of_inTree (h : StpAgree db) (hin : db.InTree s v) :
    db.g_stp_vlan_map v = s :=
  (h.map_iff v s (h.ne_null hin)).mpr hin

theorem inTree_map (h : StpAgree db) (hv : db.g_stp_vlan_map v ≠ .null) :
    db.InTree (db.g_stp_vlan_map v) v :=
  (h.map_iff v _ hv).mp rfl

theorem moved (h : StpAgree db) (v) (new)
    (hin : ∀ t w, db'.InTree t w ↔ if w = v then t = new ∧ new ≠ .null else db.InTree t w)
    (hlive : ∀ s, db'.Live s ↔ db.Live s)
    (hmap : ∀ w, db'.g_stp_vlan_map w = if w = v then new else db.g_stp_vlan_map w) :
    StpAgree db' := by
  refine ⟨fun w s hs => ?_, fun s hs => h.typed s ((hlive s).mp hs)⟩
  rw [hmap, hin]
  by_cases hw : w = v
  · rw [if_pos hw, if_pos hw]
    constructor
    · rintro rfl
      exact ⟨rfl, hs⟩
    · rintro ⟨rfl, -⟩
      rfl
  · rw [if_neg hw, if_neg hw]
    exact h.map_iff w s hs

end StpAgree

theorem stpVlanDestroy_cases (env) (v) {db} (h : StpAgree db) :
    ((stpVlanDestroy env v db).1 ≠ .success ∧ StpSame db (stpVlanDestroy env v db).2) ∨
    ((stpVlanDestroy env v db).1 = .success ∧ StpAgree (stpVlanDestroy env v db).2 ∧
      (∀ w, (stpVlanDestroy env v db).2.g_stp_vlan_map w =
        if w = v then .null else db.g_stp_vlan_map w) ∧
      (stpVlanDestroy env v db).2.g_def_stp_id = db.g_def_stp_id) := by
  simp only [stpVlanDestroy]
  rcases stpVlanRemove_cases with ⟨hfail, hsame⟩ | ⟨hok, -, -, hmoved⟩
  · rw [if_pos hfail]
    exact .inl ⟨hfail, hsame⟩
  rw [if_ok hok]
  have hmap : ∀ w, ((stpVlanRemove env (db.g_stp_vlan_map v) v db).2.setVlanMap v
      .null).g_stp_vlan_map w = if w = v then .null else db.g_stp_vlan_map w := by
    intro w
    show (if w = v then _ else _) = _
    rw [hmoved.map]
  refine .inr ⟨rfl, h.moved v .null (fun t w => ?_) hmoved.live hmap, hmap, hmoved.deft⟩
  refine (hmoved.inTree t w).trans ?_
  by_cases hw : w = v
  · subst hw
    rw [if_pos rfl]
    refine iff_of_false ?_ (by simp)
    rintro ⟨hin, hne⟩
    exact hne ⟨(h.map_of_inTree hin).symm, rfl⟩
  · simp [hw]

theorem StpAgree.enters {db} (h : StpAgree db)
    (hnone : db.g_stp_vlan_map v = .null) (hok : (stpVlanAdd env s v db).1 = .success) :
    StpAgree ((stpVlanAdd env s v db).2.setVlanMap v s) ∧ s ≠ .null := by
  rcases stpVlanAdd_cases env s v db with ⟨hfail, -⟩ | ⟨-, hlive, -, hmoved⟩
  · exact absurd hok hfail
  have hs : s ≠ .null := by
    rintro rfl
    exact h.not_live_null hlive
  refine ⟨h.moved v s (fun t w => ?_) hmoved.live (fun w => ?_), hs⟩
  · refine (hmoved.inTree t w).trans ?_
    by_cases hw : w = v
    · subst hw
      rw [if_pos rfl]
      constructor
      · rintro (hin | ⟨rfl, -⟩)
        · exact absurd hnone (h.map_of_inTree hin ▸ h.ne_null hin)
        · exact ⟨rfl, hs⟩
      · rintro ⟨rfl, -⟩
        exact .inr ⟨rfl, rfl⟩
    · simp [hw]
  · show (if w = v then _ else _) = _
    rw [hmoved.map]

/-- **The update to the default instance**: when it succeeds, the VLAN is in an instance; when it
fails, the VLAN is where it was, or it is in none. -/
theorem stpDefaultStpVlanUpdate_cases {db} (h : StpAgree db) :
    StpAgree (stpDefaultStpVlanUpdate env v db).2 ∧
    (∀ w, w ≠ v → (stpDefaultStpVlanUpdate env v db).2.g_stp_vlan_map w = db.g_stp_vlan_map w) ∧
    ((stpDefaultStpVlanUpdate env v db).1 = .success →
      (stpDefaultStpVlanUpdate env v db).2.g_stp_vlan_map v ≠ .null) := by
  -- the VLAN leaves the instance it may be in
  have hleave : ∀ x, (if db.g_stp_vlan_map v ≠ .null then stpVlanDestroy env v db
      else (.success, db)) = x →
      (x.1 ≠ .success ∧ StpSame db x.2) ∨ (x.1 = .success ∧ StpAgree x.2 ∧
        x.2.g_stp_vlan_map v = .null ∧ ∀ w, w ≠ v → x.2.g_stp_vlan_map w = db.g_stp_vlan_map w) := by
    rintro x rfl
    by_cases hv : db.g_stp_vlan_map v ≠ .null
    · rw [if_pos hv]
      rcases stpVlanDestroy_cases env v h with hfail | ⟨hok, hagree, hmap, -⟩
      · exact .inl hfail
      · exact .inr ⟨hok, hagree, (hmap v).trans (if_pos rfl),
          fun w hw => (hmap w).trans (if_neg hw)⟩
    · rw [if_neg hv]
      exact .inr ⟨rfl, h, not_not.mp hv, fun _ _ => rfl⟩
  simp only [stpDefaultStpVlanUpdate]
  generalize hx : (if db.g_stp_vlan_map v ≠ .null then stpVlanDestroy env v db
    else (.success, db)) = x
  rcases hleave x hx with ⟨hfail, hsame⟩ | ⟨hok, hagree, hnull, hother⟩
  · rw [if_pos hfail]
    exact ⟨h.congr hsame, fun w _ => by rw [hsame.map], fun hyes => absurd hyes hfail⟩
  rw [if_ok hok]
  by_cases hadd : (stpVlanAdd env x.2.g_def_stp_id v x.2).1 = .success
  · rw [if_ok hadd]
    have hdeft : (stpVlanAdd env x.2.g_def_stp_id v x.2).2.g_def_stp_id = x.2.g_def_stp_id := by
      rcases stpVlanAdd_cases env _ v x.2 with ⟨-, hsame⟩ | ⟨-, -, -, hmoved⟩
      · exact hsame.deft
      · exact hmoved.deft
    have hmap : (stpVlanAdd env x.2.g_def_stp_id v x.2).2.g_stp_vlan_map = x.2.g_stp_vlan_map := by
      rcases stpVlanAdd_cases env _ v x.2 with ⟨-, hsame⟩ | ⟨-, -, -, hmoved⟩
      · exact hsame.map
      · exact hmoved.map
    rw [hdeft]
    obtain ⟨henters, hne⟩ := hagree.enters hnull hadd
    refine ⟨henters, fun w hw => ?_, fun _ => ?_⟩
    · show (if w = v then _ else _) = _
      rw [if_neg hw, hmap]
      exact hother w hw
    · show (if v = v then _ else _) ≠ _
      rw [if_pos rfl]
      exact hne
  · rw [if_pos hadd]
    rcases stpVlanAdd_cases env _ v x.2 with ⟨-, hsame⟩ | ⟨hyes, -⟩
    · refine ⟨hagree.congr hsame, fun w hw => ?_, fun hyes => absurd hyes hadd⟩
      rw [hsame.map]
      exact hother w hw
    · exact absurd hyes hadd

/-- The condition on a move: when the new instance does not take the VLAN, the old one takes it
back. -/
def StpHandleOk (env : StpEnv) (v : VlanId) (s : Oid) (db : StpDb) : Prop :=
  let a := stpVlanRemove env (db.g_stp_vlan_map v) v db
  let b := stpVlanAdd env s v a.2
  stpIsValidStpInstance s db = true → a.1 = .success → b.1 ≠ .success →
    (stpVlanAdd env (db.g_stp_vlan_map v) v b.2).1 = .success

theorem stpVlanHandle_cases {db} (h : StpAgree db) (hok : StpHandleOk env v s db) :
    StpAgree (stpVlanHandle env v s db).2 ∧
    (∀ w, w ≠ v → (stpVlanHandle env v s db).2.g_stp_vlan_map w = db.g_stp_vlan_map w) ∧
    (db.g_stp_vlan_map v ≠ .null → (stpVlanHandle env v s db).2.g_stp_vlan_map v ≠ .null) := by
  have hsame : ∀ db', StpSame db db' → StpAgree db' ∧
      (∀ w, w ≠ v → db'.g_stp_vlan_map w = db.g_stp_vlan_map w) ∧
      (db.g_stp_vlan_map v ≠ .null → db'.g_stp_vlan_map v ≠ .null) := by
    intro db' hs
    rw [hs.map]
    exact ⟨h.congr hs, fun _ _ => rfl, id⟩
  simp only [stpVlanHandle]
  by_cases hvalid : stpIsValidStpInstance s db = true
  · rw [if_neg (by simp [hvalid])]
    have hrestore := hok hvalid
    rcases stpVlanRemove_cases with
      ⟨hfail, hs⟩ | ⟨hremoved, htype, hin, hmoved⟩
    · rw [if_pos hfail]
      exact hsame _ hs
    rw [if_ok hremoved]
    have hold : db.g_stp_vlan_map v ≠ .null := h.ne_null hin
    generalize stpVlanRemove _ _ v _ = a at hremoved hmoved hrestore ⊢
    rcases stpVlanAdd_cases env s v a.2 with ⟨hfail, hs⟩ | ⟨hadd, hlive, -, hmoved'⟩
    · rw [if_pos hfail]
      have hback := hrestore hremoved hfail
      generalize stpVlanAdd _ s v _ = b at hfail hs hback ⊢
      rw [hs.map, hmoved.map]
      rcases stpVlanAdd_cases env _ v b.2 with
        ⟨hno, -⟩ | ⟨-, -, -, hmoved'⟩
      · exact absurd hback hno
      have hmap : (stpVlanAdd env (db.g_stp_vlan_map v) v b.2).2.g_stp_vlan_map =
          db.g_stp_vlan_map := by
        rw [hmoved'.map, hs.map, hmoved.map]
      rw [hmap]
      refine ⟨⟨fun w t ht => ?_, fun t ht => ?_⟩, fun _ _ => rfl, id⟩
      · rw [hmap, hmoved'.inTree, hs.inTree, hmoved.inTree, h.map_iff w t ht]
        constructor
        · intro hw
          by_cases hthis : t = db.g_stp_vlan_map v ∧ w = v
          · exact .inr hthis
          · exact .inl ⟨hw, hthis⟩
        · rintro (⟨hw, -⟩ | ⟨rfl, rfl⟩)
          · exact hw
          · exact hin
      · exact h.typed t ((hmoved.live t).mp (hs.live.mp ((hmoved'.live t).mp ht)))
    · rw [if_ok hadd]
      have hlive' : db.Live s := (hmoved.live s).mp hlive
      have hne : s ≠ .null := by
        rintro rfl
        exact h.not_live_null hlive'
      have hmap : ∀ w, ((stpVlanAdd env s v a.2).2.setVlanMap v s).g_stp_vlan_map w =
          if w = v then s else db.g_stp_vlan_map w := by
        intro w
        show (if w = v then _ else _) = _
        rw [hmoved'.map, hmoved.map]
      refine ⟨h.moved v s (fun t w => ?_)
        (fun t => (hmoved'.live t).trans (hmoved.live t)) hmap, fun w hw => ?_, fun _ => ?_⟩
      · refine (hmoved'.inTree t w).trans ?_
        rw [hmoved.inTree]
        by_cases hw : w = v
        · subst hw
          rw [if_pos rfl]
          constructor
          · rintro (⟨hin', hnot⟩ | ⟨rfl, -⟩)
            · exact absurd ⟨(h.map_of_inTree hin').symm, rfl⟩ hnot
            · exact ⟨rfl, hne⟩
          · rintro ⟨rfl, -⟩
            exact .inr ⟨rfl, rfl⟩
        · simp [hw]
      · rw [hmap, if_neg hw]
      · rw [hmap, if_pos rfl]
        exact hne
  · rw [if_pos (by simp [hvalid])]
    exact hsame db (.refl db)

/-! ## Instances -/

/-- **An instance is created**: nothing changes, or there is one more, without VLANs and ports. -/
theorem stpInstanceCreate_cases {attr_count : Nat} {db} :
    ((stpInstanceCreate env attr_count db).1 ≠ .success ∧
      StpSame db (stpInstanceCreate env attr_count db).2) ∨
    ∃ p, db.stp_info_tree (uoidCreate .stp env.npu_object_id) = none ∧
      StpSame (db.setInfo (uoidCreate .stp env.npu_object_id) (some ⟨p, [], [], 0⟩))
        (stpInstanceCreate env attr_count db).2 := by
  simp only [stpInstanceCreate]
  split
  · exact .inl ⟨by simp, .refl db⟩
  have hnode := StpSame.call env .infoNode db
  split
  · exact .inl ⟨by simp, hnode⟩
  have hcreate := hnode.trans (.call env .instanceCreate _)
  split
  next hfail => exact .inl ⟨hfail, hcreate⟩
  generalize (db.call env .infoNode).2.call _ _ = b at hcreate ⊢
  have htree := hcreate.trans (.insert env (.infoTree (uoidCreate .stp env.npu_object_id))
    (b.2.stp_info_tree (uoidCreate .stp env.npu_object_id)).isSome _)
  split
  · exact .inl ⟨by simp, htree.trans (.call env _ _)⟩
  rename_i hinserted
  have hfresh : db.stp_info_tree (uoidCreate .stp env.npu_object_id) = none := by
    cases hold : db.stp_info_tree (uoidCreate .stp env.npu_object_id) with
    | none => rfl
    | some info =>
      refine absurd ?_ hinserted
      rw [hcreate.tree, hold]
      simp [StpDb.insert]
  have hvlans := htree.trans (.call env .vlanTreeCreate _)
  split
  · exact .inl ⟨by simp, hvlans.trans (.call env _ _)⟩
  have hports := hvlans.trans (.call env .portTreeCreate _)
  split
  · exact .inl ⟨by simp, hports.trans (.call env _ _)⟩
  generalize (((b.2.insert env (.infoTree (uoidCreate .stp env.npu_object_id)) (b.2.stp_info_tree
      (uoidCreate .stp env.npu_object_id)).isSome).2.call env .vlanTreeCreate).2.call _ _).2 = e
    at hports ⊢
  refine .inr ⟨e.next_node, hfresh, ⟨?_, hports.map, hports.deft⟩⟩
  funext t
  show (if t = _ then _ else _) = if t = _ then _ else _
  rw [hports.tree]

/-- **An instance is removed**: nothing changes, or one without VLANs and ports is gone. -/
theorem stpInstanceRemove_cases {db} :
    ((stpInstanceRemove env s db).1 ≠ .success ∧ StpSame db (stpInstanceRemove env s db).2) ∨
    ∃ info, db.stp_info_tree s = some info ∧ info.vlan_tree = [] ∧ info.num_ports = 0 ∧
      StpSame (db.setInfo s none) (stpInstanceRemove env s db).2 := by
  simp only [stpInstanceRemove]
  split
  · exact .inl ⟨by simp, .refl db⟩
  split
  · exact .inl ⟨by simp, .refl db⟩
  rename_i info hinfo
  split
  · exact .inl ⟨by simp, .refl db⟩
  rename_i hvlans
  split
  · exact .inl ⟨by simp, .refl db⟩
  rename_i hports
  split
  next hfail => exact .inl ⟨hfail, .call env _ db⟩
  · exact .inr ⟨info, hinfo, not_not.mp hvlans, not_not.mp hports, rfl, rfl, rfl⟩

theorem StpAgree.setInfo {db} (h : StpAgree db) {x}
    (hold : ∀ v, ¬ db.InTree s v) (hnew : ∀ info, x = some info → info.vlan_tree = [])
    (htype : x.isSome → s.type = .stp) : StpAgree (db.setInfo s x) := by
  have hin : ∀ t v, (db.setInfo s x).InTree t v ↔ db.InTree t v := by
    intro t v
    by_cases ht : t = s
    · subst ht
      refine iff_of_false ?_ (hold v)
      rintro ⟨info, hinfo, hv⟩
      have hx : x = some info := (if_pos rfl).symm.trans hinfo
      rw [hnew info hx] at hv
      cases hv
    · simp [StpDb.InTree, StpDb.setInfo, ht]
  refine ⟨fun v t ht => ?_, fun t ht => ?_⟩
  · rw [hin]
    exact h.map_iff v t ht
  · by_cases heq : t = s
    · subst heq
      refine htype ?_
      have hsome : ((if t = t then x else db.stp_info_tree t)).isSome := ht
      rwa [if_pos rfl] at hsome
    refine h.typed t ?_
    have hsome : ((if t = s then x else db.stp_info_tree t)).isSome := ht
    rwa [if_neg heq] at hsome

/-! ## The property and the condition -/

def VlanEnv.AllSucceed (env : VlanEnv) : Prop :=
  (∀ log c, env.outside log c = .success) ∧ ∀ log c, env.stp.outside log c = .success

/-- Every VLAN that there is belongs to one STP instance that there is, and can be moved to another
one or removed. -/
structure VlansInOneInstance (db : VlanDb) : Prop where
  map_iff : ∀ v s, s ≠ .null → (db.stp.g_stp_vlan_map v = s ↔ db.stp.InTree s v)
  one : ∀ v s s', db.stp.InTree s v → db.stp.InTree s' v → s = s'
  live : ∀ v, db.stp.g_stp_vlan_map v ≠ .null → db.stp.Live (db.stp.g_stp_vlan_map v)
  listed : ∀ v, db.vlan_list v = true → db.stp.g_stp_vlan_map v ≠ .null
  movable : ∀ env v s, env.AllSucceed → db.vlan_list v = true → env.valid v = true →
    db.stp.Live s → (vlanSetAttribute env (vlanIdToVlanObjId v) (.stpInstance s) db).1 = .success
  removable : ∀ env v, env.AllSucceed → isVlanConfigurable env v db = .success →
    env.in_use v = false → (vlanRemove env (vlanIdToVlanObjId v) db).1 = .success

/-- The condition on the set of an attribute: a VLAN that its new instance does not take goes back to
its old one. -/
def VlanSetOk (env : VlanEnv) (vlan_obj_id : Oid) (attr : VlanAttr) (db : VlanDb) : Prop :=
  match attr with
  | .stpInstance oid => db.vlan_list (vlanObjIdToVlanId vlan_obj_id) = true →
      StpHandleOk env.stp (vlanObjIdToVlanId vlan_obj_id) oid db.stp
  | _ => True

/-- The condition on a remove: when the VLAN has left its instance, the NPU deletes it. -/
def VlanRemoveOk (env : VlanEnv) (vlan_obj_id : Oid) (db : VlanDb) : Prop :=
  isVlanConfigurable env (vlanObjIdToVlanId vlan_obj_id) db = .success →
    env.in_use (vlanObjIdToVlanId vlan_obj_id) = false →
    (stpVlanDestroy env.stp (vlanObjIdToVlanId vlan_obj_id) db.stp).1 = .success →
    env.outside db.outside_log (.vlanDelete (vlanObjIdToVlanId vlan_obj_id)) = .success

/-- The condition on the first part of a create: a VLAN that comes into the list and is created in
the NPU gets into the default instance, and the default VLAN, which is not put there, is in an
instance already. -/
def VlanCreateLockedOk (env : VlanEnv) (v : VlanId) (db : VlanDb) : Prop :=
  let log := db.outside_log ++ [(.insertList v, .success)]
  isVlanIdAvailable env v = .success →
    env.insert_in_list db.vlan_list db.outside_log v = .success →
    env.outside log (.vlanCreate v) = .success ∨
      env.outside log (.vlanCreate v) = .itemAlreadyExists →
    if v ≠ initDefaultVlan then (stpDefaultStpVlanUpdate env.stp v db.stp).1 = .success
    else db.stp.g_stp_vlan_map v ≠ .null

/-- The condition on the second part of a create: on each set, and on the remove after one that
fails. -/
def VlanCreateAttrsOk (env : VlanEnv) (v : VlanId) : List VlanAttr → VlanDb → Prop
  | [], _ => True
  | attr :: attr_list, db =>
    let x := vlanSetAttribute env (vlanIdToVlanObjId v) attr db
    VlanSetOk env (vlanIdToVlanObjId v) attr db ∧
    (x.1 ≠ .success → VlanRemoveOk env (vlanIdToVlanObjId v) x.2) ∧
    VlanCreateAttrsOk env v attr_list
      (if x.1 ≠ .success then (vlanRemove env (vlanIdToVlanObjId v) x.2).2 else x.2)

def VlanOpOk (c : VlanOpCall) (db : VlanDb) : Prop :=
  match c.op with
  | .create attr_list => ∀ v, vlanIdOf attr_list = some v →
      VlanCreateLockedOk c.env v db ∧
      (1 < attr_list.length →
        VlanCreateAttrsOk c.env v attr_list (vlanCreateLocked c.env v db).2)
  | .remove vlan_obj_id => VlanRemoveOk c.env vlan_obj_id db
  | .set vlan_obj_id attr => VlanSetOk c.env vlan_obj_id attr db
  | _ => True

/-! ## The calls -/

/-- Map and trees agree, and every VLAN in the list is in an instance. -/
structure VlanAgree (db : VlanDb) : Prop where
  agree : StpAgree db.stp
  listed : ∀ v, db.vlan_list v = true → db.stp.g_stp_vlan_map v ≠ .null

structure VlanSame (db db' : VlanDb) : Prop where
  stp : db'.stp = db.stp
  list : db'.vlan_list = db.vlan_list

theorem VlanSame.refl (db) : VlanSame db db := ⟨rfl, rfl⟩

theorem VlanSame.trans {a b c} (hab : VlanSame a b) (hbc : VlanSame b c) : VlanSame a c :=
  ⟨hbc.stp.trans hab.stp, hbc.list.trans hab.list⟩

theorem VlanAgree.congr {db'} (h : VlanAgree db) (hsame : VlanSame db db') :
    VlanAgree db' := by
  refine ⟨hsame.stp ▸ h.agree, fun v hv => ?_⟩
  rw [hsame.stp]
  exact h.listed v (hsame.list ▸ hv)

theorem vlanSetAttr_same (env) (v) {attr} (db)
    (hattr : ∀ oid, attr ≠ .stpInstance oid) : VlanSame db (vlanSetAttr env v attr db).2 := by
  cases attr with
  | stpInstance oid => exact absurd rfl (hattr oid)
  | maxLearnedAddresses u32 | learnDisable booldata | metaData u32 =>
    simp only [vlanSetAttr]
    split <;> exact ⟨rfl, rfl⟩
  | vlanId u16 | memberList | notImplemented id | acl id | unknown id => exact .refl db

theorem VlanAgree.set (h : VlanAgree db) {env}
    {attr} (hok : VlanSetOk env vlan_obj_id attr db) :
    VlanAgree (vlanSetAttribute env vlan_obj_id attr db).2 := by
  simp only [vlanSetAttribute]
  split
  · exact h
  split
  · exact h
  split
  · exact h.congr ⟨rfl, rfl⟩
  rename_i hlist
  have hlist' : db.vlan_list (vlanObjIdToVlanId vlan_obj_id) = true := by
    simpa [VlanDb.lock] using hlist
  by_cases hattr : ∃ oid, attr = .stpInstance oid
  · obtain ⟨oid, rfl⟩ := hattr
    obtain ⟨hagree, hother, hkept⟩ := stpVlanHandle_cases h.agree (hok hlist')
    refine ⟨hagree, fun w hw => ?_⟩
    show (stpVlanHandle env.stp (vlanObjIdToVlanId vlan_obj_id) oid db.stp).2.g_stp_vlan_map w ≠ _
    by_cases heq : w = vlanObjIdToVlanId vlan_obj_id
    · rw [heq]
      exact hkept (h.listed _ hlist')
    · rw [hother w heq]
      exact h.listed w hw
  · have hsame := vlanSetAttr_same env (vlanObjIdToVlanId vlan_obj_id) db.lock
      fun oid heq => hattr ⟨oid, heq⟩
    exact h.congr ⟨hsame.stp, hsame.list⟩

theorem VlanAgree.delete (h : VlanAgree db) {env}
    (hok : (stpVlanDestroy env.stp v db.stp).1 = .success →
      env.outside db.outside_log (.vlanDelete v) = .success) :
    VlanAgree (vlanDelete env v db).2 := by
  have hcases := stpVlanDestroy_cases env.stp v h.agree
  simp only [vlanDelete]
  split
  next hfail =>
    obtain ⟨-, hsame⟩ := hcases.resolve_right fun hyes => hfail hyes.1
    refine ⟨h.agree.congr hsame, fun w hw => ?_⟩
    show (stpVlanDestroy env.stp v db.stp).2.g_stp_vlan_map w ≠ _
    rw [hsame.map]
    exact h.listed w hw
  rename_i hleft
  obtain ⟨-, hagree, hmap, -⟩ := hcases.resolve_left fun hno => hleft hno.1
  split
  next hfail => exact absurd (hok (not_not.mp hleft)) hfail
  refine ⟨hagree, fun w hw => ?_⟩
  have hlist : (if w = v then false else db.vlan_list w) = true := hw
  show (stpVlanDestroy env.stp v db.stp).2.g_stp_vlan_map w ≠ _
  split at hlist
  · cases hlist
  rename_i hne
  rw [hmap, if_neg hne]
  exact h.listed w hlist

theorem VlanAgree.remove (h : VlanAgree db) {env} (hok : VlanRemoveOk env vlan_obj_id db) :
    VlanAgree (vlanRemove env vlan_obj_id db).2 := by
  simp only [vlanRemove]
  split
  · exact h
  split
  · exact h.congr ⟨rfl, rfl⟩
  rename_i hconf
  split
  · exact h.congr ⟨rfl, rfl⟩
  rename_i huse
  have hlock : VlanAgree db.lock := h.congr ⟨rfl, rfl⟩
  have hdelete := hlock.delete
    (hok (not_not.mp hconf) (by simpa using huse))
  exact hdelete.congr ⟨rfl, rfl⟩

theorem VlanAgree.createLocked (h : VlanAgree db) {env}
    (hok : VlanCreateLockedOk env v db) : VlanAgree (vlanCreateLocked env v db).2 := by
  simp only [vlanCreateLocked]
  split
  · exact h.congr ⟨rfl, rfl⟩
  rename_i havail
  split
  next hfail =>
    have hfail' : env.insert_in_list db.vlan_list db.outside_log v ≠ .success := hfail
    have hsame : db.lock.insertInList env v = (env.insert_in_list db.vlan_list db.outside_log v,
        { db.lock with outside_log := db.outside_log ++
          [(.insertList v, env.insert_in_list db.vlan_list db.outside_log v)] }) := by
      simp [VlanDb.insertInList, VlanDb.lock, hfail']
    rw [hsame]
    exact h.congr ⟨rfl, rfl⟩
  rename_i hins
  have hins' : env.insert_in_list db.vlan_list db.outside_log v = .success := not_not.mp hins
  have hfree := env.insert_once _ _ _ hins'
  have hafter : db.lock.insertInList env v = (.success, { db.lock with
      vlan_list := fun w => if w = v then true else db.vlan_list w
      outside_log := db.outside_log ++ [(.insertList v, .success)] }) := by
    simp [VlanDb.insertInList, VlanDb.lock, hins']
  rw [hafter]
  dsimp only
  have hback : (fun w => if w = v then false else
      (if w = v then true else db.vlan_list w)) = db.vlan_list := by
    funext w
    by_cases hw : w = v
    · simp [hw, hfree]
    · simp [hw]
  split
  · exact h.congr ⟨rfl, hback⟩
  rename_i hnpu
  have hnpu' : env.outside (db.outside_log ++ [(.insertList v, .success)]) (.vlanCreate v) =
      .success ∨ env.outside (db.outside_log ++ [(.insertList v, .success)]) (.vlanCreate v) =
      .itemAlreadyExists := by
    by_contra hno
    exact hnpu ⟨fun hyes => hno (.inl hyes), fun hyes => hno (.inr hyes)⟩
  have hend := hok (not_not.mp havail) hins' hnpu'
  split
  next hv =>
    rw [if_pos hv] at hend
    obtain ⟨hagree, hother, hin⟩ := stpDefaultStpVlanUpdate_cases h.agree
    refine ⟨hagree, fun w hw => ?_⟩
    show (stpDefaultStpVlanUpdate env.stp v db.stp).2.g_stp_vlan_map w ≠ _
    by_cases heq : w = v
    · rw [heq]
      exact hin hend
    rw [hother w heq]
    refine h.listed w ?_
    have hlist : (if w = v then true else db.vlan_list w) = true := hw
    rwa [if_neg heq] at hlist
  next hv =>
    rw [if_neg hv] at hend
    refine ⟨h.agree, fun w hw => ?_⟩
    by_cases heq : w = v
    · rw [heq]
      exact hend
    refine h.listed w ?_
    have hlist : (if w = v then true else db.vlan_list w) = true := hw
    rwa [if_neg heq] at hlist

theorem VlanAgree.createAttrs {env} {rc}
    (h : VlanAgree db) (hok : VlanCreateAttrsOk env v attr_list db) :
    VlanAgree (vlanCreateAttrs env v attr_list rc db).2 := by
  induction attr_list generalizing rc db with
  | nil => exact h
  | cons attr attr_list ih =>
    obtain ⟨hset, hremove, hrest⟩ := hok
    have hagree := h.set hset
    simp only [vlanCreateAttrs]
    by_cases hx : (vlanSetAttribute env (vlanIdToVlanObjId v) attr db).1 ≠ .success
    · rw [if_pos hx] at hrest ⊢
      exact ih (hagree.remove (hremove hx)) hrest
    · rw [if_neg hx] at hrest ⊢
      exact ih hagree hrest

theorem VlanAgree.create (h : VlanAgree db) {env} (hok : VlanOpOk ⟨env, .create attr_list⟩ db) :
    VlanAgree (vlanCreate env attr_list db).2 := by
  simp only [vlanCreate]
  split
  · exact h
  rename_i v hv
  obtain ⟨hlocked, hattrs⟩ := hok v hv
  have hagree := h.createLocked hlocked
  split
  next hlen => exact hagree.createAttrs (hattrs hlen)
  · exact hagree

theorem vlanGetAttrs_same (env) (v) (attr_list) :
    ∀ attr_idx rc db, VlanSame db (vlanGetAttrs env v attr_idx attr_list rc db).2 := by
  induction attr_list with
  | nil => exact fun _ _ db => .refl db
  | cons attr attr_list ih =>
    intro attr_idx rc db
    have hread : ∀ x : Status × VlanDb, VlanSame db x.2 →
        VlanSame db (if x.1 ≠ .success then (getIndexedRetVal x.1 attr_idx, x.2)
          else vlanGetAttrs env v (attr_idx + 1) attr_list x.1 x.2).2 := by
      intro x hx
      split
      · exact hx
      · exact hx.trans (ih _ _ _)
    simp only [vlanGetAttrs]
    refine hread _ ?_
    cases attr <;> exact ⟨rfl, rfl⟩

theorem vlanGetAttribute_same {env} (vlan_obj_id) (attr_list) :
    VlanSame db (vlanGetAttribute env vlan_obj_id attr_list db).2 := by
  simp only [vlanGetAttribute]
  split
  · exact .refl db
  split
  · exact .refl db
  split
  · exact .refl db
  split
  · exact ⟨rfl, rfl⟩
  have hsame := vlanGetAttrs_same env (vlanObjIdToVlanId vlan_obj_id) attr_list 0 .failure db.lock
  exact ⟨hsame.stp, hsame.list⟩

theorem vlanMemberCreate_same {env} (attr_list) :
    VlanSame db (vlanMemberCreate env attr_list db).2 := by
  have hlocked : ∀ member db, VlanSame db (vlanMemberCreateLocked env member db).2 := by
    intro member db
    simp only [vlanMemberCreateLocked]
    repeat' split
    all_goals exact ⟨rfl, rfl⟩
  simp only [vlanMemberCreate]
  split
  · exact .refl db
  split
  · exact .refl db
  · exact ⟨(hlocked _ db.lock).stp, (hlocked _ db.lock).list⟩
  · exact .refl db

theorem vlanMemberRemove_same {env} (member_id) :
    VlanSame db (vlanMemberRemove env member_id db).2 := by
  simp only [vlanMemberRemove]
  split
  · exact .refl db
  split
  · exact ⟨rfl, rfl⟩
  split
  · exact ⟨rfl, rfl⟩
  split <;> exact ⟨rfl, rfl⟩

theorem vlanMemberSetAttribute_same {env} (member_id) (attr) :
    VlanSame db (vlanMemberSetAttribute env member_id attr db).2 := by
  have hattr : ∀ member db, VlanSame db (vlanMemberSetAttr env member_id member attr db).2 := by
    intro member db
    simp only [vlanMemberSetAttr]
    repeat' split
    all_goals exact ⟨rfl, rfl⟩
  simp only [vlanMemberSetAttribute]
  split
  · exact .refl db
  split
  · exact ⟨rfl, rfl⟩
  · exact ⟨(hattr _ db.lock).stp, (hattr _ db.lock).list⟩

theorem vlanMemberGetAttribute_same (member_id) (attr_list) :
    VlanSame db (vlanMemberGetAttribute member_id attr_list db).2.2 := by
  simp only [vlanMemberGetAttribute]
  split
  · exact .refl db
  split <;> exact ⟨rfl, rfl⟩

theorem VlanAgree.instance (h : VlanAgree db) {stp} (hagree : StpAgree stp)
    (hmap : stp.g_stp_vlan_map = db.stp.g_stp_vlan_map) : VlanAgree { db with stp := stp } := by
  refine ⟨hagree, fun v hv => ?_⟩
  show stp.g_stp_vlan_map v ≠ _
  rw [hmap]
  exact h.listed v hv

theorem VlanAgree.step {c} (h : VlanAgree db) (hok : VlanOpOk c db) :
    VlanAgree (vlanStep c db) := by
  obtain ⟨env, op⟩ := c
  cases op with
  | create attr_list => exact h.create hok
  | remove vlan_obj_id => exact h.remove hok
  | set vlan_obj_id attr => exact h.set hok
  | get vlan_obj_id attr_list => exact h.congr (vlanGetAttribute_same _ _)
  | memberCreate attr_list => exact h.congr (vlanMemberCreate_same _)
  | memberRemove member_id => exact h.congr (vlanMemberRemove_same _)
  | memberSet member_id attr => exact h.congr (vlanMemberSetAttribute_same _ _)
  | memberGet member_id attr_list => exact h.congr (vlanMemberGetAttribute_same _ _)
  | instanceCreate attr_count =>
    rcases stpInstanceCreate_cases with ⟨-, hsame⟩ | ⟨p, hfresh, hsame⟩
    · exact h.instance (h.agree.congr hsame) hsame.map
    refine h.instance (StpAgree.congr (h.agree.setInfo ?_ ?_ fun _ => rfl) hsame) hsame.map
    · rintro v ⟨info, hinfo, -⟩
      exact absurd (hfresh.symm.trans hinfo) (by simp)
    · intro info hinfo
      cases hinfo
      rfl
  | instanceRemove s =>
    rcases stpInstanceRemove_cases with ⟨-, hsame⟩ | ⟨info, hinfo, hnil, -, hsame⟩
    · exact h.instance (h.agree.congr hsame) hsame.map
    refine h.instance (StpAgree.congr (h.agree.setInfo ?_ (by simp) (by simp)) hsame) hsame.map
    rintro v ⟨info', hinfo', hv⟩
    obtain rfl := Option.some.inj (hinfo.symm.trans hinfo')
    rw [hnil] at hv
    cases hv

/-! ## Nothing fails -/

theorem vlanIdToVlanObjId_type (v) : (vlanIdToVlanObjId v).type = .vlan := rfl

theorem vlanObjIdToVlanId_vlanIdToVlanObjId (v) :
    vlanObjIdToVlanId (vlanIdToVlanObjId v) = v := by
  simp [vlanObjIdToVlanId, vlanIdToVlanObjId, uoidCreate]

theorem stpVlanRemove_succeeds (henv : ∀ log c, env.outside log c = .success)
    {db} (htype : s.type = .stp) (hin : db.InTree s v) :
    (stpVlanRemove env s v db).1 = .success := by
  obtain ⟨info, hinfo, hv⟩ := hin
  simp [stpVlanRemove, htype, hinfo, hv, StpDb.call, henv]

theorem stpVlanAdd_succeeds (henv : ∀ log c, env.outside log c = .success)
    {db} (htype : s.type = .stp) (hlive : db.Live s) (hnot : ¬ db.InTree s v) :
    (stpVlanAdd env s v db).1 = .success := by
  obtain ⟨info, hinfo⟩ := Option.isSome_iff_exists.mp hlive
  have hv : v ∉ info.vlan_tree := fun hv => hnot ⟨info, hinfo, hv⟩
  simp [stpVlanAdd, htype, hinfo, hv, StpDb.call, StpDb.insert, henv]

theorem VlanAgree.movable (h : VlanAgree db) {env}
    (henv : env.AllSucceed) (hlist : db.vlan_list v = true) (hvalid : env.valid v = true)
    (hlive : db.stp.Live s) :
    (vlanSetAttribute env (vlanIdToVlanObjId v) (.stpInstance s) db).1 = .success := by
  have hin := h.agree.inTree_map (h.listed v hlist)
  have htype := h.agree.typed _ (StpAgree.live_of_inTree hin)
  have hremove := stpVlanRemove_succeeds henv.2 htype hin
  obtain ⟨-, -, -, hmoved⟩ := stpVlanRemove_cases.resolve_left fun hno => hno.1 hremove
  -- once it has left, it is in no tree
  have hnot : ¬ (stpVlanRemove env.stp (db.stp.g_stp_vlan_map v) v db.stp).2.InTree s v := by
    rw [hmoved.inTree]
    rintro ⟨hin', hne⟩
    exact hne ⟨(h.agree.map_of_inTree hin').symm, rfl⟩
  have hadd := stpVlanAdd_succeeds henv.2 (h.agree.typed s hlive) ((hmoved.live s).mpr hlive) hnot
  have hhandle : (stpVlanHandle env.stp v s db.stp).1 = .success := by
    have hthere : stpIsValidStpInstance s db.stp = true := hlive
    simp [stpVlanHandle, hthere, hremove, hadd]
  simpa [vlanSetAttribute, vlanIdToVlanObjId_type, vlanObjIdToVlanId_vlanIdToVlanObjId, hvalid,
    VlanDb.lock, hlist, vlanSetAttr] using hhandle

theorem VlanAgree.removable (h : VlanAgree db) {env}
    (henv : env.AllSucceed) (hconf : isVlanConfigurable env v db = .success) (huse : env.in_use v = false) :
    (vlanRemove env (vlanIdToVlanObjId v) db).1 = .success := by
  have hlist : db.vlan_list v = true := by
    unfold isVlanConfigurable at hconf
    split at hconf
    next hno => exact absurd hconf hno
    split at hconf
    · cases hconf
    next hyes => simpa using hyes
  have hin := h.agree.inTree_map (h.listed v hlist)
  have hremove := stpVlanRemove_succeeds henv.2
    (h.agree.typed _ (StpAgree.live_of_inTree hin)) hin
  have hconf' : isVlanConfigurable env v db.lock = .success := hconf
  have hdelete : (vlanDelete env v db.lock).1 = .success := by
    simp [vlanDelete, VlanDb.lock, stpVlanDestroy, hremove, VlanDb.call, henv.1]
  simpa [vlanRemove, vlanIdToVlanObjId_type, vlanObjIdToVlanId_vlanIdToVlanObjId, hconf', huse]
    using hdelete

theorem VlanAgree.vlansInOneInstance (h : VlanAgree db) :
    VlansInOneInstance db where
  map_iff := h.agree.map_iff
  one := fun _ _ _ hin hin' => (h.agree.map_of_inTree hin).symm.trans (h.agree.map_of_inTree hin')
  live := fun _ hv => StpAgree.live_of_inTree (h.agree.inTree_map hv)
  listed := h.listed
  movable := fun _ _ _ henv hlist hvalid hlive => h.movable henv hlist hvalid hlive
  removable := fun _ _ henv hconf huse => h.removable henv hconf huse

/-- After the initialisation the default VLAN is in the default instance, and an internal VLAN is in
one of its own. -/
theorem VlanAgree.initial (hdef : g_def_stp_id.type = .stp)
    (hl3 : ∀ l3_stp_inst internal_vlan, l3 = some (l3_stp_inst, internal_vlan) →
      l3_stp_inst.type = .stp ∧ l3_stp_inst ≠ g_def_stp_id ∧ internal_vlan ≠ initDefaultVlan) :
    VlanAgree (.initial (.initial g_def_stp_id l3 mask)) := by
  have hnull : ∀ s : Oid, s.type = .stp → s ≠ .null := by
    rintro s hs rfl
    cases hs
  cases l3 with
  | none =>
    refine ⟨⟨fun v s hs => ?_, fun s hs => ?_⟩, fun v hv => ?_⟩
    · by_cases hd : s = g_def_stp_id
      · by_cases hv : v = initDefaultVlan <;>
          simp [VlanDb.initial, StpDb.initial, StpDb.InTree, hd, hv, Ne.symm (hnull _ hdef)]
      · by_cases hv : v = initDefaultVlan <;>
          simp [VlanDb.initial, StpDb.initial, StpDb.InTree, hd, hv, Ne.symm hd, Ne.symm hs]
    · by_cases hd : s = g_def_stp_id
      · rw [hd]
        exact hdef
      · simp [VlanDb.initial, StpDb.initial, StpDb.Live, hd] at hs
    · have hv' : v = initDefaultVlan := by simpa [VlanDb.initial] using hv
      simp [VlanDb.initial, StpDb.initial, hv', hnull _ hdef]
  | some x =>
    obtain ⟨l3_stp_inst, internal_vlan⟩ := x
    obtain ⟨htype, hne, hvne⟩ := hl3 _ _ rfl
    refine ⟨⟨fun v s hs => ?_, fun s hs => ?_⟩, fun v hv => ?_⟩
    · by_cases hl : s = l3_stp_inst
      · subst hl
        by_cases hv : v = internal_vlan
        · simp [VlanDb.initial, StpDb.initial, StpDb.setInfo, StpDb.setVlanMap, StpDb.InTree, hv]
        by_cases hv' : v = initDefaultVlan <;>
          simp [VlanDb.initial, StpDb.initial, StpDb.setInfo, StpDb.setVlanMap, StpDb.InTree, hv,
            hv', Ne.symm hne, Ne.symm hs, Ne.symm hvne]
      by_cases hd : s = g_def_stp_id
      · by_cases hv : v = internal_vlan
        · simp [VlanDb.initial, StpDb.initial, StpDb.setInfo, StpDb.setVlanMap, StpDb.InTree, hv,
            hd, hne, Ne.symm hne, hvne]
        by_cases hv' : v = initDefaultVlan <;>
          simp [VlanDb.initial, StpDb.initial, StpDb.setInfo, StpDb.setVlanMap, StpDb.InTree,
            hv, hv', hd, Ne.symm hne, Ne.symm (hnull _ hdef), Ne.symm hvne]
      by_cases hv : v = internal_vlan
      · simp [VlanDb.initial, StpDb.initial, StpDb.setInfo, StpDb.setVlanMap, StpDb.InTree, hv,
          hl, hd, Ne.symm hl]
      by_cases hv' : v = initDefaultVlan <;>
        simp [VlanDb.initial, StpDb.initial, StpDb.setInfo, StpDb.setVlanMap, StpDb.InTree,
          hv, hv', hl, hd, Ne.symm hd, Ne.symm hs, Ne.symm hvne]
    · by_cases hl : s = l3_stp_inst
      · rw [hl]
        exact htype
      by_cases hd : s = g_def_stp_id
      · rw [hd]
        exact hdef
      · simp [VlanDb.initial, StpDb.initial, StpDb.setInfo, StpDb.setVlanMap, StpDb.Live, hl,
          hd] at hs
    · have hv' : v = initDefaultVlan := by simpa [VlanDb.initial] using hv
      simp [VlanDb.initial, StpDb.initial, StpDb.setInfo, StpDb.setVlanMap, hv', Ne.symm hvne,
        hnull _ hdef]

/-- **VLANs and instances**: after any run in which no step fails behind one that is not taken back,
every VLAN belongs to exactly one STP instance, the one the map names, and can be moved or removed.
-/
theorem vlansInOneInstance_of_run (hdef : g_def_stp_id.type = .stp)
    (hl3 : ∀ l3_stp_inst internal_vlan, l3 = some (l3_stp_inst, internal_vlan) →
      l3_stp_inst.type = .stp ∧ l3_stp_inst ≠ g_def_stp_id ∧ internal_vlan ≠ initDefaultVlan)
    {db : VlanDb} (hrun : Run vlanStep VlanOpOk (.initial (.initial g_def_stp_id l3 mask)) db) :
    VlansInOneInstance db := by
  have hagree := hrun.induct (P := VlanAgree) (fun _ _ h hok => h.step hok) (.initial hdef hl3)
  exact hagree.vlansInOneInstance

theorem vlansInOneInstance_of_run_moved :
    let run : List VlanOp → VlanDb := fun ops =>
      ops.foldl (fun db op => vlanStep ⟨.good 7, op⟩ db) (.initial (.initial ⟨.stp, 1⟩ none 255))
    VlansInOneInstance (run [.create [.vlanId 10], .instanceCreate 0,
      .set (vlanIdToVlanObjId 10) (.stpInstance ⟨.stp, 7⟩), .remove (vlanIdToVlanObjId 10)]) := by
  intro run
  refine @vlansInOneInstance_of_run ⟨.stp, 1⟩ none 255 rfl (by simp) _ ?_
  have hcall : ∀ op db, Run vlanStep VlanOpOk (.initial (.initial ⟨.stp, 1⟩ none 255)) db →
      VlanOpOk ⟨.good 7, op⟩ db → Run vlanStep VlanOpOk (.initial (.initial ⟨.stp, 1⟩ none 255))
        (vlanStep ⟨.good 7, op⟩ db) :=
    fun _ _ hrun hok => .snoc _ hrun hok
  refine hcall _ _ (hcall _ _ (hcall _ _ (hcall _ _ (.nil _) ?_) ?_) ?_) ?_
  · rintro v hv
    obtain rfl : (10 : VlanId) = v := Option.some.inj hv
    exact ⟨fun _ _ _ => by decide, fun hlen => absurd hlen (by decide)⟩
  · trivial
  · intro _ _ _ hfail
    exact absurd hfail (by decide)
  · intro _ _ _
    rfl

/-- The NPU does not delete a VLAN: it has left its STP instance already, and stays in the list. -/
theorem not_vlansInOneInstance_delete :
    let env : VlanEnv := { VlanEnv.good 7 with
      outside := fun _ c => if c = .vlanDelete 10 then .failure else .success }
    let db := vlanStep ⟨env, .remove (vlanIdToVlanObjId 10)⟩
      (vlanStep ⟨env, .create [.vlanId 10]⟩ (.initial (.initial ⟨.stp, 1⟩ none 255)))
    ¬ VlansInOneInstance db := by
  intro env db h
  exact h.listed 10 (by decide) (by decide)

end OpxSai
