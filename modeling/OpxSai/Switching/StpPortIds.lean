import OpxSai.Switching.StpPortTrees

/-!
# The ids of STP ports

The id generator counts up to the end of the id space. From then on it asks `sai_stp_port_id_in_use`
which ids it may take, and the answer is the wrong way round: it takes ids of ports that there are, and
when there is none it takes no id at all.

* `stpPortCreateLocked_ids` — what a create does to the generator and to the ids that are used;
* `StpPortIdsBelow` — the invariant: up to the end no id is above the generator's;
* `stpPortIdsFresh_iff` — the main result;
* `not_stpPortIdsFresh_wrapped` — ports are created and removed up to the end of the id space.
-/

namespace OpxSai

open StpDb
variable {db a : StpDb} (env : StpEnv)

/-! ## The property -/

/-- The id for the next port is not the id of a port that there is, and there is no id only when
there is a port for each. -/
structure StpPortIdsFresh (env : StpEnv) (db : StpDb) : Prop where
  fresh : ∀ id gen, stpPortIdCreate env db = some (id, gen) → db.global_stp_port_tree id = none
  all_used : stpPortIdCreate env db = none → ∀ n, 0 < n → n ≤ db.sai_port_id_gen_info.mask →
    db.global_stp_port_tree (uoidCreate .stpPort n) ≠ none

/-- **Behind the end of the id space** the ids are not fresh: one that is found is in use, and when
none is found then none is in use. -/
theorem StpPortIdsFresh.not_wraps {env} (h : StpPortIdsFresh env db)
    (hmask : 0 < db.sai_port_id_gen_info.mask) : ¬ db.sai_port_id_gen_info.wraps := by
  intro hwraps
  cases hnext : env.next_free_id.next db.sai_port_id_gen_info (stpPortIdInUse db) with
  | some gen =>
    obtain ⟨hused, -, -⟩ := env.next_free_id.unused _ _ _ hwraps hnext
    have hfree := h.fresh (uoidCreate .stpPort gen.cur_id) gen (by simp [stpPortIdCreate, hnext])
    simp [stpPortIdInUse, hfree] at hused
  | none =>
    have hall := h.all_used (by simp [stpPortIdCreate, hnext])
    have hanswer : stpPortIdInUse db 1 = false := by
      unfold stpPortIdInUse
      rw [Option.isNone_eq_false_iff]
      exact Option.isSome_iff_ne_none.mpr (hall 1 Nat.one_pos hmask)
    have hfound := env.next_free_id.finds _ _ hwraps
      ⟨1, Nat.one_pos, hmask, hanswer⟩
    rw [hnext] at hfound
    cases hfound

/-! ## The generator and the ids -/

structure StpPortIdsSame (db db' : StpDb) : Prop where
  gen : db'.sai_port_id_gen_info = db.sai_port_id_gen_info
  ids : ∀ id, db.global_stp_port_tree id = none → db'.global_stp_port_tree id = none

theorem StpPortIdsSame.refl (db) : StpPortIdsSame db db := ⟨rfl, fun _ h => h⟩

theorem StpPortIdsSame.call (h : StpPortIdsSame db a) (env) (c) :
    StpPortIdsSame db (a.call env c).2 :=
  ⟨h.gen, h.ids⟩

theorem StpPortIdsSame.insert (h : StpPortIdsSame db a) (env) (c) (taken : Bool) :
    StpPortIdsSame db (a.insert env c taken).2 := by
  unfold StpDb.insert
  split
  · exact h
  · exact h.call env c

structure StpPortIdTaken (env : StpEnv) (db db' : StpDb) (id : Oid) : Prop where
  taken : stpPortIdCreate env db = some (id, db'.sai_port_id_gen_info)
  ids : ∀ id', id' ≠ id → db.global_stp_port_tree id' = none →
    db'.global_stp_port_tree id' = none

theorem stpPortCreateLocked_ids {scan} {info} :
    StpPortIdsSame db (stpPortCreateLocked env scan info db).2 ∨
    ∃ id, StpPortIdTaken env db (stpPortCreateLocked env scan info db).2 id := by
  simp only [stpPortCreateLocked]
  split
  · exact .inl ⟨rfl, fun _ h => h⟩
  split
  · exact .inl ⟨rfl, fun _ h => h⟩
  split
  · exact .inl ⟨rfl, fun _ h => h⟩
  rename_i id gen hid
  have hid' : stpPortIdCreate env db = some (id, gen) := hid
  refine .inr ⟨id, ?_⟩
  split
  · exact ⟨hid', fun _ _ h => h⟩
  have hinsert : ∀ (c : StpCall) (taken : Bool) (a : StpDb),
      (a.insert env c taken).2.sai_port_id_gen_info = a.sai_port_id_gen_info ∧
      (a.insert env c taken).2.global_stp_port_tree = a.global_stp_port_tree := by
    intro c taken a
    unfold StpDb.insert
    split <;> exact ⟨rfl, rfl⟩
  split
  · refine ⟨?_, fun id' hne h => ?_⟩
    · show _ = some (id, (StpDb.insert env _ _ _).2.sai_port_id_gen_info)
      rw [(hinsert _ _ _).1]
      exact hid'
    · show (StpDb.insert env _ _ _).2.global_stp_port_tree id' = none
      rw [(hinsert _ _ _).2]
      exact h
  split
  · refine ⟨?_, fun id' hne h => ?_⟩
    · show _ = some (id, (StpDb.insert env _ _ _).2.sai_port_id_gen_info)
      rw [(hinsert _ _ _).1]
      exact hid'
    · show (if id' = id then none else if id' = id then _ else
        (StpDb.insert env _ _ _).2.global_stp_port_tree id') = none
      rw [if_neg hne, if_neg hne, (hinsert _ _ _).2]
      exact h
  · refine ⟨?_, fun id' hne h => ?_⟩
    · show _ = some (id, (StpDb.insert env _ _ _).2.sai_port_id_gen_info)
      rw [(hinsert _ _ _).1]
      exact hid'
    · show (if id' = id then _ else (StpDb.insert env _ _ _).2.global_stp_port_tree id') = none
      rw [if_neg hne, (hinsert _ _ _).2]
      exact h

theorem stpPortRemove_ids {id} :
    StpPortIdsSame db (stpPortRemove env id db).2 := by
  have hgone : ∀ id', db.global_stp_port_tree id' = none →
      (if id' = id then none else db.global_stp_port_tree id') = none := by
    intro id' h
    split
    · rfl
    · exact h
  simp only [stpPortRemove]
  split
  · exact ⟨rfl, fun _ h => h⟩
  split
  · exact ⟨rfl, fun _ h => h⟩
  split
  · exact ⟨rfl, fun _ h => h⟩
  split <;> exact ⟨rfl, hgone⟩

theorem stpPortAttributeSet_ids {id} {attr} :
    StpPortIdsSame db (stpPortAttributeSet env id attr db).2 := by
  simp only [stpPortAttributeSet]
  repeat' split
  all_goals exact ⟨rfl, fun _ h => h⟩

theorem stpInstanceCreate_ids {attr_count : Nat} :
    StpPortIdsSame db (stpInstanceCreate env attr_count db).2 := by
  have hnode := StpPortIdsSame.call (.refl db) env .infoNode
  have hcreate := hnode.call env .instanceCreate
  simp only [stpInstanceCreate]
  split
  · exact .refl db
  split
  · exact hnode
  split
  · exact hcreate
  generalize (db.call env .infoNode).2.call _ _ = b at hcreate ⊢
  have htree := hcreate.insert env (.infoTree (uoidCreate .stp env.npu_object_id))
    (b.2.stp_info_tree (uoidCreate .stp env.npu_object_id)).isSome
  split
  · exact htree.call env _
  have hvlans := htree.call env .vlanTreeCreate
  split
  · exact hvlans.call env _
  have hports := hvlans.call env .portTreeCreate
  split
  · exact hports.call env _
  · exact ⟨hports.gen, hports.ids⟩

theorem stpInstanceRemove_ids {s} :
    StpPortIdsSame db (stpInstanceRemove env s db).2 := by
  simp only [stpInstanceRemove]
  repeat' split
  all_goals exact ⟨rfl, fun _ h => h⟩

/-! ## The invariant -/

/-- Up to the end of the id space no id above that of the generator is in use. -/
structure StpPortIdsBelow (mask : Nat) (db : StpDb) : Prop where
  mask : db.sai_port_id_gen_info.mask = mask
  below : ¬ db.sai_port_id_gen_info.wraps → ∀ n, db.sai_port_id_gen_info.cur_id < n →
    db.global_stp_port_tree (uoidCreate .stpPort n) = none

namespace StpPortIdsBelow

variable {mask : Nat} {db' : StpDb}

theorem same (h : StpPortIdsBelow mask db) (hsame : StpPortIdsSame db db') :
    StpPortIdsBelow mask db' := by
  refine ⟨hsame.gen ▸ h.mask, fun hno n hn => ?_⟩
  rw [hsame.gen] at hno hn
  exact hsame.ids _ (h.below hno n hn)

theorem taken (h : StpPortIdsBelow mask db) {env} {id}
    (htaken : StpPortIdTaken env db db' id) : StpPortIdsBelow mask db' := by
  obtain ⟨gen, hnext, heq⟩ := Option.map_eq_some_iff.mp htaken.taken
  obtain ⟨rfl, hgen⟩ := Prod.mk.inj heq
  rw [hgen] at hnext
  by_cases hwraps : db.sai_port_id_gen_info.wraps
  · obtain ⟨-, hwraps', hmask⟩ := env.next_free_id.unused _ _ _ hwraps hnext
    exact ⟨hmask.trans h.mask, fun hno => absurd hwraps' hno⟩
  have hcounts := env.next_free_id.counts _ (stpPortIdInUse db) hwraps
  have hgen' := Option.some.inj (hnext.symm.trans hcounts)
  refine ⟨?_, fun _ n hn => ?_⟩
  · rw [hgen']
    exact h.mask
  · have hn' : db.sai_port_id_gen_info.cur_id + 1 < n := by
      rw [hgen'] at hn
      exact hn
    refine htaken.ids _ (fun hid => ?_) (h.below hwraps n (by omega))
    have hcur : n = gen.cur_id := congrArg Oid.id hid
    rw [hgen, hgen'] at hcur
    exact absurd hcur (by simp; omega)

theorem step {db} (h : StpPortIdsBelow mask db.stp) {c} :
    StpPortIdsBelow mask (stpPortStep c db).stp := by
  obtain ⟨env, op⟩ := c
  cases op with
  | scan caller attr_list =>
    simp only [stpPortStep]
    split
    · split <;> exact h
    · exact h
  | createLocked caller =>
    simp only [stpPortStep, stpPortCreateStep]
    split
    · exact h
    rename_i scan _
    split
    · exact h
    rename_i info _
    rcases stpPortCreateLocked_ids env with hsame | ⟨id, htaken⟩
    · exact h.same hsame
    · exact h.taken htaken
  | remove id => exact h.same (stpPortRemove_ids env)
  | set id attr => exact h.same (stpPortAttributeSet_ids env)
  | instanceCreate attr_count => exact h.same (stpInstanceCreate_ids env)
  | instanceRemove s => exact h.same (stpInstanceRemove_ids env)

end StpPortIdsBelow

/-- **Ids of STP ports**: in every state that any run reaches, the next id is fresh if and only if the
generator has not got to the end of the id space. -/
theorem stpPortIdsFresh_iff {g_def_stp_id : Oid} {l3 : Option (Oid × VlanId)} {mask : Nat}
    (hmask : 0 < mask) {db : StpPortDb}
    (hrun : Run stpPortStep (fun _ _ => True) (.initial (.initial g_def_stp_id l3 mask)) db)
    (env : StpEnv) :
    StpPortIdsFresh env db.stp ↔ ¬ db.stp.sai_port_id_gen_info.wraps := by
  have hbelow : StpPortIdsBelow mask db.stp := by
    refine hrun.induct (P := fun db => StpPortIdsBelow mask db.stp) (fun c _ h _ => h.step) ?_
    cases l3 <;> exact ⟨rfl, fun _ _ _ => rfl⟩
  constructor
  · intro h
    exact h.not_wraps (hbelow.mask ▸ hmask)
  · intro hno
    have hcounts := env.next_free_id.counts _ (stpPortIdInUse db.stp) hno
    refine ⟨fun id gen hid => ?_, fun hnone => ?_⟩
    · rw [stpPortIdCreate, hcounts] at hid
      cases hid
      exact hbelow.below hno _ (Nat.lt_succ_self _)
    · rw [stpPortIdCreate, hcounts] at hnone
      cases hnone

theorem stpPortIdsFresh_iff_first :
    StpPortIdsFresh (.good 7) (StpPortDb.initial (.initial ⟨.stp, 1⟩ none 255)).stp :=
  (@stpPortIdsFresh_iff ⟨.stp, 1⟩ none 255 (by decide) _ (.nil _) (.good 7)).mpr (by decide)

/-! ## To the end of the id space -/

/-- There is the default instance without ports, nobody is in a call, and `k` ids have been taken. -/
structure StpPortsIdle (mask k : Nat) (db : StpPortDb) : Prop where
  info : db.stp.stp_info_tree = (StpDb.initial ⟨.stp, 1⟩ none mask).stp_info_tree
  global : db.stp.global_stp_port_tree = fun _ => none
  gen : db.stp.sai_port_id_gen_info = ⟨k, false, mask⟩
  pending : db.pending = fun _ => none

/-- A port is created and removed: one id is gone. -/
theorem StpPortsIdle.cycle {mask k : Nat} {db} (h : StpPortsIdle mask k db)
    (hk : k < mask) : StpPortsIdle mask (k + 1)
      (stpPortStep ⟨.good 7, .remove (uoidCreate .stpPort (k + 1))⟩
        (stpPortStep ⟨.good 7, .createLocked 0⟩
          (stpPortStep ⟨.good 7, .scan 0 (forwardingPort ⟨.stp, 1⟩)⟩ db))) := by
  obtain ⟨hinfo, hglobal, hgen, hpending⟩ := h
  have hinst : db.stp.stp_info_tree ⟨.stp, 1⟩ = some ⟨1, [initDefaultVlan], [], 0⟩ := by
    rw [hinfo]
    rfl
  have hscan : stpPortScan (.good 7) (forwardingPort ⟨.stp, 1⟩) db.stp =
      .ok ⟨⟨.stp, 1⟩, 1, ⟨.port, 1⟩, .forwarding⟩ := by
    simp [stpPortScan, forwardingPort, stpPortScanAttrs, hinst, StpEnv.good, stpPortStateValid]
  have hwait : stpPortStep ⟨.good 7, .scan 0 (forwardingPort ⟨.stp, 1⟩)⟩ db =
      db.setPending 0 (some ⟨⟨.stp, 1⟩, 1, ⟨.port, 1⟩, .forwarding⟩) := by
    simp [stpPortStep, hpending, hscan]
  rw [hwait]
  generalize hw : (⟨⟨.stp, 1⟩, 1, ⟨.port, 1⟩, .forwarding⟩ : StpPortScan) = scan
  have hcreate : (stpPortCreateLocked (.good 7) scan ⟨1, [initDefaultVlan], [], 0⟩ db.stp).1 =
      .success := by
    have hnot : ¬ (⟨k, false, mask⟩ : IdGenInfo).wraps := by
      simp [IdGenInfo.wraps]
      omega
    simp [stpPortCreateLocked, StpDb.call, StpDb.insert, StpEnv.good, StpInfo.hasPort,
      stpPortIdCreate, NextFreeId.smallest, StpDb.allocPort, StpDb.writePort, StpDb.setInfo,
      StpDb.setGlobal, hgen, hnot, hglobal]
  have hcreated : stpPortStep ⟨.good 7, .createLocked 0⟩ (db.setPending 0 (some scan)) =
      { db.setPending 0 none with
        stp := (stpPortCreateLocked (.good 7) scan ⟨1, [initDefaultVlan], [], 0⟩ db.stp).2 } := by
    subst hw
    simp [stpPortStep, stpPortCreateStep, StpPortDb.setPending, StpPortDb.scanned, hinst]
    funext c
    by_cases hc : c = 0 <;> simp [hc]
  rw [hcreated]
  have hinst' : db.stp.stp_info_tree scan.stp_inst_id = some ⟨1, [initDefaultVlan], [], 0⟩ := by
    rw [← hw]
    exact hinst
  obtain ⟨id, p, hnew⟩ := (stpPortCreateLocked_cases _ hinst').resolve_left
    fun hno => hno.1 hcreate
  -- the id is the next one of the generator
  obtain ⟨rfl, hgen'⟩ : id = uoidCreate .stpPort (k + 1) ∧
      (stpPortCreateLocked (.good 7) scan ⟨1, [initDefaultVlan], [], 0⟩
        db.stp).2.sai_port_id_gen_info = ⟨k + 1, false, mask⟩ := by
    have hused := (hnew.global id).trans (if_pos rfl)
    rcases stpPortCreateLocked_ids _ with
      hsame | ⟨id', htaken⟩
    · rw [hsame.ids id (congrFun hglobal id)] at hused
      cases hused
    · have hid : id = id' := by
        by_contra hne
        rw [htaken.ids id hne (congrFun hglobal id)] at hused
        cases hused
      have hnot : ¬ db.stp.sai_port_id_gen_info.wraps := by
        rw [hgen]
        simp [IdGenInfo.wraps]
        omega
      have htaken' := htaken.taken
      rw [stpPortIdCreate, NextFreeId.counts _ _ _ hnot, hgen] at htaken'
      obtain ⟨hid', hgen'⟩ := Prod.mk.inj (Option.some.inj htaken')
      exact ⟨hid.trans hid'.symm, hgen'.symm⟩
  generalize (stpPortCreateLocked _ _ _ _).2 = stp at hnew hgen' ⊢
  have hport : stp.port (uoidCreate .stpPort (k + 1)) = some (p,
      ⟨uoidCreate .stpPort (k + 1), scan.stp_inst_id, scan.port_id, scan.port_state⟩) := by
    simp [StpDb.port, hnew.global, hnew.ports]
  have hremove : (stpPortRemove (.good 7) (uoidCreate .stpPort (k + 1)) stp).2.stp_info_tree =
      db.stp.stp_info_tree ∧
      (stpPortRemove (.good 7) (uoidCreate .stpPort (k + 1)) stp).2.global_stp_port_tree =
        fun _ => none := by
    have htype : (uoidCreate .stpPort (k + 1)).type = .stpPort := rfl
    have hback := StpInfo.removePort_addPort p hnew.new
    simp only [stpPortRemove, htype, hport, StpDb.call, StpEnv.good, StpDb.setGlobal]
    simp only [ne_eq, not_true_eq_false, if_false, hnew.info, if_true, hback]
    refine ⟨funext fun s => ?_, funext fun i => ?_⟩
    · show (if s = scan.stp_inst_id then _ else stp.stp_info_tree s) = _
      rw [hnew.info]
      by_cases hs : s = scan.stp_inst_id
      · rw [if_pos hs, hs, hinst']
      · rw [if_neg hs, if_neg hs]
    · show (if i = uoidCreate .stpPort (k + 1) then _ else stp.global_stp_port_tree i) = _
      rw [hnew.global, congrFun hglobal i]
      split <;> rfl
  refine ⟨hremove.1.trans hinfo, hremove.2, ?_, ?_⟩
  · exact (stpPortRemove_ids _).gen.trans hgen'
  · funext c
    show (if c = 0 then none else db.pending c) = none
    rw [hpending]
    split <;> rfl

/-- Ports are created and removed, up to any place in the id space. -/
theorem StpPortsIdle.reached {mask : Nat} {k : Nat} (hk : k ≤ mask) : ∃ db,
    Run stpPortStep (fun _ _ => True) (.initial (.initial ⟨.stp, 1⟩ none mask)) db ∧
      StpPortsIdle mask k db := by
  induction k with
  | zero => exact ⟨_, .nil _, rfl, rfl, rfl, rfl⟩
  | succ k ih =>
    obtain ⟨db, hrun, hidle⟩ := ih (Nat.le_of_succ_le hk)
    exact ⟨_, .snoc _ (.snoc _ (.snoc _ hrun trivial) trivial) trivial,
      hidle.cycle (Nat.lt_of_succ_le hk)⟩

/-- However large the id space is, there is a run to its end, and no id for the next port after it. -/
theorem not_stpPortIdsFresh_wrapped :
    ¬ ∃ mask, 0 < mask ∧ ∀ db, Run stpPortStep (fun _ _ => True)
      (.initial (.initial ⟨.stp, 1⟩ none mask)) db → StpPortIdsFresh (.good 7) db.stp := by
  rintro ⟨mask, hmask, h⟩
  obtain ⟨db, hrun, hidle⟩ := StpPortsIdle.reached (le_refl mask)
  refine (h db hrun).not_wraps ?_ ?_
  · rw [hidle.gen]
    exact hmask
  · rw [hidle.gen]
    exact .inr (le_refl mask)

end OpxSai
