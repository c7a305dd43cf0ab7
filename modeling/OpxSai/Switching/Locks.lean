import OpxSai.Switching.Lag
import OpxSai.Switching.VlanCreate

/-!
# The locks of the VLAN and the LAG module

Every call takes the lock of its module and gives it back. Three exits do not: a VLAN in use is not
removed, and the lock stays taken; a create with several attributes removes its VLAN in the same way;
and the attributes of an unknown LAG are not read, and a lock that was not taken is given back.

* `locksBalanced_iff` — the main result.
-/

namespace OpxSai

open VlanDb
variable (env : VlanEnv)
variable (v : VlanId)
variable (vlan_obj_id : Oid)

/-! ## The VLAN lock -/

variable (c : LagOpCall) (attr : VlanAttr) (attr_list : List VlanAttr) {db : VlanDb}

theorem vlanSetAttr_lock {db} : (vlanSetAttr env v attr db).2.vlan_lock = db.vlan_lock ∧
    (vlanSetAttr env v attr db).2.vlan_list = db.vlan_list := by
  cases attr with
  | maxLearnedAddresses u32 | learnDisable booldata | metaData u32 =>
    simp only [vlanSetAttr]
    split <;> exact ⟨rfl, rfl⟩
  | vlanId u16 | stpInstance oid | memberList | notImplemented id | acl id | unknown id =>
    exact ⟨rfl, rfl⟩

theorem vlanSetAttribute_lock (h : db.vlan_lock.Valid) :
    (vlanSetAttribute env vlan_obj_id attr db).2.vlan_lock = db.vlan_lock ∧
    (vlanSetAttribute env vlan_obj_id attr db).2.vlan_list = db.vlan_list := by
  have hback := LockDepth.unlock_lock h
  simp only [vlanSetAttribute]
  split
  · exact ⟨rfl, rfl⟩
  split
  · exact ⟨rfl, rfl⟩
  split
  · exact ⟨hback, rfl⟩
  obtain ⟨hlock, hlist⟩ := vlanSetAttr_lock env _ _
  refine ⟨?_, hlist⟩
  show LockDepth.unlock _ = _
  rw [hlock]
  exact hback

theorem vlanGetAttrs_lock : ∀ attr_idx rc db,
      (vlanGetAttrs env v attr_idx attr_list rc db).2.vlan_lock = db.vlan_lock := by
  induction attr_list with
  | nil => exact fun _ _ _ => rfl
  | cons attr attr_list ih =>
    intro attr_idx rc db
    have hread : ∀ x : Status × VlanDb, x.2.vlan_lock = db.vlan_lock →
        (if x.1 ≠ .success then (getIndexedRetVal x.1 attr_idx, x.2)
          else vlanGetAttrs env v (attr_idx + 1) attr_list x.1 x.2).2.vlan_lock = db.vlan_lock := by
      intro x hx
      split
      · exact hx
      · exact (ih _ _ _).trans hx
    simp only [vlanGetAttrs]
    refine hread _ ?_
    cases attr <;> rfl

theorem vlanGetAttribute_lock (h : db.vlan_lock.Valid) :
    (vlanGetAttribute env vlan_obj_id attr_list db).2.vlan_lock = db.vlan_lock := by
  have hback := LockDepth.unlock_lock h
  simp only [vlanGetAttribute]
  split
  · rfl
  split
  · rfl
  split
  · rfl
  split
  · exact hback
  show LockDepth.unlock _ = _
  rw [vlanGetAttrs_lock]
  exact hback

theorem vlanDelete_lock (db) :
    (vlanDelete env v db).2.vlan_lock = db.vlan_lock := by
  simp only [vlanDelete]
  split
  · rfl
  split <;> rfl

def VlanRemoveInUse (env : VlanEnv) (vlan_obj_id : Oid) (db : VlanDb) : Prop :=
  vlan_obj_id.type = .vlan ∧ isVlanConfigurable env (vlanObjIdToVlanId vlan_obj_id) db = .success ∧
    env.in_use (vlanObjIdToVlanId vlan_obj_id) = true

/-- **A remove** keeps the lock of a VLAN that is in use, and gives it back otherwise. -/
theorem vlanRemove_lock (h : db.vlan_lock.Valid) : (VlanRemoveInUse env vlan_obj_id db ∧
      (vlanRemove env vlan_obj_id db).2 = db.lock) ∨
    (¬ VlanRemoveInUse env vlan_obj_id db ∧
      (vlanRemove env vlan_obj_id db).2.vlan_lock = db.vlan_lock) := by
  have hback := LockDepth.unlock_lock h
  simp only [vlanRemove]
  split
  next htype => exact .inr ⟨fun hyes => htype hyes.1, rfl⟩
  rename_i htype
  split
  next hconf => exact .inr ⟨fun hyes => hconf hyes.2.1, hback⟩
  rename_i hconf
  split
  next huse => exact .inl ⟨⟨not_not.mp htype, not_not.mp hconf, huse⟩, rfl⟩
  rename_i huse
  refine .inr ⟨fun hyes => huse hyes.2.2, ?_⟩
  show LockDepth.unlock _ = _
  rw [vlanDelete_lock]
  exact hback

theorem vlanRemove_list {db} {v} (hno : db.vlan_list v = false) :
    (vlanRemove env vlan_obj_id db).2.vlan_list v = false := by
  have hdelete : ∀ w db', db'.vlan_list v = false → (vlanDelete env w db').2.vlan_list v = false := by
    intro w db' hno'
    simp only [vlanDelete]
    split
    · exact hno'
    split
    · exact hno'
    show (if v = w then false else db'.vlan_list v) = false
    split
    · rfl
    · exact hno'
  simp only [vlanRemove]
  split
  · exact hno
  split
  · exact hno
  split
  · exact hno
  · exact hdelete _ db.lock hno

/-- What keeps the lock taken in the loop of a create: its VLAN is in the list, and in use. -/
def VlanStays (env : VlanEnv) (v : VlanId) (db : VlanDb) : Prop :=
  isVlanIdAvailable env v = .success ∧ db.vlan_list v = true ∧ env.in_use v = true

theorem vlanRemoveInUse_iff {db} :
    VlanRemoveInUse env (vlanIdToVlanObjId v) db ↔ VlanStays env v db := by
  unfold VlanRemoveInUse VlanStays isVlanConfigurable
  rw [vlanObjIdToVlanId_vlanIdToVlanObjId, vlanIdToVlanObjId_type]
  by_cases havail : isVlanIdAvailable env v = .success
  · cases hlist : db.vlan_list v <;> simp [havail]
  · simp [havail]

theorem vlanSetAttribute_vlanId {u16} {db} :
    (vlanSetAttribute env vlan_obj_id (.vlanId u16) db).1 ≠ .success := by
  simp only [vlanSetAttribute]
  split
  · simp
  split
  · simp
  split
  · simp
  · simp [vlanSetAttr]

/-- The loop of a create gives the lock back when its VLAN does not stay. -/
theorem vlanCreateAttrs_lock {env} {v} {attr_list} {rc}
    {db} (h : db.vlan_lock.Valid) (hstays : ¬ VlanStays env v db) :
    (vlanCreateAttrs env v attr_list rc db).2.vlan_lock = db.vlan_lock := by
  induction attr_list generalizing rc db with
  | nil => rfl
  | cons attr attr_list ih =>
    obtain ⟨hlock, hlist⟩ := vlanSetAttribute_lock env _ _ h
    simp only [vlanCreateAttrs]
    generalize vlanSetAttribute _ _ _ _ = x at hlock hlist ⊢
    have hstays' : ¬ VlanStays env v x.2 := by
      unfold VlanStays at hstays ⊢
      rwa [hlist]
    have hvalid : x.2.vlan_lock.Valid := by
      rw [hlock]
      exact h
    split
    · obtain ⟨hyes, -⟩ | ⟨-, hlock'⟩ := vlanRemove_lock env _ hvalid
      · exact absurd ((vlanRemoveInUse_iff env v).mp hyes) hstays'
      rw [ih (hlock' ▸ hvalid) ?_, hlock', hlock]
      -- a VLAN that was not in the list, or not in use, stays so
      rintro ⟨havail, hin, huse⟩
      cases hx : x.2.vlan_list v with
      | false =>
        rw [vlanRemove_list env _ hx] at hin
        cases hin
      | true => exact hstays' ⟨havail, hx, huse⟩
    · rw [ih hvalid hstays', hlock]

/-- The loop of a create leaves the lock taken once for each set that fails when its VLAN stays. -/
theorem vlanCreateAttrs_lock_stays {env} {v} {attr_list}
    {rc} {db} (h : db.vlan_lock.Valid) (hstays : VlanStays env v db) :
    (vlanCreateAttrs env v attr_list rc db).2.vlan_lock.Valid ∧
    db.vlan_lock.depth ≤ (vlanCreateAttrs env v attr_list rc db).2.vlan_lock.depth ∧
    ((∃ u16, .vlanId u16 ∈ attr_list) →
      db.vlan_lock.depth < (vlanCreateAttrs env v attr_list rc db).2.vlan_lock.depth) := by
  induction attr_list generalizing rc db with
  | nil =>
    refine ⟨h, le_refl _, ?_⟩
    rintro ⟨u16, hmem⟩
    cases hmem
  | cons attr attr_list ih =>
    obtain ⟨hlock, hlist⟩ := vlanSetAttribute_lock env _ _ h
    have hid : ∀ u16, attr = .vlanId u16 →
        (vlanSetAttribute env (vlanIdToVlanObjId v) attr db).1 ≠ .success := by
      rintro u16 rfl
      exact vlanSetAttribute_vlanId env _
    simp only [vlanCreateAttrs]
    generalize vlanSetAttribute _ _ _ _ = x at hlock hlist hid ⊢
    have hstays' : VlanStays env v x.2 := by
      unfold VlanStays at hstays ⊢
      rwa [hlist]
    have hvalid : x.2.vlan_lock.Valid := by
      rw [hlock]
      exact h
    split
    · obtain ⟨-, heq⟩ | ⟨hno, -⟩ := vlanRemove_lock env _ hvalid
      · rw [heq]
        obtain ⟨hvalid', hle, -⟩ := @ih x.1 x.2.lock hvalid.lock hstays'
        have hdepth : x.2.lock.vlan_lock.depth = db.vlan_lock.depth + 1 := by
          rw [← hlock]
          rfl
        exact ⟨hvalid', by omega, fun _ => by omega⟩
      · exact absurd ((vlanRemoveInUse_iff env v).mpr hstays') hno
    next hset =>
      obtain ⟨hvalid', hle, hlt⟩ := @ih x.1 x.2 hvalid hstays'
      rw [hlock] at hle hlt
      refine ⟨hvalid', hle, ?_⟩
      rintro ⟨u16, hmem⟩
      rcases List.mem_cons.mp hmem with heq | hmem
      · exact absurd (hid u16 heq.symm) hset
      · exact hlt ⟨u16, hmem⟩

theorem vlanCreateLocked_lock (h : db.vlan_lock.Valid) :
    (vlanCreateLocked env v db).2.vlan_lock = db.vlan_lock := by
  have hback := LockDepth.unlock_lock h
  have hinsert : (db.lock.insertInList env v).2.vlan_lock = db.vlan_lock.lock := by
    simp only [VlanDb.insertInList]
    split <;> rfl
  simp only [vlanCreateLocked]
  generalize db.lock.insertInList _ v = a at hinsert ⊢
  have hcall : (a.2.call env (.vlanCreate v)).2.vlan_lock = db.vlan_lock.lock := hinsert
  split
  · exact hback
  split
  · show LockDepth.unlock _ = _
    rw [hinsert]
    exact hback
  split
  · show LockDepth.unlock (a.2.call env (.vlanCreate v)).2.vlan_lock = _
    rw [hcall]
    exact hback
  split
  · show LockDepth.unlock (a.2.call env (.vlanCreate v)).2.vlan_lock = _
    rw [hcall]
    exact hback
  show LockDepth.unlock (a.2.call env (.vlanCreate v)).2.vlan_lock = _
  rw [hcall]
  exact hback

def VlanCreateInUse (env : VlanEnv) (attr_list : List VlanAttr) (db : VlanDb) : Prop :=
  ∃ v, vlanIdOf attr_list = some v ∧ 1 < attr_list.length ∧ isVlanIdAvailable env v = .success ∧
    env.in_use v = true ∧ (db.vlan_list v = true ∨ VlanIsMade env v db)

theorem mem_of_vlanIdOf {attr_list} {v} (h : vlanIdOf attr_list = some v) :
    .vlanId v ∈ attr_list := by
  induction attr_list with
  | nil => exact absurd h (by simp [vlanIdOf])
  | cons attr attr_list ih =>
    cases attr with
    | vlanId u16 =>
      cases h
      simp
    | maxLearnedAddresses u32 | stpInstance oid | memberList | learnDisable booldata
      | notImplemented id | metaData u32 | acl id | unknown id =>
      exact List.mem_cons_of_mem _ (ih h)

/-- **A create** leaves the lock taken when it runs into its own VLAN in use, and gives it back
otherwise. -/
theorem vlanCreate_lock (h : db.vlan_lock.Valid) :
    (VlanCreateInUse env attr_list db ∧ (vlanCreate env attr_list db).2.vlan_lock.Valid ∧
      db.vlan_lock.depth < (vlanCreate env attr_list db).2.vlan_lock.depth) ∨
    (¬ VlanCreateInUse env attr_list db ∧
      (vlanCreate env attr_list db).2.vlan_lock = db.vlan_lock) := by
  cases hv : vlanIdOf attr_list with
  | none =>
    refine .inr ⟨?_, ?_⟩
    · rintro ⟨v, hv', -⟩
      exact absurd (hv.symm.trans hv') (by simp)
    · simp [vlanCreate, hv]
  | some v =>
    have hlock := vlanCreateLocked_lock env v h
    have hlist : (vlanCreateLocked env v db).2.vlan_list v = true ↔
        (db.vlan_list v = true ∨ VlanIsMade env v db) := by
      rcases vlanCreateLocked_cases env with ⟨hno, -, hsame⟩ | ⟨hmade, -, -, hin⟩
      · rw [hsame.list]
        exact ⟨.inl, fun hyes => hyes.resolve_right hno⟩
      · exact iff_of_true hin (.inr hmade)
    have hvalid : (vlanCreateLocked env v db).2.vlan_lock.Valid := by
      rw [hlock]
      exact h
    by_cases hlen : 1 < attr_list.length
    · have hcreate : vlanCreate env attr_list db = vlanCreateAttrs env v attr_list
          (vlanCreateLocked env v db).1 (vlanCreateLocked env v db).2 := by
        simp only [vlanCreate, hv]
        rw [if_pos hlen]
      rw [hcreate]
      by_cases hstays : VlanStays env v (vlanCreateLocked env v db).2
      · obtain ⟨hvalid', -, hlt⟩ := @vlanCreateAttrs_lock_stays env v attr_list
          (vlanCreateLocked env v db).1 _ hvalid hstays
        rw [hlock] at hlt
        exact .inl ⟨⟨v, hv, hlen, hstays.1, hstays.2.2, hlist.mp hstays.2.1⟩, hvalid',
          hlt ⟨v, mem_of_vlanIdOf hv⟩⟩
      refine .inr ⟨?_, (vlanCreateAttrs_lock hvalid hstays).trans hlock⟩
      rintro ⟨w, hw, -, havail, huse, hin⟩
      obtain rfl := Option.some.inj (hv.symm.trans hw)
      exact hstays ⟨havail, hlist.mpr hin, huse⟩
    · have hcreate : vlanCreate env attr_list db = vlanCreateLocked env v db := by
        simp only [vlanCreate, hv]
        rw [if_neg hlen]
      rw [hcreate]
      refine .inr ⟨?_, hlock⟩
      rintro ⟨w, -, hlen', -⟩
      exact hlen hlen'

theorem vlanMember_lock (h : db.vlan_lock.Valid) :
    (∀ attr_list, (vlanMemberCreate env attr_list db).2.vlan_lock = db.vlan_lock) ∧
    (∀ member_id, (vlanMemberRemove env member_id db).2.vlan_lock = db.vlan_lock) ∧
    (∀ member_id attr,
      (vlanMemberSetAttribute env member_id attr db).2.vlan_lock = db.vlan_lock) ∧
    (∀ member_id attr_list,
      (vlanMemberGetAttribute member_id attr_list db).2.2.vlan_lock = db.vlan_lock) := by
  have hback := LockDepth.unlock_lock h
  have hlocked : ∀ member db',
      (vlanMemberCreateLocked env member db').2.vlan_lock = db'.vlan_lock := by
    intro member db'
    simp only [vlanMemberCreateLocked]
    repeat' split
    all_goals rfl
  have hattr : ∀ member_id member attr db',
      (vlanMemberSetAttr env member_id member attr db').2.vlan_lock = db'.vlan_lock := by
    intro member_id member attr db'
    simp only [vlanMemberSetAttr]
    repeat' split
    all_goals rfl
  refine ⟨fun attr_list => ?_, fun member_id => ?_, fun member_id attr => ?_,
    fun member_id attr_list => ?_⟩
  · simp only [vlanMemberCreate]
    split
    · rfl
    split
    · rfl
    · show LockDepth.unlock _ = _
      rw [hlocked]
      exact hback
    · rfl
  · simp only [vlanMemberRemove]
    split
    · rfl
    split
    · exact hback
    split
    · exact hback
    split <;> exact hback
  · simp only [vlanMemberSetAttribute]
    split
    · rfl
    split
    · exact hback
    show LockDepth.unlock _ = _
    rw [hattr]
    exact hback
  · simp only [vlanMemberGetAttribute]
    split
    · rfl
    split <;> exact hback

/-! ## The LAG lock -/

theorem LagDb.nodeAdd_lock (env : LagEnv) (lag_id : Oid) (db : LagDb) :
    (db.nodeAdd env lag_id).2.lag_lock = db.lag_lock := by
  simp only [LagDb.nodeAdd]
  split
  · rfl
  split <;> rfl

theorem LagDb.nodeRemove_lock (lag_id : Oid) (db : LagDb) :
    (db.nodeRemove lag_id).2.lag_lock = db.lag_lock := by
  unfold LagDb.nodeRemove
  split <;> rfl

theorem l2AddLagPort_lock (env) (lag_id port_id) (db) :
    (l2AddLagPort env lag_id port_id db).2.lag_lock = db.lag_lock := by
  simp only [l2AddLagPort, LagDb.portNodeAdd]
  split
  · rfl
  split <;> rfl

theorem l2LagPortFlagSet_lock {env} {lag_id port_id} {is_ingress value : Bool}
    {db} :
    (l2LagPortFlagSet env lag_id port_id is_ingress value db).2.lag_lock = db.lag_lock := by
  simp only [l2LagPortFlagSet]
  split
  · rfl
  generalize (if is_ingress = true then _ else _ : Bool) = old_value
  split
  · rfl
  split <;> rfl

theorem l2LagMemberFlag_lock (env) (lag_id port_id) (is_ingress : Bool)
    (value) (db) :
    (l2LagMemberFlag env lag_id port_id is_ingress value db).2.lag_lock = db.lag_lock := by
  cases value with
  | none => rfl
  | some value => exact l2LagPortFlagSet_lock

theorem l2CreateLagMemberLocked_lock (env) (lag port_id)
    (ing_disable egr_disable) (db) :
    (l2CreateLagMemberLocked env lag port_id ing_disable egr_disable db).2.lag_lock =
      db.lag_lock := by
  have hadd := l2AddLagPort_lock env lag port_id db
  simp only [l2CreateLagMemberLocked]
  split
  · rfl
  split
  · exact hadd
  generalize l2AddLagPort _ _ _ _ = a at hadd ⊢
  have hing := (l2LagMemberFlag_lock env lag port_id true ing_disable a.2).trans hadd
  generalize l2LagMemberFlag _ _ _ _ _ _ = b at hing ⊢
  have hegr := (l2LagMemberFlag_lock env lag port_id false egr_disable b.2).trans hing
  generalize hc : (if b.1 ≠ .success then b
    else l2LagMemberFlag env lag port_id false egr_disable b.2) = c
  have hboth : c.2.lag_lock = db.lag_lock := by
    rw [← hc]
    split
    · exact hing
    · exact hegr
  split <;> exact hboth

theorem l2GetLagAttrs_lock {env} (lag_id) (attr_list) :
    ∀ attr_idx rc db,
      (l2GetLagAttrs env lag_id attr_idx attr_list rc db).2.lag_lock = db.lag_lock := by
  induction attr_list with
  | nil => exact fun _ _ _ => rfl
  | cons attr attr_list ih =>
    intro attr_idx rc db
    have hread : ∀ x : Status × LagDb, x.2.lag_lock = db.lag_lock →
        (if x.1 ≠ .success then x
          else l2GetLagAttrs env lag_id (attr_idx + 1) attr_list x.1 x.2).2.lag_lock =
            db.lag_lock := by
      intro x hx
      split
      · exact hx
      · exact (ih _ _ _).trans hx
    simp only [l2GetLagAttrs]
    refine hread _ ?_
    cases attr <;> rfl

/-- **A LAG call** gives the lock back, but for a read of an unknown LAG, which gives one back that
it has not taken. -/
theorem lagExec_lock {db} (h : db.lag_lock.Valid) :
    ((∃ lag_id attr_list, c.op = .get lag_id attr_list ∧ db.lags lag_id = false) ∧
      (lagExec c db).2.lag_lock = db.lag_lock.unlock) ∨
    ((∀ lag_id attr_list, c.op = .get lag_id attr_list → db.lags lag_id = true) ∧
      (lagExec c db).2.lag_lock = db.lag_lock) := by
  have hback := LockDepth.unlock_lock h
  have hsame : ∀ db' : LagDb, db'.lag_lock = db.lag_lock.lock →
      db'.unlock.lag_lock = db.lag_lock := by
    intro db' hdb'
    show LockDepth.unlock _ = _
    rw [hdb']
    exact hback
  obtain ⟨env, op⟩ := c
  cases op with
  | get lag_id attr_list =>
    simp only [lagExec, l2GetLagAttribute]
    cases hl : db.lags lag_id with
    | false =>
      rw [if_pos (by decide)]
      exact .inl ⟨⟨lag_id, attr_list, rfl, hl⟩, rfl⟩
    | true =>
      rw [if_neg (by decide)]
      refine .inr ⟨fun lag_id' attr_list' heq => ?_, l2GetLagAttrs_lock _ _ _ _ _⟩
      obtain ⟨rfl, -⟩ := LagOp.get.inj heq
      exact hl
  | create attr_list =>
    refine .inr ⟨fun _ _ heq => absurd heq (by simp), ?_⟩
    simp only [lagExec, l2CreateLag]
    split
    · exact hback
    have hadd := LagDb.nodeAdd_lock env env.npu_lag_id
      (db.lock.call env (.lagCreate env.npu_lag_id)).2
    generalize (db.lock.call env (.lagCreate env.npu_lag_id)).2.nodeAdd _ _ = b at hadd ⊢
    refine hsame _ ?_
    have hboth : (if b.1 ≠ .success then (b.2.call env (.lagRemove env.npu_lag_id)).2
        else b.2).lag_lock = db.lag_lock.lock := by
      split
      · exact hadd
      · exact hadd
    split
    · rw [LagDb.nodeRemove_lock]
      exact hboth
    · exact hboth
  | remove lag_id =>
    refine .inr ⟨fun _ _ heq => absurd heq (by simp), ?_⟩
    simp only [lagExec, l2RemoveLag]
    split
    · exact hback
    split
    · exact hback
    refine hsame _ ?_
    have hremove := LagDb.nodeRemove_lock lag_id db.lock
    split
    · split
      · rw [LagDb.nodeAdd_lock]
        exact hremove
      · exact hremove
    · exact hremove
  | set lag_id attr =>
    refine .inr ⟨fun _ _ heq => absurd heq (by simp), ?_⟩
    simp only [lagExec, l2SetLagAttribute]
    split <;> exact hback
  | memberCreate attr_list =>
    refine .inr ⟨fun _ _ heq => absurd heq (by simp), ?_⟩
    simp only [lagExec, l2CreateLagMember]
    split
    · rfl
    next lag port_id ing_disable egr_disable _ =>
      have hlocked := hsame _
        (l2CreateLagMemberLocked_lock env lag port_id ing_disable egr_disable db.lock)
      split <;> exact hlocked
    · rfl
  | memberRemove member_id =>
    refine .inr ⟨fun _ _ heq => absurd heq (by simp), ?_⟩
    simp only [lagExec, l2RemoveLagMember]
    repeat' split
    all_goals exact hback
  | memberSet member_id attr =>
    refine .inr ⟨fun _ _ heq => absurd heq (by simp), ?_⟩
    simp only [lagExec, l2SetLagMemberAttribute]
    split
    · exact hback
    have hlock : db.lock.unlock.lock.lag_lock = db.lag_lock.lock := congrArg LockDepth.lock hback
    refine hsame _ ?_
    cases attr with
    | lagId oid | portId oid | unknown id => exact hlock
    | egressDisable booldata | ingressDisable booldata => exact l2LagPortFlagSet_lock.trans hlock
  | memberGet member_id attr_list =>
    refine .inr ⟨fun _ _ heq => absurd heq (by simp), ?_⟩
    simp only [lagExec, l2GetLagMemberAttribute]
    split
    · exact hback
    · exact hsame _ (congrArg LockDepth.lock hback)

/-! ## Both modules -/

structure SwitchingDb where
  vlan : VlanDb
  lag : LagDb

inductive SwitchingCall where
  | vlan (c : VlanOpCall)
  | lag (c : LagOpCall)

def switchingStep (c : SwitchingCall) (db : SwitchingDb) : SwitchingDb :=
  match c with
  | .vlan c => { db with vlan := vlanStep c db.vlan }
  | .lag c => { db with lag := lagStep c db.lag }

/-- The depth of each lock is what it was, and it has not been below zero on the way. -/
structure LocksBalanced (db db' : SwitchingDb) : Prop where
  vlan : db'.vlan.vlan_lock = db.vlan.vlan_lock
  lag : db'.lag.lag_lock = db.lag.lag_lock

/-- The condition on a call: it does not remove a VLAN in use, it does not create one with several
attributes that is in use, and it does not read an unknown LAG. -/
def SwitchingCall.LocksOk (c : SwitchingCall) (db : SwitchingDb) : Prop :=
  match c with
  | .vlan ⟨env, .remove vlan_obj_id⟩ => ¬ VlanRemoveInUse env vlan_obj_id db.vlan
  | .vlan ⟨env, .create attr_list⟩ => ¬ VlanCreateInUse env attr_list db.vlan
  | .lag ⟨_, .get lag_id _⟩ => db.lag.lags lag_id = true
  | _ => True

structure LocksValid (db : SwitchingDb) : Prop where
  vlan : db.vlan.vlan_lock.Valid
  lag : db.lag.lag_lock.Valid

theorem vlanStep_lock {c} {db} (h : db.vlan.vlan_lock.Valid) :
    (vlanStep c db.vlan).vlan_lock.Valid ∧
    ((vlanStep c db.vlan).vlan_lock = db.vlan.vlan_lock ↔ (SwitchingCall.vlan c).LocksOk db) := by
  have hsame : ∀ l : LockDepth, l = db.vlan.vlan_lock → ∀ P : Prop, P →
      l.Valid ∧ (l = db.vlan.vlan_lock ↔ P) := by
    rintro l rfl P hp
    exact ⟨h, iff_of_true rfl hp⟩
  obtain ⟨env, op⟩ := c
  obtain ⟨hcreate, hremove, hset, hget⟩ := vlanMember_lock env h
  cases op with
  | create attr_list =>
    rcases vlanCreate_lock env _ h with ⟨huse, hvalid, hlt⟩ | ⟨hno, hlock⟩
    · refine ⟨hvalid, iff_of_false (fun heq => ?_) fun hno => hno huse⟩
      have heq' : (vlanCreate env attr_list db.vlan).2.vlan_lock = db.vlan.vlan_lock := heq
      rw [heq'] at hlt
      exact absurd hlt (lt_irrefl _)
    · exact hsame _ hlock _ hno
  | remove vlan_obj_id =>
    rcases vlanRemove_lock env _ h with ⟨huse, heq⟩ | ⟨hno, hlock⟩
    · have hlock : (vlanRemove env vlan_obj_id db.vlan).2.vlan_lock = db.vlan.vlan_lock.lock := by
        rw [heq]
        rfl
      refine ⟨?_, iff_of_false (fun hyes => ?_) fun hno => hno huse⟩
      · show (vlanRemove env vlan_obj_id db.vlan).2.vlan_lock.Valid
        rw [hlock]
        exact h.lock
      · exact LockDepth.lock_ne _ (hlock.symm.trans hyes)
    · exact hsame _ hlock _ hno
  | set vlan_obj_id attr => exact hsame _ (vlanSetAttribute_lock env _ _ h).1 _ trivial
  | get vlan_obj_id attr_list => exact hsame _ (vlanGetAttribute_lock env _ _ h) _ trivial
  | memberCreate attr_list => exact hsame _ (hcreate attr_list) _ trivial
  | memberRemove member_id => exact hsame _ (hremove member_id) _ trivial
  | memberSet member_id attr => exact hsame _ (hset member_id attr) _ trivial
  | memberGet member_id attr_list => exact hsame _ (hget member_id attr_list) _ trivial
  | instanceCreate attr_count => exact hsame _ rfl _ trivial
  | instanceRemove stp_inst_id => exact hsame _ rfl _ trivial

theorem lagStep_lock {db} (h : db.lag.lag_lock.Valid) :
    (lagStep c db.lag).lag_lock.Valid ∧
    ((lagStep c db.lag).lag_lock = db.lag.lag_lock ↔ (SwitchingCall.lag c).LocksOk db) := by
  rcases lagExec_lock c h with ⟨⟨lag_id, attr_list, hop, hno⟩, hlock⟩ | ⟨hknown, hlock⟩
  · refine ⟨?_, iff_of_false (fun heq => ?_) fun hyes => ?_⟩
    · show (lagExec c db.lag).2.lag_lock.Valid
      rw [hlock]
      exact LockDepth.Valid.unlock _
    · exact LockDepth.unlock_ne _ (hlock.symm.trans heq)
    · obtain ⟨env, op⟩ := c
      obtain rfl : op = .get lag_id attr_list := hop
      have hyes' : db.lag.lags lag_id = true := hyes
      rw [hno] at hyes'
      cases hyes'
  · refine ⟨?_, iff_of_true hlock ?_⟩
    · show (lagExec c db.lag).2.lag_lock.Valid
      rw [hlock]
      exact h
    · obtain ⟨env, op⟩ := c
      cases op with
      | get lag_id attr_list => exact hknown lag_id attr_list rfl
      | create attr_list | remove lag_id | set lag_id attr | memberCreate attr_list
        | memberRemove member_id | memberSet member_id attr | memberGet member_id attr_list =>
        exact trivial

theorem LocksValid.step {db} (h : LocksValid db) {c} :
    LocksValid (switchingStep c db) := by
  cases c with
  | vlan c => exact ⟨(vlanStep_lock h.vlan).1, h.lag⟩
  | lag c => exact ⟨h.vlan, (lagStep_lock c h.lag).1⟩

def SwitchingDb.initial (stp : StpDb) (lag_event : List Nat) : SwitchingDb :=
  ⟨.initial stp, .initial lag_event⟩

/-- **Locks are balanced**: in every state that any run reaches, a call leaves both locks as it found
them if and only if it meets the condition. -/
theorem locksBalanced_iff {stp : StpDb} {lag_event : List Nat} {db : SwitchingDb}
    (hrun : Run switchingStep (fun _ _ => True) (.initial stp lag_event) db) (c : SwitchingCall) :
    LocksBalanced db (switchingStep c db) ↔ c.LocksOk db := by
  have hvalid : LocksValid db :=
    hrun.induct (P := LocksValid) (fun c _ h _ => h.step)
      ⟨fun hneg => absurd hneg (lt_irrefl (0 : Int)), fun hneg => absurd hneg (lt_irrefl (0 : Int))⟩
  cases c with
  | vlan c => refine Iff.trans ⟨fun h => h.vlan, fun h => ⟨h, rfl⟩⟩ (vlanStep_lock hvalid.vlan).2
  | lag c => refine Iff.trans ⟨fun h => h.lag, fun h => ⟨rfl, h⟩⟩ (lagStep_lock c hvalid.lag).2

/-- The first call removes a VLAN that is not in use. -/
theorem locksBalanced_iff_remove :
    let db : SwitchingDb := .initial (.initial ⟨.stp, 1⟩ none 255) []
    LocksBalanced db (switchingStep (.vlan ⟨.good 7, .remove (vlanIdToVlanObjId 10)⟩) db) := by
  intro db
  let c := SwitchingCall.vlan ⟨.good 7, .remove (vlanIdToVlanObjId 10)⟩
  refine (locksBalanced_iff (.nil _) c).mpr ?_
  rintro ⟨-, -, huse⟩
  cases huse

/-- The attributes of a LAG that there is not are read, on the first call of all. -/
theorem not_locksBalanced_get :
    let db : SwitchingDb := .initial (.initial ⟨.stp, 1⟩ none 255) []
    ¬ LocksBalanced db
      (switchingStep (.lag ⟨.good ⟨.lag, 1⟩ ⟨.lagMember, 1⟩, .get ⟨.lag, 5⟩ [.portList]⟩) db) := by
  intro db h
  exact absurd h.lag (by decide)

end OpxSai
