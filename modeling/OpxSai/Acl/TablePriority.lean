import OpxSai.Acl.Table
import OpxSai.Acl.RulePopulate
import OpxSai.Lib.Run

/-!
# The priorities of ACL tables

No two tables of a stage are to have the same priority. The validation of a create looks for one,
but the table is inserted later, and a group member brings a priority of its own.

* `TableOpOk` — the condition: a table that is inserted passes the check once more, and a member
  brings a priority that no other table of the stage has;
* `tablePrioritiesApart_of_run` — the main result;
* `TableOpOk.validated` — a create with nothing in between meets the condition.
-/

variable (caller : Nat) (env : AclTableEnv) (attr_list : List AclTableAttr)

namespace OpxSai

open AclDb
variable {stage : AclStage} {attrs : List AclTableAttr}

/-! ## The property and the condition -/

/-- No two tables of the same stage have the same priority. -/
def TablePrioritiesApart (db : AclTableDb) : Prop :=
  ∀ t t' table table', db.acl.table_tree t = some table → db.acl.table_tree t' = some table' →
    table.acl_stage = table'.acl_stage → table.acl_table_priority = table'.acl_table_priority →
    t = t'

def TableKeysFit (db : AclTableDb) : Prop :=
  ∀ t, (db.acl.table_tree t).isSome → t ∈ db.table_keys

def MemberReachesTable (env : AclEnv) (attr_list : List AclMemberAttr) (db : AclDb)
    (member : AclTableGroupMember) : Prop :=
  env.avail .memberNode = true ∧
  aclTableGroupMemberParseUpdateAttributes env .zero attr_list .create = (.success, member) ∧
  (aclTableGroupMemberIdCreate env { db with members := db.members.alloc member }).isSome ∧
  env.avail .memberTree = true

def TableOpOk (op : AclTableOp) (db : AclTableDb) : Prop :=
  match op with
  | .create caller env => ∀ attr_list counts table_idx new,
      db.pending caller = some (attr_list, counts) → env.avail .table = true →
      aclTableMake env attr_list counts db = .ok (table_idx, new) → env.avail .tableTree = true →
      aclTableSamePriority new.table.acl_table_priority new.table.acl_stage db = false
  | .group ⟨env, .memberCreate attr_list⟩ => ∀ member table,
      MemberReachesTable env attr_list db.acl member →
      db.acl.table_tree member.acl_table_id = some table →
      ∀ t table', t ≠ member.acl_table_id → db.acl.table_tree t = some table' →
        table'.acl_stage = table.acl_stage → table'.acl_table_priority ≠ member.priority
  | _ => True

theorem aclTableSamePriority_eq_false {db} (hkeys : TableKeysFit db) {priority : BitVec 32}
    (h : aclTableSamePriority priority stage db = false) {t} {table}
    (ht : db.acl.table_tree t = some table) (hstage : table.acl_stage = stage) :
    table.acl_table_priority ≠ priority := by
  intro hprio
  have hin : t ∈ db.table_keys := hkeys t (by simp [ht])
  have hno := List.any_eq_false.mp h t hin
  rw [ht] at hno
  simp [hstage, hprio] at hno

/-! ## The steps -/

/-- What a step on groups does to the tables: nothing, or a member brings its priority. -/
theorem aclGroupStep_tables (c) (db) :
    (aclGroupStep c db).table_tree = db.table_tree ∨
    ∃ attr_list member, c.op = .memberCreate attr_list ∧
      MemberReachesTable c.env attr_list db member ∧
      ∀ t, (aclGroupStep c db).table_tree t =
        if t = member.acl_table_id then
          (db.table_tree t).map fun table => { table with acl_table_priority := member.priority }
        else db.table_tree t := by
  obtain ⟨env, op⟩ := c
  cases op with
  | groupCreate attr_list =>
    refine .inl ?_
    simp only [aclGroupStep, aclGroupExec, aclTableGroupCreate]
    repeat' split
    all_goals rfl
  | groupDelete gid =>
    refine .inl ?_
    simp only [aclGroupStep, aclGroupExec, aclTableGroupDelete]
    repeat' split
    all_goals rfl
  | groupSet gid attr =>
    refine .inl ?_
    simp only [aclGroupStep, aclGroupExec, aclTableGroupAttributeSet]
    repeat' split
    all_goals rfl
  | memberDelete mid =>
    refine .inl ?_
    simp only [aclGroupStep, aclGroupExec, aclTableGroupMemberDelete, aclTableGroupTableIdUpdate]
    repeat' split
    all_goals rfl
  | memberSet mid attr =>
    refine .inl ?_
    simp only [aclGroupStep, aclGroupExec, aclTableGroupMemberAttributeSet]
    repeat' split
    all_goals rfl
  | memberCreate attr_list =>
    simp only [aclGroupStep, aclGroupExec, aclTableGroupMemberCreate]
    split
    · exact .inl rfl
    rename_i hnode
    generalize hx : aclTableGroupMemberParseUpdateAttributes _ _ _ _ = x
    obtain ⟨rc, member⟩ := x
    dsimp only
    split
    · exact .inl rfl
    rename_i hok
    split
    · exact .inl rfl
    rename_i member_id hid
    split
    · exact .inl rfl
    rename_i htree
    split
    · exact .inl rfl
    refine .inr ⟨attr_list, member, rfl, ⟨by simpa using hnode, ?_, ?_, by simpa using htree⟩, ?_⟩
    · rw [hx, not_not.mp hok]
    · rw [hid]
      rfl
    · intro t
      simp only [aclTableGroupTableIdUpdate]
      repeat' split
      all_goals simp_all [memberFree, AclDb.modTable, AclDb.modMember, AclDb.modGroup]

def AclTableDb.addTable (db : AclTableDb) (table_idx : Nat) (new : AclTableNew) : AclTableDb :=
  { db with
    acl := { db.acl with
      table_tree := fun t =>
        if t = uoidCreate .aclTable (table_idx + 1) then some new.table else db.acl.table_tree t }
    table_keys := db.table_keys ++ [uoidCreate .aclTable (table_idx + 1)]
    table_in_use := db.table_in_use.set table_idx true
    table_info := fun t => if t = uoidCreate .aclTable (table_idx + 1) then new.info else db.table_info t }

variable {db : AclTableDb}

/-- The tables after the second step of a create: those there were, or one more, which was made by
the attributes. -/
theorem aclTableCreateLocked_cases (counts) (db) :
    ((aclTableCreateLocked env attr_list counts db).2 = db) ∨
    ∃ table_idx new, env.avail .table = true ∧ env.avail .tableTree = true ∧
      aclTableMake env attr_list counts db = .ok (table_idx, new) ∧
      db.acl.table_tree (uoidCreate .aclTable (table_idx + 1)) = none ∧
      aclTableCreateLocked env attr_list counts db = (.success, db.addTable table_idx new) := by
  unfold aclTableCreateLocked
  split
  · exact .inl rfl
  rename_i htable
  split
  · exact .inl rfl
  rename_i table_idx new hmake
  dsimp only
  split
  · exact .inl rfl
  rename_i htree
  obtain ⟨havail, hnone⟩ := not_or.mp htree
  exact .inr ⟨table_idx, new, by simpa using htable, by simpa using havail, hmake,
    Option.not_isSome_iff_eq_none.mp hnone, rfl⟩

/-- What a delete does to the tables: nothing, or one that counts nothing is gone. -/
theorem aclTableDelete_cases (table_id) (db) :
    ((aclTableDelete env table_id db).2 = db) ∨
    ∃ table table_in_use, db.acl.table_tree table_id = some table ∧ table.rule_count = 0 ∧
      (db.table_info table_id).num_counters = 0 ∧
      (aclTableDelete env table_id db).2 = { aclTableRemove table_id db with table_in_use := table_in_use } := by
  unfold aclTableDelete
  split
  · exact .inl rfl
  split
  · exact .inl rfl
  rename_i table htable
  split
  · exact .inl rfl
  rename_i hcount
  split
  · exact .inl rfl
  rename_i hnum
  dsimp only
  split
  · split
    · exact .inl rfl
    · exact .inr ⟨table, _, htable, not_not.mp hcount, not_not.mp hnum, rfl⟩
  · exact .inr ⟨table, _, htable, not_not.mp hcount, not_not.mp hnum, rfl⟩

theorem aclTableValidate_tables (db) : (aclTableValidate caller env attr_list db).acl = db.acl ∧
      (aclTableValidate caller env attr_list db).table_keys = db.table_keys := by
  unfold aclTableValidate
  repeat' split
  all_goals exact ⟨rfl, rfl⟩

variable {db' : AclTableDb} {env : AclTableEnv}

theorem TableKeysFit.step (h : TableKeysFit db) (op) :
    TableKeysFit (aclTableStep op db) := by
  intro t ht
  cases op with
  | validate caller env attr_list =>
    obtain ⟨hacl, hkeys⟩ := aclTableValidate_tables _ env _ db
    simp only [aclTableStep] at ht ⊢
    rw [hacl] at ht
    rw [hkeys]
    exact h t ht
  | create caller env =>
    simp only [aclTableStep, aclTableCreate] at ht ⊢
    split at ht
    · exact h t ht
    rename_i attr_list counts hsome
    rcases aclTableCreateLocked_cases env _ _ _ with
      heq | ⟨table_idx, new, -, -, -, -, heq⟩
    · rw [heq] at ht ⊢
      exact h t ht
    · rw [heq] at ht ⊢
      simp only [AclTableDb.addTable] at ht ⊢
      split at ht
      next heq => simp [heq]
      · exact List.mem_append_left _ (h t ht)
  | delete env table_id =>
    simp only [aclTableStep] at ht ⊢
    rcases aclTableDelete_cases env _ db with heq | ⟨table, table_in_use, -, -, -, heq⟩
    · rw [heq] at ht ⊢
      exact h t ht
    rw [heq] at ht ⊢
    simp only [aclTableRemove] at ht ⊢
    split at ht
    · cases ht
    next hne => exact (List.mem_erase_of_ne hne).mpr (h t ht)
  | group c =>
    refine h t ?_
    simp only [aclTableStep] at ht
    rcases aclGroupStep_tables c _ with heq | ⟨attr_list, member, -, -, htree⟩
    · rwa [heq] at ht
    rw [htree] at ht
    split at ht
    · simpa using ht
    · exact ht

theorem TablePrioritiesApart.mono (h : TablePrioritiesApart db)
    (hsub : ∀ t table, db'.acl.table_tree t = some table → db.acl.table_tree t = some table) :
    TablePrioritiesApart db' :=
  fun t t' _ _ ht ht' => h t t' _ _ (hsub t _ ht) (hsub t' _ ht')

theorem TablePrioritiesApart.write (h : TablePrioritiesApart db) (id)
    (new) (hnew : ∀ table, db'.acl.table_tree id = some table → table = new)
    (hother : ∀ t, t ≠ id → db'.acl.table_tree t = db.acl.table_tree t)
    (hapart : ∀ t table, t ≠ id → db.acl.table_tree t = some table →
      table.acl_stage = new.acl_stage → table.acl_table_priority ≠ new.acl_table_priority) :
    TablePrioritiesApart db' := by
  intro t t' table table' ht ht' hstage hprio
  by_cases hid : t = id
  · subst hid
    by_contra hne
    rw [hnew table ht] at hstage hprio
    rw [hother t' fun heq => hne heq.symm] at ht'
    exact hapart t' table' (fun heq => hne heq.symm) ht' hstage.symm hprio.symm
  rw [hother t hid] at ht
  by_cases hid' : t' = id
  · subst hid'
    rw [hnew table' ht'] at hstage hprio
    exact absurd hprio (hapart t table hid ht hstage)
  · rw [hother t' hid'] at ht'
    exact h t t' table table' ht ht' hstage hprio

theorem TablePrioritiesApart.step (h : TablePrioritiesApart db)
    (hkeys : TableKeysFit db) {op} (hok : TableOpOk op db) :
    TablePrioritiesApart (aclTableStep op db) := by
  cases op with
  | validate caller env attr_list =>
    refine h.mono fun t table ht => ?_
    rw [← (aclTableValidate_tables caller env attr_list db).1]
    exact ht
  | create caller env =>
    simp only [aclTableStep, aclTableCreate]
    split
    · exact h
    rename_i attr_list counts hsome
    rcases aclTableCreateLocked_cases env attr_list counts (db.setPending caller none) with
      heq | ⟨table_idx, new, htable, htree, hmake, -, heq⟩
    · rw [heq]
      exact h
    · rw [heq]
      -- the check would pass now as well
      have hsame := hok attr_list counts table_idx new hsome htable hmake htree
      refine h.write (uoidCreate .aclTable (table_idx + 1)) new.table (fun table ht => ?_) (fun t hne => ?_)
        fun t table _ ht hstage => aclTableSamePriority_eq_false hkeys hsame ht hstage
      · exact (Option.some.inj ((if_pos rfl).symm.trans ht)).symm
      · exact if_neg hne
  | delete env table_id =>
    simp only [aclTableStep]
    rcases aclTableDelete_cases env table_id db with heq | ⟨table, table_in_use, -, -, -, heq⟩
    · rw [heq]
      exact h
    refine h.mono fun t table ht => ?_
    rw [heq] at ht
    simp only [aclTableRemove] at ht
    split at ht
    · cases ht
    · exact ht
  | group c =>
    rcases aclGroupStep_tables c db.acl with heq | ⟨attr_list, member, hop, hreach, htables⟩
    · refine h.mono fun t table ht => ?_
      rw [← heq]
      exact ht
    obtain ⟨env, op⟩ := c
    obtain rfl : op = .memberCreate attr_list := hop
    cases htable : db.acl.table_tree member.acl_table_id with
    | none =>
      refine h.mono fun t table ht => ?_
      have ht' := (htables t).symm.trans ht
      split at ht'
      next heq =>
        rw [heq, htable] at ht'
        cases ht'
      · exact ht'
    | some table =>
      refine h.write member.acl_table_id { table with acl_table_priority := member.priority }
        (fun table' ht => ?_) (fun t hne => (htables t).trans (if_neg hne))
        fun t table' hne ht hstage => hok member table hreach htable t table' hne ht hstage
      have ht' := (htables member.acl_table_id).symm.trans ht
      rw [if_pos rfl, htable] at ht'
      exact (Option.some.inj ht').symm

/-- **Priorities.** In every run from the initial state whose steps meet the condition, no two
tables of a stage have the same priority. -/
theorem tablePrioritiesApart_of_run {table_id_max : Nat} {db : AclTableDb}
    (hrun : Run aclTableStep TableOpOk (.initial table_id_max) db) : TablePrioritiesApart db := by
  have hstart : TablePrioritiesApart (.initial table_id_max) ∧
      TableKeysFit (.initial table_id_max) := by
    refine ⟨fun t t' table table' ht => ?_, fun t ht => ?_⟩
    · exact absurd ht (by simp [AclTableDb.initial, AclDb.initial])
    · exact absurd ht (by simp [AclTableDb.initial, AclDb.initial])
  have hend := hrun.induct (P := fun db => TablePrioritiesApart db ∧ TableKeysFit db)
    (fun op db h hok => ⟨h.1.step h.2 hok, h.2.step op⟩) hstart
  exact hend.1

/-! ## Nothing in between -/

theorem aclTablePopulateAttrs_named {n index i : Nat} {new new'}
    (h : aclTablePopulateAttrs env n index attrs new = .ok new')
    (hstage : aclTableStage i new.table.acl_stage attrs = .ok stage) :
    new'.table.acl_stage = stage ∧
    (new'.table.acl_table_priority = new.table.acl_table_priority ∧
        (∀ attr ∈ attrs, attr.id ≠ .priority) ∨
      .priority new'.table.acl_table_priority ∈ attrs) := by
  induction attrs generalizing index i new with
  | nil =>
    cases h
    exact ⟨Except.ok.inj hstage, .inl ⟨rfl, by simp⟩⟩
  | cons attr attrs ih =>
    simp only [aclTablePopulateAttrs] at h
    split at h
    · cases h
    rename_i mid hmid
    -- the attributes behind the first one
    have hrest : ∀ j, aclTableStage j mid.table.acl_stage attrs = .ok stage →
        (mid.table.acl_table_priority = new.table.acl_table_priority ∧ attr.id ≠ .priority ∨
          attr = .priority mid.table.acl_table_priority) →
        new'.table.acl_stage = stage ∧
        (new'.table.acl_table_priority = new.table.acl_table_priority ∧
            (∀ b ∈ attr :: attrs, b.id ≠ .priority) ∨
          .priority new'.table.acl_table_priority ∈ attr :: attrs) := by
      intro j hj hprio
      obtain ⟨hs, hp⟩ := ih h hj
      refine ⟨hs, ?_⟩
      rcases hp with ⟨hsame, hnone⟩ | hin
      · rcases hprio with ⟨hkeep, hid⟩ | hthis
        · refine .inl ⟨hsame.trans hkeep, fun b hb => ?_⟩
          rcases List.mem_cons.mp hb with rfl | hb
          · exact hid
          · exact hnone b hb
        refine .inr ?_
        rw [hsame, ← hthis]
        exact List.mem_cons_self
      · exact .inr (List.mem_cons_of_mem _ hin)
    cases attr with
    | stage s32 =>
      cases s32 with
      | none => exact absurd hstage (by simp [aclTableStage])
      | some s =>
        cases hmid
        exact hrest _ hstage (.inl ⟨rfl, by simp [AclTableAttr.id]⟩)
    | priority u32 =>
      cases hmid
      exact hrest _ hstage (.inr rfl)
    | udfField k oid =>
      simp only [aclTablePopulateAttr] at hmid
      split at hmid
      · cases hmid
      split at hmid
      · cases hmid
      cases hmid
      exact hrest _ hstage (.inl ⟨rfl, by simp [AclTableAttr.id]⟩)
    | size u32 | groupId oid | actionList l | field k | unknown k | outOfRange k =>
      cases hmid
      exact hrest _ hstage (.inl ⟨rfl, by simp [AclTableAttr.id]⟩)

theorem aclTableCheckAttrs_priority {index : Nat}
    (h : aclTableCheckAttrs env stage db index attrs = .success) {u32 : BitVec 32}
    (hin : .priority u32 ∈ attrs) : aclTableSamePriority u32 stage db = false := by
  induction attrs generalizing index with
  | nil => cases hin
  | cons attr attrs ih =>
    simp only [aclTableCheckAttrs] at h
    split at h
    next hfail => exact absurd h (getIndexedRetVal_ne_success hfail)
    rename_i hpass
    split at h
    · cases h
    rcases List.mem_cons.mp hin with heq | hin
    · subst heq
      have hthis := not_not.mp hpass
      simp only [aclTableCheckAttr] at hthis
      split at hthis
      · cases hthis
      next hno => simpa using hno
    · exact ih h hin

theorem aclTableMake_named {counts}
    {table_idx : Nat} {new} (h : aclTableMake env attrs counts db = .ok (table_idx, new))
    (hstage : aclTableStage 0 .ingress attrs = .ok stage)
    (hprio : attrs.any fun attr => attr.id = .priority) :
    new.table.acl_stage = stage ∧ .priority new.table.acl_table_priority ∈ attrs := by
  unfold aclTableMake at h
  split at h
  · cases h
  rename_i made hmade
  dsimp only at h
  split at h
  · cases h
  split at h
  · cases h
  split at h
  · cases h
  rename_i new' hid
  obtain ⟨-, rfl⟩ : _ ∧ new' = new := by simpa using Except.ok.inj h
  have hkeep : new'.table.acl_stage = made.table.acl_stage ∧
      new'.table.acl_table_priority = made.table.acl_table_priority := by
    unfold aclTableIdCreate at hid
    dsimp only at hid
    split at hid <;> split at hid
    · split at hid
      · cases hid
      · cases hid
        exact ⟨rfl, rfl⟩
    · cases hid
      exact ⟨rfl, rfl⟩
    · split at hid
      · cases hid
      · cases hid
        exact ⟨rfl, rfl⟩
    · cases hid
      exact ⟨rfl, rfl⟩
  unfold aclTablePopulate at hmade
  split at hmade
  · cases hmade
  split at hmade
  · cases hmade
  obtain ⟨hs, hp⟩ := aclTablePopulateAttrs_named hmade hstage
  refine ⟨hkeep.1.trans hs, ?_⟩
  rw [hkeep.2]
  rcases hp with ⟨-, hnone⟩ | hin
  · obtain ⟨attr, hattr, hid'⟩ := List.any_eq_true.mp hprio
    exact absurd (by simpa using hid') (hnone attr hattr)
  · exact hin

/-- **A create with nothing in between** meets the condition: the check that the validation made is
the one that counts. -/
theorem TableOpOk.validated {caller : Nat} {env env'} (attrs)
    (hfree : db.pending caller = none) :
    TableOpOk (.create caller env') (aclTableStep (.validate caller env attrs) db) := by
  intro attr_list counts table_idx new hpending _ hmake _
  simp only [aclTableStep, aclTableValidate] at hpending hmake ⊢
  by_cases hnil : attrs = []
  · rw [if_pos hnil, hfree] at hpending
    cases hpending
  simp only [hnil, hfree, if_false] at hpending hmake ⊢
  cases hval : aclTableValidateAttributes env attrs db with
  | error rc =>
    simp only [hval] at hpending
    exact absurd (hfree.symm.trans (by simpa using hpending)) (by simp)
  | ok counts' =>
    simp only [hval] at hpending hmake ⊢
    obtain ⟨rfl, rfl⟩ : attrs = attr_list ∧ counts' = counts := by
      simpa [AclTableDb.setPending] using hpending
    unfold aclTableValidateAttributes at hval
    split at hval
    · cases hval
    rename_i stage hstage
    dsimp only at hval
    split at hval
    · cases hval
    rename_i hchecks
    split at hval
    · cases hval
    split at hval
    · cases hval
    rename_i hprio
    obtain ⟨hs, hin⟩ := aclTableMake_named hmake hstage (by simpa using hprio)
    rw [hs]
    exact aclTableCheckAttrs_priority (not_not.mp hchecks) hin

def AclTableEnv.good : AclTableEnv where
  avail := fun _ => true
  udf_group := fun _ => some true
  udf_hw_id := fun _ => .success
  validate_field := fun _ => .success
  create_table := fun _ => .success
  delete_table := fun _ => .success

def ingressTable (priority : BitVec 32) : List AclTableAttr :=
  [.stage (some .ingress), .priority priority, .field 0]

theorem tablePrioritiesApart_of_run_member :
    let create : Nat → BitVec 32 → AclTableDb → AclTableDb := fun caller priority db =>
      aclTableStep (.create caller .good)
        (aclTableStep (.validate caller .good (ingressTable priority)) db)
    let group : AclGroupOp → AclTableOp := fun op => .group ⟨.good (fun _ => .invalid) [], op⟩
    let db := aclTableStep (group (.groupCreate [.stage 0])) (create 1 20 (create 0 10 (.initial 2)))
    let member : List AclMemberAttr := [.tableGroupId (uoidCreate .aclTableGroup 0),
      .tableId (uoidCreate .aclTable 1), .priority 30]
    TablePrioritiesApart (aclTableStep (group (.memberCreate member)) db) := by
  intro create group db member
  refine @tablePrioritiesApart_of_run 2 _ (.snoc _ (.snoc _ ?_ trivial) ?_)
  · have hcreate : ∀ caller priority db, db.pending caller = none →
        Run aclTableStep TableOpOk (.initial 2) db →
        Run aclTableStep TableOpOk (.initial 2) (create caller priority db) :=
      fun caller priority db hfree hrun =>
        .snoc _ (.snoc _ hrun trivial) (TableOpOk.validated _ hfree)
    exact hcreate 1 20 _ rfl (hcreate 0 10 _ rfl (.nil _))
  · intro member' table hreach htable t table' hne ht hstage
    have hmember : member' = ⟨.null, uoidCreate .aclTableGroup 0, uoidCreate .aclTable 1, 30⟩ :=
      (congrArg Prod.snd hreach.2.1).symm
    subst hmember
    have htables : db.acl.table_tree t =
        if t = uoidCreate .aclTable 2 then some ⟨.ingress, 20, [], 0, false, []⟩
        else if t = uoidCreate .aclTable 1 then some ⟨.ingress, 10, [], 0, false, []⟩ else none := rfl
    have ht' := htables.symm.trans ht
    rw [if_neg (c := t = uoidCreate .aclTable 1) hne] at ht'
    split at ht'
    · cases ht'
      decide
    · cases ht'

/-- Two callers validate the same priority, and then both create. -/
theorem not_tablePrioritiesApart_twice :
    let db := ([.validate 0 .good (ingressTable 10), .validate 1 .good (ingressTable 10),
      .create 0 .good, .create 1 .good]
        : List AclTableOp).foldl (fun db op => aclTableStep op db) (.initial 2)
    ¬ TablePrioritiesApart db := by
  intro db h
  obtain ⟨table, htable⟩ : ∃ table, db.acl.table_tree (uoidCreate .aclTable 1) = some table :=
    Option.isSome_iff_exists.mp (by decide)
  obtain ⟨table', htable'⟩ : ∃ table, db.acl.table_tree (uoidCreate .aclTable 2) = some table :=
    Option.isSome_iff_exists.mp (by decide)
  have hsame : db.acl.table_tree (uoidCreate .aclTable 1) =
      db.acl.table_tree (uoidCreate .aclTable 2) := by decide
  have heq : table = table' := by
    rw [htable, htable'] at hsame
    exact Option.some.inj hsame
  exact absurd (h _ _ table table' htable htable' (by rw [heq]) (by rw [heq])) (by decide)

end OpxSai
