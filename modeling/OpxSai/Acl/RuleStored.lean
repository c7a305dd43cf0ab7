import OpxSai.Acl.RuleUndo

/-!
# The rule that a create and a set store

* `RuleInstalled.stored` — after a create: what the attributes make of a rule, found by its id;
* `aclRuleSet_stored` — after a set: the updated rule, with the policer of the scan rule;
* `aclRuleFilterOf_congr`, `aclRuleModify_congr` — of its table, a rule takes the stage and the
  user defined fields.
-/

namespace OpxSai

open AclDb

/-! ## Tables -/

def AclTable.kind (table : AclTable) : AclStage × List (Nat × Oid) :=
  (table.acl_stage, table.udf_field_list)

/-- The tables that there are, as the attributes see them. -/
def AclDb.kindOf (db : AclDb) (t : Oid) : Option (AclStage × List (Nat × Oid)) :=
  (db.table_tree t).map AclTable.kind

theorem kindOf_modTable (db : AclDb) (tid : Oid) (f : AclTable → AclTable)
    (hf : ∀ table, (f table).kind = table.kind) (t : Oid) :
    (db.modTable tid f).kindOf t = db.kindOf t := by
  show (if t = tid then (db.table_tree t).map f else db.table_tree t).map _ =
    (db.table_tree t).map _
  split
  · rw [Option.map_map]
    congr 1
    funext table
    exact hf table
  · rfl

theorem OutsideOnly.kindOf {db db'} (h : OutsideOnly db db') (t) :
    db'.kindOf t = db.kindOf t := by
  unfold AclDb.kindOf
  rw [h.table_tree]

section Congr

variable {env : AclEnv} {table table' : AclTable}

theorem aclStageField_congr (h : table.kind = table'.kind) (field) :
    aclStageField table field = aclStageField table' field := by
  have hstage : table.acl_stage = table'.acl_stage := congrArg Prod.fst h
  unfold aclStageField
  rw [hstage]

theorem aclRuleFilterOf_congr (h : table.kind = table'.kind) (index : Nat) (field)
    (value) :
    aclRuleFilterOf env table index field value = aclRuleFilterOf env table' index field value := by
  have hudf : table.udf_field_list = table'.udf_field_list := congrArg Prod.snd h
  have hgroup : ∀ n f, aclRuleUdfFilterPopulate env table n f =
      aclRuleUdfFilterPopulate env table' n f := by
    intro n f
    unfold aclRuleUdfFilterPopulate aclTableFindUdfGroupId
    rw [hudf]
  unfold aclRuleFilterOf
  rw [aclStageField_congr h]
  simp only [hgroup]

theorem aclRulePopulateAttr_congr (h : table.kind = table'.kind) (index : Nat) (attr)
    (rule) :
    aclRulePopulateAttr env table index attr rule =
      aclRulePopulateAttr env table' index attr rule := by
  unfold aclRulePopulateAttr
  simp only [aclRuleFilterOf_congr h]

theorem aclRulePopulateAttrs_congr (h : table.kind = table'.kind) (index : Nat)
    (attrs) (rule) :
    aclRulePopulateAttrs env table index attrs rule =
      aclRulePopulateAttrs env table' index attrs rule := by
  induction attrs generalizing index rule with
  | nil => rfl
  | cons attr attrs ih =>
    unfold aclRulePopulateAttrs
    rw [aclRulePopulateAttr_congr h]
    split
    · rfl
    · exact ih _ _

theorem aclRuleModify_congr (h : table.kind = table'.kind) (present) (attr) :
    aclRuleModify env table present attr = aclRuleModify env table' present attr := by
  unfold aclRuleModify aclRulePopulate
  rw [aclRulePopulateAttrs_congr h]

end Congr

/-! ## Create -/

theorem installAclRule_kindOf (env : AclEnv) (tid : Oid) (table : AclTable) (rule : AclRule)
    (db : AclDb) (t : Oid) : (installAclRule env tid table rule db).2.kindOf t = db.kindOf t := by
  have hmod : ∀ d : AclDb, (d.modTable tid fun table => { table with in_npu := true }).kindOf t =
      d.kindOf t := by
    intro d
    refine kindOf_modTable d tid _ ?_ t
    exact fun _ => rfl
  have hcall : ∀ d : AclDb, ∀ c, (d.call env c).2.kindOf t = d.kindOf t := fun d c =>
    (OutsideOnly.call env c d).kindOf t
  simp only [installAclRule]
  split
  · split
    · exact hcall db _
    · rw [hcall, hmod, hcall]
  · exact hcall db _

/-- **Create**: a rule that is installed and does not fail is found by its id, and the tables are
of the kinds they were. -/
theorem RuleInstalled.stored {env} {attrs} {db d} {tid}
    {rule} (h : RuleInstalled env attrs db tid rule d)
    (hok : (aclRuleCreate env attrs db).1 = .success) :
    aclRuleFind rule.acl_id (aclRuleCreate env attrs db).2 = some (db.rules.next, rule) ∧
      ∀ t, (aclRuleCreate env attrs db).2.kindOf t = db.kindOf t := by
  obtain ⟨counts, table, rule₀, n, -, -, -, -, -, -, -, -, -, hinstall⟩ := h.made
  obtain ⟨d', hd', -, hrules, -⟩ := installAclRule_same env tid table rule
    _
  have hkind := installAclRule_kindOf env tid table rule { db with rules := db.rules.alloc rule }
  rw [hinstall] at hd' hkind
  obtain rfl : d = d' := hd'
  rw [h.create_eq] at hok ⊢
  generalize hx : aclRuleActivate _ _ _ _ d = x at hok ⊢
  rcases aclRuleActivate_cases hx with ⟨hfail, -⟩ | ⟨hfail, -⟩ | ⟨-, -, e, hout, hlink⟩
  · exact absurd hok hfail
  · exact absurd hok hfail
  have hget : x.2.rules.get db.rules.next = some rule := by
    rw [hlink]
    show e.rules.get db.rules.next = _
    rw [hout.rules]
    show (policerAttached db.rules.next rule.policer_id d).rules.get _ = _
    rw [policerAttached_rules, hrules]
    exact Heap.get_alloc_next _ _
  have htree : x.2.rule_tree rule.acl_id = some db.rules.next := by
    rw [hlink]
    show e.rule_tree rule.acl_id = _
    rw [hout.rule_tree]
    exact if_pos rfl
  refine ⟨?_, fun t => ?_⟩
  · unfold aclRuleFind
    rw [htree]
    dsimp only
    rw [hget]
    rfl
  · rw [hlink, kindOf_modTable]
    · have hlinked : (aclRuleLink env tid db.rules.next e).kindOf t = e.kindOf t := by
        refine kindOf_modTable e tid _ ?_ t
        exact fun _ => rfl
      have hattached : (ruleAttached db.rules.next rule d).kindOf t = d.kindOf t := by
        show (policerAttached db.rules.next rule.policer_id d).kindOf t = _
        unfold policerAttached
        split <;> rfl
      rw [hlinked, hout.kindOf, hattached]
      exact hkind t
    · exact fun _ => rfl

/-! ## Set -/

/-- **Set**: when it succeeds, the updated rule is stored, with the policer of the scan rule, and
the tables are what they were. -/
theorem aclRuleSet_stored {env} {acl_id} {attr} {db}
    (hok : (aclRuleSet env acl_id attr db).1 = .success) :
    ∃ p present modify given, RuleUpdated env acl_id attr db p present modify given ∧
      (aclRuleSet env acl_id attr db).2.rules.get p =
        some { given with policer_id := modify.policer_id } ∧
      (aclRuleSet env acl_id attr db).2.rule_tree = db.rule_tree ∧
      (aclRuleSet env acl_id attr db).2.table_tree = db.table_tree := by
  generalize hx : aclRuleSet _ _ _ _ = x at hok ⊢
  rcases aclRuleSet_cases hx with ⟨hfail, -⟩ | ⟨p, present, modify, given, hupd, hcase⟩
  · exact absurd hok hfail
  refine ⟨p, present, modify, given, hupd, ?_⟩
  rcases hcase with ⟨hfail, -⟩ | ⟨d, hd, hpol⟩
  · exact absurd hok hfail
  have hget : d.rules.get p = some given := by
    rw [hd.rules]
    show (db.rules.modify p _).get p = _
    rw [Heap.get_modify_self, (aclRuleFind_some hupd.find).2]
    rfl
  have htree : d.rule_tree = db.rule_tree := hd.rule_tree
  have htable : d.table_tree = db.table_tree := hd.table_tree
  rcases aclRulePolicerUpdate_cases hpol with ⟨hsame, rfl⟩ | ⟨-, -, -, hfail, -⟩ | ⟨-, -, hdone⟩
  · refine ⟨?_, htree, htable⟩
    rw [hget, hsame]
  · exact absurd hok hfail
  rcases hdone with ⟨-, -, hfail, -⟩ | ⟨-, rfl⟩
  · exact absurd hok hfail
  refine ⟨?_, ?_, ?_⟩
  · rw [policerAttached_rules]
    show ((policerDetached env p given.policer_id d).rules.modify p _).get p = _
    rw [Heap.get_modify_self, policerDetached_rules, hget]
    rfl
  · rw [policerAttached_rule_tree]
    show (policerDetached env p given.policer_id d).rule_tree = _
    rw [policerDetached_rule_tree, htree]
  · rw [← htable]
    unfold policerAttached policerWritten policerDetached
    split <;> split <;> rfl

end OpxSai
