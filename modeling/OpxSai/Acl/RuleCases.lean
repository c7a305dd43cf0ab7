import OpxSai.Acl.RuleFrame
import OpxSai.Acl.RulePopulate

/-!
# What a call on ACL rules does

* `aclRuleCreate_cases`, `aclRuleDelete_cases`, `aclRuleSet_cases`, `aclRuleStep_does` — everything that a call can do
  to the trees, the lists and the rules. The invariants are derived from these.
-/

namespace OpxSai

open AclDb

variable {env : AclEnv} {p : Ptr} {rule rule₀ modify present : AclRule} {n : Nat}
variable {attr_list : List AclAttr} {acl_id : Oid} {attr : AclAttr}

/-! ## The same rules -/

def AclDb.listsOf (db : AclDb) (t : Oid) : Option (List Ptr × BitVec 32) :=
  (db.table_tree t).map fun table => (table.rule_head, table.rule_count)

variable {db : AclDb} {db' : AclDb} {x : Status × AclDb}

variable {counts : AclAttrCounts} {table : AclTable}

/-- Rules, rule tree, policers and lists are the same at every place. An address may have been
handed out in between. -/
structure SameAcl (db db' : AclDb) : Prop where
  rules : ∀ p, db'.rules.get p = db.rules.get p
  rule_tree : ∀ r, db'.rule_tree r = db.rule_tree r
  policer_tree : ∀ q, db'.policer_tree q = db.policer_tree q
  lists : ∀ t, db'.listsOf t = db.listsOf t
  next : db.rules.next ≤ db'.rules.next

namespace SameAcl

variable {db'' : AclDb}

theorem refl (db) : SameAcl db db :=
  ⟨fun _ => rfl, fun _ => rfl, fun _ => rfl, fun _ => rfl, Nat.le_refl _⟩

theorem trans (h : SameAcl db db') (h' : SameAcl db' db'') : SameAcl db db'' :=
  ⟨fun p => (h'.rules p).trans (h.rules p), fun r => (h'.rule_tree r).trans (h.rule_tree r),
    fun q => (h'.policer_tree q).trans (h.policer_tree q), fun t => (h'.lists t).trans (h.lists t),
    Nat.le_trans h.next h'.next⟩

theorem of_outside (h : OutsideOnly db db') : SameAcl db db' := by
  obtain ⟨s, l, rfl⟩ := h
  exact ⟨fun _ => rfl, fun _ => rfl, fun _ => rfl, fun _ => rfl, Nat.le_refl _⟩

theorem modTable {t} (f : AclTable → AclTable)
    (hf : ∀ table, (f table).rule_head = table.rule_head ∧ (f table).rule_count = table.rule_count) :
    SameAcl db (db.modTable t f) := by
  refine ⟨fun _ => rfl, fun _ => rfl, fun _ => rfl, fun u => ?_, Nat.le_refl _⟩
  show (if u = t then (db.table_tree u).map f else db.table_tree u).map _ = (db.table_tree u).map _
  split
  · rw [Option.map_map]
    congr 1
    funext table
    exact Prod.ext (hf table).1 (hf table).2
  · rfl

theorem free_alloc (rule) :
    SameAcl db (aclRuleFree db.rules.next { db with rules := db.rules.alloc rule }) :=
  ⟨fun p => Heap.get_free_alloc_next _ _ p, fun _ => rfl, fun _ => rfl, fun _ => rfl,
    Nat.le_succ _⟩

end SameAcl

theorem OutsideOnly.free (h : OutsideOnly db db') :
    OutsideOnly (aclRuleFree p db) (aclRuleFree p db') := by
  obtain ⟨s, l, rfl⟩ := h
  exact ⟨s, l, rfl⟩

theorem aclRuleFind_some {r} (h : aclRuleFind r db = some (p, rule)) :
    db.rule_tree r = some p ∧ db.rules.get p = some rule := by
  unfold aclRuleFind at h
  split at h
  · cases h
  rename_i q hq
  obtain ⟨other, hget, heq⟩ := Option.map_eq_some_iff.mp h
  cases heq
  exact ⟨hq, hget⟩

/-! ## Create -/

def policerAttached (p : Ptr) (policer_id : Oid) (db : AclDb) : AclDb :=
  if policer_id ≠ .null then db.modPolicer policer_id fun l => l ++ [p] else db

theorem OutsideOnly.policerAttached (h : OutsideOnly db db') (policer_id) :
    OutsideOnly (policerAttached p policer_id db) (policerAttached p policer_id db') := by
  unfold OpxSai.policerAttached
  split
  · exact h.modPolicer _ _
  · exact h

/-- Counter, policer and tree: the steps fail without a trace in the lists, or at the tree with the
rule on its policer, or the rule is attached. -/
theorem aclRuleAttach_cases (hx : aclRuleAttach env p rule db = x) :
    (x.1 ≠ .success ∧ OutsideOnly db x.2) ∨
    (x.1 ≠ .success ∧ env.avail .ruleTree = false ∧ rule.policer_id ≠ .null ∧
      (db.policer_tree rule.policer_id).isSome ∧
      OutsideOnly (policerAttached p rule.policer_id db) x.2) ∨ (x.1 = .success ∧ env.avail .ruleTree = true ∧
      (rule.policer_id ≠ .null → (db.policer_tree rule.policer_id).isSome) ∧
      OutsideOnly { policerAttached p rule.policer_id db with
        rule_tree := fun r => if r = rule.acl_id then some p else db.rule_tree r } x.2) := by
  simp only [aclRuleAttach] at hx
  -- the counter
  generalize hc : (if rule.counter_id ≠ .null then attachCntrToAclRule env rule db
    else (.success, db)) = c at hx
  have hout : OutsideOnly db c.2 := by
    split at hc
    · rw [← hc]
      exact .attachCntr env _
    · rw [← hc]
      exact .refl db
  split at hx
  next hfail =>
    subst hx
    exact .inl ⟨hfail, hout⟩
  -- the policer
  by_cases hnull : rule.policer_id = .null
  · rw [if_ok hnull, if_neg (by simp)] at hx
    have hsame : policerAttached p rule.policer_id db = db := by
      unfold policerAttached
      rw [if_ok hnull]
    cases htree : env.avail .ruleTree with
    | false =>
      rw [if_pos (by simp [htree])] at hx
      subst hx
      exact .inl ⟨by simp, hout⟩
    | true =>
      rw [if_neg (by simp [htree])] at hx
      subst hx
      refine .inr (.inr ⟨rfl, rfl, fun hne => absurd hnull hne, ?_⟩)
      rw [hsame]
      obtain ⟨s, l, heq⟩ := hout
      refine ⟨s, l, ?_⟩
      dsimp only
      rw [heq]
  · rw [if_pos hnull] at hx
    unfold attachPolicerToAclRule at hx
    rw [hout.policer_tree] at hx
    have hattached : policerAttached p rule.policer_id db =
        db.modPolicer rule.policer_id fun l => l ++ [p] := by
      unfold policerAttached
      rw [if_pos hnull]
    cases hq : db.policer_tree rule.policer_id with
    | none =>
      rw [hq] at hx
      dsimp only at hx
      rw [if_pos (by simp)] at hx
      subst hx
      exact .inl ⟨by simp, hout⟩
    | some l =>
      rw [hq] at hx
      dsimp only at hx
      rw [if_neg (by simp)] at hx
      cases htree : env.avail .ruleTree with
      | false =>
        rw [if_pos (by simp [htree])] at hx
        subst hx
        refine .inr (.inl ⟨by simp, rfl, hnull, rfl, ?_⟩)
        rw [hattached]
        exact hout.modPolicer _ _
      | true =>
        rw [if_neg (by simp [htree])] at hx
        subst hx
        refine .inr (.inr ⟨rfl, rfl, fun _ => rfl, ?_⟩)
        rw [hattached]
        obtain ⟨s, log, heq⟩ := hout
        refine ⟨s, log, ?_⟩
        dsimp only
        rw [heq]
        rfl

def ruleAttached (p : Ptr) (rule : AclRule) (db : AclDb) : AclDb :=
  { policerAttached p rule.policer_id db with
    rule_tree := fun r => if r = rule.acl_id then some p else db.rule_tree r }

theorem OutsideOnly.ruleAttached (h : OutsideOnly db db') :
    OutsideOnly (ruleAttached p rule db) (ruleAttached p rule db') := by
  obtain ⟨s, l, rfl⟩ := h
  unfold OpxSai.ruleAttached OpxSai.policerAttached
  split <;> exact ⟨s, l, rfl⟩

theorem OutsideOnly.uninstall {env} {installed : Bool} :
    OutsideOnly (aclRuleFree p db) (aclRuleUninstall env p rule installed db) := by
  unfold aclRuleUninstall
  have hcall := OutsideOnly.call env (.deleteRule rule) db
  dsimp only
  split
  · exact (hcall.trans (.removeSamplepacket env _)).free
  · exact hcall.free

theorem aclRuleActivate_cases {tid} (hx : aclRuleActivate env tid p rule db = x) :
    (x.1 ≠ .success ∧ OutsideOnly (aclRuleFree p db) x.2) ∨
    (x.1 ≠ .success ∧ env.avail .ruleTree = false ∧ rule.policer_id ≠ .null ∧
      (db.policer_tree rule.policer_id).isSome ∧
      OutsideOnly (aclRuleFree p (policerAttached p rule.policer_id db)) x.2) ∨
    (x.1 = .success ∧ (rule.policer_id ≠ .null → (db.policer_tree rule.policer_id).isSome) ∧
      ∃ db', OutsideOnly (ruleAttached p rule db) db' ∧
        x.2 = (aclRuleLink env tid p db').modTable tid fun table => { table with rule_count:= table.rule_count + 1 }) := by
  simp only [aclRuleActivate] at hx
  -- the sample packet
  generalize hs : (if aclRuleHasSample rule = true then aclRuleCreateSamplepacket env rule db
    else (.success, db)) = s at hx
  have hout : OutsideOnly db s.2 := by
    split at hs
    · rw [← hs]
      exact .createSamplepacket env _
    · rw [← hs]
      exact .refl db
  split at hx
  next hfail =>
    subst hx
    exact .inl ⟨hfail, hout.free.trans .uninstall⟩
  generalize ha : aclRuleAttach _ p _ _ = a at hx
  rcases aclRuleAttach_cases ha with ⟨hfail, houta⟩ | ⟨hfail, htree, hnull, hq, houta⟩ |
    ⟨hok, -, hq, houta⟩
  · rw [if_pos hfail] at hx
    subst hx
    exact .inl ⟨hfail, ((hout.trans houta).free).trans .uninstall⟩
  · rw [if_pos hfail] at hx
    subst hx
    refine .inr (.inl ⟨hfail, htree, hnull, ?_, ?_⟩)
    · rw [← hout.policer_tree]
      exact hq
    · exact (((hout.policerAttached _).trans houta).free).trans .uninstall
  · rw [if_ok hok] at hx
    subst hx
    refine .inr (.inr ⟨rfl, ?_, a.2, hout.ruleAttached.trans houta, rfl⟩)
    rw [← hout.policer_tree]
    exact hq

theorem installAclRule_same (env) (tid) (table) (rule)
    (db) :
    ∃ db', (installAclRule env tid table rule db).2 = db' ∧ SameAcl db db' ∧
      db'.rules = db.rules ∧ db'.counter_tree = db.counter_tree := by
  refine ⟨_, rfl, ?_⟩
  have hmod : ∀ d : AclDb, SameAcl d (d.modTable tid fun table => { table with in_npu := true }) :=
    fun d => .modTable _ fun _ => ⟨rfl, rfl⟩
  simp only [installAclRule]
  split
  · split
    · exact ⟨.of_outside (.call env _ db), rfl, rfl⟩
    refine ⟨?_, rfl, rfl⟩
    exact ((SameAcl.of_outside (.call env _ db)).trans (hmod _)).trans
      (.of_outside (.call env _ _))
  · exact ⟨.of_outside (.call env _ db), rfl, rfl⟩

/-- The attribute list makes the rule: it passes the check, names a table, and populates. -/
structure RuleOfAttrs (env : AclEnv) (attr_list : List AclAttr) (db : AclDb) (rule : AclRule) :
    Prop where
  made : ∃ counts table rule₀,
    aclCheckRuleAttributes 0 ⟨0, 0, .null⟩ attr_list = .ok counts ∧
    db.table_tree counts.acl_table_id = some table ∧
    aclRulePopulate env table .zero attr_list = .ok rule₀ ∧
    rule = { rule₀ with acl_id := rule.acl_id }
  table : (db.table_tree rule.table_id).isSome
  fits : IdsFit rule

structure RuleCreated (env : AclEnv) (attr_list : List AclAttr) (db db' : AclDb) (rule : AclRule) :
    Prop where
  attrs : RuleOfAttrs env attr_list db rule
  /-- The id was free. -/
  unused : aclRuleFind rule.acl_id db = none
  type : rule.acl_id.type = .aclEntry
  policer : rule.policer_id ≠ .null → (db.policer_tree rule.policer_id).isSome
  rules : ∀ q, db'.rules.get q = if q = db.rules.next then some rule else db.rules.get q
  rule_tree : ∀ r, db'.rule_tree r =
    if r = rule.acl_id then some db.rules.next else db.rule_tree r
  policer_tree : ∀ q, db'.policer_tree q =
    if q = rule.policer_id ∧ q ≠ .null then (db.policer_tree q).map fun l => l ++ [db.rules.next]
    else db.policer_tree q
  lists : ∀ t, db'.listsOf t =
    if t = rule.table_id then (db.listsOf t).map fun l =>
      (env.dll_insert.insert (aclRulePriorityCompare db') db.rules.next l.1, l.2 + 1)
    else db.listsOf t
  next : db'.rules.next = db.rules.next + 1

/-- A create has failed at the tree, when the rule was on the list of its policer. -/
structure RuleStuck (env : AclEnv) (attr_list : List AclAttr) (db db' : AclDb) (rule : AclRule) :
    Prop where
  attrs : RuleOfAttrs env attr_list db rule
  tree : env.avail .ruleTree = false
  policer : rule.policer_id ≠ .null
  exists_policer : (db.policer_tree rule.policer_id).isSome
  same : SameAcl (policerAttached db.rules.next rule.policer_id db) db'
  next : db.rules.next < db'.rules.next

theorem policerAttached_apply (p) (q) (db) (r) :
    (policerAttached p q db).policer_tree r =
      if r = q ∧ r ≠ .null then (db.policer_tree r).map fun l => l ++ [p]
      else db.policer_tree r := by
  unfold policerAttached
  by_cases hq : q = .null
  · rw [if_ok hq, if_neg]
    rintro ⟨rfl, hne⟩
    exact hne hq
  rw [if_pos hq]
  show (if r = q then _ else _) = _
  by_cases hr : r = q
  · rw [if_pos hr, if_pos ⟨hr, hr ▸ hq⟩]
  · rw [if_neg hr, if_neg fun hand => hr hand.1]

@[simp] theorem policerAttached_rules (p) (q) (db) :
    (policerAttached p q db).rules = db.rules := by
  unfold policerAttached
  split <;> rfl

@[simp] theorem policerAttached_rule_tree (p) (q) (db) :
    (policerAttached p q db).rule_tree = db.rule_tree := by
  unfold policerAttached
  split <;> rfl

@[simp] theorem policerAttached_listsOf (p) (q) (db) (t) :
    (policerAttached p q db).listsOf t = db.listsOf t := by
  unfold policerAttached
  split <;> rfl

theorem firstUnused_some {used : Nat → Bool} {fuel index : Nat} (h : firstUnused used fuel index = some n) :
    used n = false := by
  induction fuel generalizing index with
  | zero => exact absurd h (by simp [firstUnused])
  | succ fuel ih =>
    simp only [firstUnused] at h
    split at h
    · exact ih h
    rename_i hfree
    cases h
    simpa using hfree

theorem allocateAclRuleIndex_unused
    (h : allocateAclRuleIndex { db with rules := db.rules.alloc rule₀ } = some n) :
    aclRuleFind (uoidCreate .aclEntry n) db = none := by
  have hnone := firstUnused_some h
  rw [Option.isSome_eq_false_iff, Option.isNone_iff_eq_none] at hnone
  cases hfind : aclRuleFind (uoidCreate .aclEntry n) db with
  | none => rfl
  | some found =>
    obtain ⟨p, rule⟩ := found
    obtain ⟨htree, hget⟩ := aclRuleFind_some hfind
    have hstill : (db.rules.alloc rule₀).get p = some rule := Heap.get_alloc_of_get hget
    unfold aclRuleFind at hnone
    rw [htree] at hnone
    dsimp only at hnone
    rw [hstill] at hnone
    cases hnone

theorem RuleOfAttrs.of_populate (hcheck : aclCheckRuleAttributes 0 ⟨0, 0, .null⟩ attr_list = .ok counts)
    (htable : db.table_tree counts.acl_table_id = some table)
    (hpop : aclRulePopulate env table .zero attr_list = .ok rule₀) (acl_id) :
    RuleOfAttrs env attr_list db { rule₀ with acl_id := acl_id } ∧
      rule₀.table_id = counts.acl_table_id := by
  obtain ⟨hnodup, hnamed⟩ := aclCheckRuleAttributes_ok hcheck
  have hids : ∀ a, AclRule.zero.actionId a = .null := by
    intro a
    cases a <;> rfl
  obtain ⟨hfit, hname, -⟩ := aclRulePopulate_ok hpop rfl hids hnodup
  have htid : rule₀.table_id = counts.acl_table_id := hname.trans hnamed.symm
  refine ⟨⟨⟨counts, table, rule₀, hcheck, htable, hpop, rfl⟩, ?_, ?_⟩, htid⟩
  · show (db.table_tree rule₀.table_id).isSome
    rw [htid, htable]
    rfl
  · intro a ha
    have hold := hfit a ha
    cases a with
    | counter | setPolicer | ingressSamplepacketEnable | egressSamplepacketEnable => exact hold
    | setCpuQueue | mirrorIngress | mirrorEgress | redirectList | other n => exact hold

theorem listsOf_link (env) (tid) (p) (db) (t) :
    ((aclRuleLink env tid p db).modTable tid fun table =>
      { table with rule_count := table.rule_count + 1 }).listsOf t =
      if t = tid then (db.listsOf t).map fun l =>
        (env.dll_insert.insert (aclRulePriorityCompare db) p l.1, l.2 + 1)
      else db.listsOf t := by
  unfold AclDb.listsOf aclRuleLink AclDb.modTable
  dsimp only
  by_cases ht : t = tid
  · rw [if_pos ht, if_pos ht, if_pos ht, Option.map_map, Option.map_map, Option.map_map]
    rfl
  · rw [if_neg ht, if_neg ht, if_neg ht]

theorem aclRuleCreate_install (hcheck : aclCheckRuleAttributes 0 ⟨0, 0, .null⟩ attr_list = .ok counts)
    (htable : db.table_tree counts.acl_table_id = some table)
    (hpop : aclRulePopulate env table .zero attr_list = .ok rule₀)
    (hindex : allocateAclRuleIndex { db with rules := db.rules.alloc rule₀ } = some n)
    (hx : (let rule := { rule₀ with acl_id := uoidCreate .aclEntry n }
      let db' := AclDb.modRule db.rules.next (fun _ => rule) { db with rules := db.rules.alloc rule₀ }
      let x := installAclRule env counts.acl_table_id table rule db'
      if x.1 ≠ .success then (x.1, aclRuleFree db.rules.next x.2)
      else aclRuleActivate env counts.acl_table_id db.rules.next rule x.2) = x) :
    (x.1 ≠ .success ∧ SameAcl db x.2) ∨
    (x.1 ≠ .success ∧ ∃ rule, RuleStuck env attr_list db x.2 rule) ∨
    (x.1 = .success ∧ ∃ rule, RuleCreated env attr_list db x.2 rule) := by
  have hwrite : AclDb.modRule db.rules.next
      (fun _ => { rule₀ with acl_id := uoidCreate .aclEntry n })
      { db with rules := db.rules.alloc rule₀ } =
      { db with rules := db.rules.alloc { rule₀ with acl_id := uoidCreate .aclEntry n } } := by
    unfold AclDb.modRule
    rw [Heap.modify_alloc_next]
  dsimp only at hx
  rw [hwrite] at hx
  obtain ⟨hattrs, htid⟩ := RuleOfAttrs.of_populate hcheck htable hpop (uoidCreate .aclEntry n)
  have hrule : { rule₀ with acl_id := uoidCreate .aclEntry n }.table_id = counts.acl_table_id := htid
  have hid : { rule₀ with acl_id := uoidCreate .aclEntry n }.acl_id = uoidCreate .aclEntry n := rfl
  generalize { rule₀ with acl_id := uoidCreate .aclEntry n } = rule at *
  generalize hd₁ : ({ db with rules := db.rules.alloc rule } : AclDb) = d₁ at hx
  obtain ⟨d₂, hinstall, hsame, hrules, -⟩ :=
    installAclRule_same env counts.acl_table_id table rule d₁
  -- the rule is freed, whatever was attached to it
  have hfreed : ∀ d : AclDb, OutsideOnly (aclRuleFree db.rules.next d₂) d → SameAcl db d := by
    intro d hd
    have hfree : SameAcl db (aclRuleFree db.rules.next d₂) := by
      refine ⟨fun q => ?_, ?_, ?_, ?_, ?_⟩
      · show (d₂.rules.free db.rules.next).get q = _
        rw [hrules, ← hd₁]
        exact Heap.get_free_alloc_next db.rules rule q
      · exact fun r => (hsame.rule_tree r).trans (by rw [← hd₁])
      · exact fun q => (hsame.policer_tree q).trans (by rw [← hd₁])
      · exact fun t => (hsame.lists t).trans (by rw [← hd₁]; rfl)
      · show db.rules.next ≤ (d₂.rules.free db.rules.next).next
        rw [hrules, ← hd₁]
        exact Nat.le_succ _
    exact hfree.trans (.of_outside hd)
  rw [hinstall] at hx
  split at hx
  next hfail =>
    subst hx
    exact .inl ⟨hfail, hfreed _ (.refl _)⟩
  rcases aclRuleActivate_cases hx with ⟨hfail, hout⟩ | ⟨hfail, htree, hnull, hq, hout⟩ |
    ⟨hok, hq, d₃, hout, hlink⟩
  · exact .inl ⟨hfail, hfreed _ hout⟩
  · refine .inr (.inl ⟨hfail, rule, hattrs, htree, hnull, ?_, ?_, ?_⟩)
    · rw [hsame.policer_tree, ← hd₁] at hq
      exact hq
    · refine SameAcl.trans ⟨fun q => ?_, fun r => ?_, fun q => ?_, fun t => ?_, ?_⟩
        (.of_outside hout)
      · show ((policerAttached db.rules.next rule.policer_id d₂).rules.free db.rules.next).get q = _
        rw [policerAttached_rules, policerAttached_rules, hrules, ← hd₁]
        exact Heap.get_free_alloc_next db.rules rule q
      · show (policerAttached db.rules.next rule.policer_id d₂).rule_tree r = _
        rw [policerAttached_rule_tree, policerAttached_rule_tree, hsame.rule_tree, ← hd₁]
      · show (policerAttached db.rules.next rule.policer_id d₂).policer_tree q = _
        rw [policerAttached_apply, policerAttached_apply, hsame.policer_tree, ← hd₁]
      · show (policerAttached db.rules.next rule.policer_id d₂).listsOf t = _
        rw [policerAttached_listsOf, policerAttached_listsOf, hsame.lists, ← hd₁]
        rfl
      · show (policerAttached db.rules.next rule.policer_id db).rules.next ≤
          ((policerAttached db.rules.next rule.policer_id d₂).rules.free db.rules.next).next
        rw [policerAttached_rules, policerAttached_rules, hrules, ← hd₁]
        exact Nat.le_succ _
    · rw [hout.rules]
      show db.rules.next < ((policerAttached db.rules.next rule.policer_id d₂).rules.free _).next
      rw [policerAttached_rules, hrules, ← hd₁]
      exact Nat.lt_succ_self _
  · have hrules₃ : x.2.rules = db.rules.alloc rule := by
      rw [hlink]
      show d₃.rules = _
      rw [hout.rules]
      show (policerAttached db.rules.next rule.policer_id d₂).rules = _
      rw [policerAttached_rules, hrules, ← hd₁]
    refine .inr (.inr ⟨hok, rule, hattrs, ?_, ?_, ?_, ?_, ?_, ?_, ?_, ?_⟩)
    · rw [hid]
      exact allocateAclRuleIndex_unused hindex
    · rw [hid]
      rfl
    · intro hne
      have hsome := hq hne
      rw [hsame.policer_tree, ← hd₁] at hsome
      exact hsome
    · intro q
      rw [hrules₃]
      exact Heap.get_alloc _ _ q
    · intro r
      rw [hlink]
      show d₃.rule_tree r = _
      rw [hout.rule_tree]
      show (if r = rule.acl_id then some db.rules.next else d₂.rule_tree r) = _
      rw [hsame.rule_tree, ← hd₁]
    · intro q
      rw [hlink]
      show d₃.policer_tree q = _
      rw [hout.policer_tree]
      show (policerAttached db.rules.next rule.policer_id d₂).policer_tree q = _
      rw [policerAttached_apply, hsame.policer_tree, ← hd₁]
    · intro t
      have hcompare : aclRulePriorityCompare x.2 = aclRulePriorityCompare d₃ := by
        rw [hlink]
        rfl
      have hlists : d₃.listsOf t = db.listsOf t := by
        have hattach : (ruleAttached db.rules.next rule d₂).listsOf t = d₂.listsOf t := by
          show (policerAttached db.rules.next rule.policer_id d₂).listsOf t = _
          exact policerAttached_listsOf _ _ _ t
        rw [(SameAcl.of_outside hout).lists, hattach, hsame.lists, ← hd₁]
        rfl
      rw [hcompare, hlink, listsOf_link, hlists, hrule]
    · rw [hrules₃]
      rfl

/-- **Create**: nothing has changed, or the rule is stuck on its policer, or it is there. -/
theorem aclRuleCreate_cases (hx : aclRuleCreate env attr_list db = x) :
    (x.1 ≠ .success ∧ SameAcl db x.2) ∨ (x.1 ≠ .success ∧ ∃ rule, RuleStuck env attr_list db x.2 rule) ∨
    (x.1 = .success ∧ ∃ rule, RuleCreated env attr_list db x.2 rule) := by
  simp only [aclRuleCreate] at hx
  split at hx
  · subst hx
    exact .inl ⟨by simp, .refl db⟩
  cases hcheck : aclCheckRuleAttributes 0 ⟨0, 0, .null⟩ attr_list with
  | error rc =>
    rw [hcheck] at hx
    subst hx
    exact .inl ⟨aclCheckRuleAttributes_error hcheck, .refl db⟩
  | ok counts =>
    rw [hcheck] at hx
    dsimp only at hx
    split at hx
    · subst hx
      exact .inl ⟨by simp, .refl db⟩
    cases htable : db.table_tree counts.acl_table_id with
    | none =>
      rw [htable] at hx
      subst hx
      exact .inl ⟨by simp, .refl db⟩
    | some table =>
      rw [htable] at hx
      dsimp only at hx
      split at hx
      · subst hx
        exact .inl ⟨by simp, .refl db⟩
      cases hpop : aclRulePopulate env table .zero attr_list with
      | error rc =>
        rw [hpop] at hx
        subst hx
        exact .inl ⟨aclRulePopulate_error hpop, .free_alloc _⟩
      | ok rule₀ =>
        rw [hpop] at hx
        dsimp only at hx
        split at hx
        next hvalid =>
          subst hx
          exact .inl ⟨hvalid, .free_alloc _⟩
        cases hindex : allocateAclRuleIndex { db with rules := db.rules.alloc rule₀ } with
        | none =>
          rw [hindex] at hx
          subst hx
          exact .inl ⟨by simp, .free_alloc _⟩
        | some n =>
          rw [hindex] at hx
          dsimp only at hx
          exact aclRuleCreate_install hcheck htable hpop hindex hx

/-! ## Delete -/

/-- The policer list without the rule, if the rule has a policer. -/
def policerDetached (env : AclEnv) (p : Ptr) (policer_id : Oid) (db : AclDb) : AclDb :=
  if policer_id ≠ .null then db.modPolicer policer_id (aclDllRemove env p) else db

theorem policerDetached_apply (env) (p) (q) (db) (r) :
    (policerDetached env p q db).policer_tree r =
      if r = q ∧ r ≠ .null then (db.policer_tree r).map (aclDllRemove env p)
      else db.policer_tree r := by
  unfold policerDetached
  by_cases hq : q = .null
  · rw [if_ok hq, if_neg]
    rintro ⟨rfl, hne⟩
    exact hne hq
  rw [if_pos hq]
  show (if r = q then _ else _) = _
  by_cases hr : r = q
  · rw [if_pos hr, if_pos ⟨hr, hr ▸ hq⟩]
  · rw [if_neg hr, if_neg fun hand => hr hand.1]

@[simp] theorem policerDetached_rules (env) (p) (q) (db) :
    (policerDetached env p q db).rules = db.rules := by
  unfold policerDetached
  split <;> rfl

@[simp] theorem policerDetached_rule_tree (env) (p) (q) (db) :
    (policerDetached env p q db).rule_tree = db.rule_tree := by
  unfold policerDetached
  split <;> rfl

@[simp] theorem policerDetached_listsOf (env) (p) (q) (db) (t) :
    (policerDetached env p q db).listsOf t = db.listsOf t := by
  unfold policerDetached
  split <;> rfl

structure RuleDeleted (env : AclEnv) (acl_id : Oid) (db db' : AclDb) (p : Ptr) (rule : AclRule) :
    Prop where
  find : aclRuleFind acl_id db = some (p, rule)
  listed : ∃ table, db.table_tree rule.table_id = some table ∧ p ∈ table.rule_head
  policer : rule.policer_id ≠ .null → (db.policer_tree rule.policer_id).isSome
  rules : ∀ q, db'.rules.get q = if q = p then none else db.rules.get q
  rule_tree : ∀ r, db'.rule_tree r = if r = rule.acl_id then none else db.rule_tree r
  policer_tree : ∀ q, db'.policer_tree q =
    if q = rule.policer_id ∧ q ≠ .null then (db.policer_tree q).map (aclDllRemove env p)
    else db.policer_tree q
  lists : ∀ t, db'.listsOf t =
    if t = rule.table_id then (db.listsOf t).map fun l => (aclDllRemove env p l.1, l.2 - 1)
    else db.listsOf t
  next : db'.rules.next = db.rules.next

/-- A delete has failed in the NPU, and the rule is back on its policer, at the end of the list. -/
structure RuleMoved (env : AclEnv) (acl_id : Oid) (db db' : AclDb) (p : Ptr) (rule : AclRule) :
    Prop where
  find : aclRuleFind acl_id db = some (p, rule)
  policer : rule.policer_id ≠ .null
  same : SameAcl (db.modPolicer rule.policer_id fun l => aclDllRemove env p l ++ [p]) db'

theorem aclRuleReattach_outside (env) (p) (rule) (d)
    (db) (hd : d.policer_detached = false) :
    OutsideOnly db (aclRuleReattach env p rule d db) := by
  unfold aclRuleReattach
  dsimp only
  rw [hd]
  have hsample : OutsideOnly db
      (if d.samplepacket_removed then (aclRuleCreateSamplepacket env rule db).2 else db) := by
    split
    · exact .createSamplepacket env _
    · exact .refl db
  have hcntr : ∀ e, OutsideOnly e
      (if d.cntr_detached then (attachCntrToAclRule env rule e).2 else e) := by
    intro e
    split
    · exact .attachCntr env _
    · exact .refl e
  simp only [Bool.false_eq_true, if_false]
  exact hsample.trans (hcntr _)

theorem aclRuleReattach_policer (env) (p) (rule) (d)
    (db) (hd : d.policer_detached = true)
    (hq : (db.policer_tree rule.policer_id).isSome) :
    OutsideOnly (db.modPolicer rule.policer_id fun l => l ++ [p])
      (aclRuleReattach env p rule d db) := by
  unfold aclRuleReattach
  dsimp only
  rw [hd, if_pos rfl]
  have hsample : OutsideOnly db
      (if d.samplepacket_removed then (aclRuleCreateSamplepacket env rule db).2 else db) := by
    split
    · exact .createSamplepacket env _
    · exact .refl db
  have hcntr : ∀ e, OutsideOnly e
      (if d.cntr_detached then (attachCntrToAclRule env rule e).2 else e) := by
    intro e
    split
    · exact .attachCntr env _
    · exact .refl e
  have hboth := hsample.trans (hcntr _)
  obtain ⟨l, hl⟩ := Option.isSome_iff_exists.mp hq
  unfold attachPolicerToAclRule
  rw [hboth.policer_tree, hl]
  exact hboth.modPolicer _ _

/-- **Delete**: nothing has changed, or the rule has moved on the list of its policer, or it is
gone. -/
theorem aclRuleDelete_cases (hx : aclRuleDelete env acl_id db = x) :
    (x.1 ≠ .success ∧ SameAcl db x.2) ∨ (x.1 ≠ .success ∧ ∃ p rule, RuleMoved env acl_id db x.2 p rule) ∨
    (x.1 = .success ∧ ∃ p rule, RuleDeleted env acl_id db x.2 p rule) := by
  simp only [aclRuleDelete] at hx
  split at hx
  · subst hx
    exact .inl ⟨by simp, .refl db⟩
  cases hfind : aclRuleFind acl_id db with
  | none =>
    rw [hfind] at hx
    subst hx
    exact .inl ⟨by simp, .refl db⟩
  | some found =>
    obtain ⟨p, rule⟩ := found
    rw [hfind] at hx
    dsimp only at hx
    cases htable : db.table_tree rule.table_id with
    | none =>
      rw [htable] at hx
      subst hx
      exact .inl ⟨by simp, .refl db⟩
    | some table =>
      rw [htable] at hx
      dsimp only at hx
      split at hx
      · subst hx
        exact .inl ⟨by simp, .refl db⟩
      rename_i hvalid
      have hlisted : p ∈ table.rule_head := List.mem_of_find?_eq_some (not_not.mp hvalid)
      -- the sample packet
      generalize hs : (if aclRuleHasSample rule = true then aclRuleRemoveSamplepacket env rule db
        else db) = s at hx
      have houts : OutsideOnly db s := by
        split at hs
        · rw [← hs]
          exact .removeSamplepacket env _
        · rw [← hs]
          exact .refl db
      -- the counter
      generalize hc : (if (decide (rule.counter_id ≠ .null)) = true then
        detachCntrFromAclRule env rule s else (.success, s)) = c at hx
      have houtc : OutsideOnly db c.2 := by
        split at hc
        · rw [← hc]
          exact houts.trans (.detachCntr env _ s)
        · rw [← hc]
          exact houts
      split at hx
      next hfail =>
        subst hx
        exact .inl ⟨hfail, .of_outside (houtc.trans
          (aclRuleReattach_outside env p rule ⟨aclRuleHasSample rule, false, false⟩ c.2 rfl))⟩
      -- the policer
      generalize hq : (if (decide (rule.policer_id ≠ .null)) = true then
        detachPolicerFromAclRule env p rule.policer_id c.2 else (.success, c.2)) = q at hx
      have hcase : (q.1 ≠ .success ∧ OutsideOnly db q.2) ∨
          (q.1 = .success ∧ (rule.policer_id ≠ .null → (db.policer_tree rule.policer_id).isSome) ∧
            OutsideOnly (policerDetached env p rule.policer_id db) q.2) := by
        by_cases hnull : rule.policer_id = .null
        · rw [if_neg (by simp [hnull])] at hq
          rw [← hq]
          refine .inr ⟨rfl, fun hne => absurd hnull hne, ?_⟩
          unfold policerDetached
          rw [if_ok hnull]
          exact houtc
        rw [if_pos (by simp [hnull])] at hq
        unfold detachPolicerFromAclRule at hq
        rw [houtc.policer_tree] at hq
        cases hget : db.policer_tree rule.policer_id with
        | none =>
          rw [hget] at hq
          rw [← hq]
          exact .inl ⟨by simp, houtc⟩
        | some l =>
          rw [hget] at hq
          rw [← hq]
          refine .inr ⟨rfl, fun _ => rfl, ?_⟩
          unfold policerDetached
          rw [if_pos hnull]
          exact houtc.modPolicer _ _
      rcases hcase with ⟨hfail, houtq⟩ | ⟨hok, hsome, houtq⟩
      · rw [if_pos hfail] at hx
        subst hx
        exact .inl ⟨hfail, .of_outside (houtq.trans (aclRuleReattach_outside env p rule
          ⟨aclRuleHasSample rule, decide (rule.counter_id ≠ .null), false⟩ q.2 rfl))⟩
      rw [if_ok hok] at hx
      have houtz := houtq.trans (.call env (.deleteRule rule) q.2)
      generalize hz : q.2.call _ _ = z at hx houtz
      split at hx
      next hfail =>
        subst hx
        by_cases hnull : rule.policer_id = .null
        · refine .inl ⟨hfail, ?_⟩
          have hsame : policerDetached env p rule.policer_id db = db := by
            unfold policerDetached
            rw [if_ok hnull]
          rw [hsame] at houtz
          refine .of_outside (houtz.trans (aclRuleReattach_outside env p _ _ z.2 ?_))
          simp [hnull]
        · refine .inr (.inl ⟨hfail, p, rule, hfind, hnull, ?_⟩)
          have hdetached : policerDetached env p rule.policer_id db =
              db.modPolicer rule.policer_id (aclDllRemove env p) := by
            unfold policerDetached
            rw [if_pos hnull]
          have hthere : (z.2.policer_tree rule.policer_id).isSome := by
            rw [houtz.policer_tree, policerDetached_apply, if_pos ⟨rfl, hnull⟩, Option.isSome_map]
            exact hsome hnull
          have hback := aclRuleReattach_policer env p _
            ⟨aclRuleHasSample rule, decide (rule.counter_id ≠ .null),
              decide (rule.policer_id ≠ .null)⟩ z.2 (by simp [hnull]) hthere
          refine SameAcl.trans ?_ (.of_outside ((houtz.modPolicer _ _).trans hback))
          rw [hdetached]
          refine ⟨fun _ => rfl, fun _ => rfl, fun r => ?_, fun _ => rfl, Nat.le_refl _⟩
          unfold AclDb.modPolicer
          dsimp only
          split
          · rw [Option.map_map]
            rfl
          · rfl
      · subst hx
        refine .inr (.inr ⟨rfl, p, rule, hfind, ⟨table, htable, hlisted⟩, hsome, ?_, ?_, ?_, ?_,
          ?_⟩)
        · intro r
          show (z.2.rules.free p).get r = _
          rw [Heap.get_free, houtz.rules, policerDetached_rules]
        · intro r
          show (if r = rule.acl_id then none else z.2.rule_tree r) = _
          rw [houtz.rule_tree, policerDetached_rule_tree]
        · intro r
          show z.2.policer_tree r = _
          rw [houtz.policer_tree, policerDetached_apply]
        · intro t
          have hlists : z.2.listsOf t = db.listsOf t := by
            rw [(SameAcl.of_outside houtz).lists, policerDetached_listsOf]
          rw [← hlists]
          unfold AclDb.listsOf aclRuleFree aclRuleUnlink AclDb.modTable
          dsimp only
          by_cases ht : t = rule.table_id
          · rw [if_pos ht, if_pos ht, if_pos ht, Option.map_map, Option.map_map, Option.map_map]
            rfl
          · rw [if_neg ht, if_neg ht, if_neg ht]
        · show z.2.rules.next = _
          rw [houtz.rules, policerDetached_rules]

/-! ## Set -/

/-- The two calls into the NPU library that a set makes succeed, after the calls so far, and the
memory for them is there. -/
def SetReachesNpu (env : AclEnv) (modify present : AclRule) (npu_log : List (AclCall × Status)) :
    Prop :=
  env.avail .compareRule = true ∧ env.avail .compareValues = true ∧
  env.status npu_log (.copyRule present) = .success ∧
  env.status (npu_log ++ [(.copyRule present, .success)])
    (.setRule (aclRuleSetFieldAction modify present) present) = .success

def setLog (modify present : AclRule) (npu_log : List (AclCall × Status)) :
    List (AclCall × Status) :=
  npu_log ++ [(.copyRule present, .success)] ++
    [(.setRule (aclRuleSetFieldAction modify present) present, .success)]

/-- The rule after `sai_acl_rule_update`, when the counters are asked in the state `d`. -/
def updatedRule (env : AclEnv) (modify present : AclRule) (d : AclDb) : AclRule × AclDb :=
  aclRuleUpdate env (aclRuleSetFieldAction modify present) present
    (modify.acl_rule_priority ≠ present.acl_rule_priority)
    (modify.acl_rule_state ≠ env.default_state ∧ modify.acl_rule_state ≠ present.acl_rule_state) d

structure RuleUpdated (env : AclEnv) (acl_id : Oid) (attr : AclAttr) (db : AclDb) (p : Ptr)
    (present modify given : AclRule) : Prop where
  find : aclRuleFind acl_id db = some (p, present)
  range : aclRuleValidAttrRange attr.id = true
  scan : env.avail .scanRule = true
  made : ∃ table, db.table_tree present.table_id = some table ∧
    aclRuleModify env table present attr = .ok modify
  valid : aclValidateSetRule modify present db = .success
  sampled : (aclRuleValidateUpdateSamplepacket env modify present true false db).1 = .success
  reaches : SetReachesNpu env modify present db.npu_log
  given : ∃ d, OutsideOnly db d ∧ d.npu_log = setLog modify present db.npu_log ∧
    (updatedRule env modify present d).1 = given

/-- The scan and the modification: an error with nothing changed, or the rule is the updated one. -/
theorem aclRuleScanAndMod_cases {y} (hy : aclRuleScanAndMod env p modify present db = y) :
    (y.1 ≠ .success ∧ OutsideOnly db y.2) ∨
    (y.1 = .success ∧ SetReachesNpu env modify present db.npu_log ∧ ∃ d,
      OutsideOnly db d ∧ d.npu_log = setLog modify present db.npu_log ∧
      y.2 = (updatedRule env modify present d).2.modRule p fun _ => (updatedRule env modify present d).1):= by
  simp only [aclRuleScanAndMod] at hy
  split at hy
  · subst hy
    exact .inl ⟨by simp, .refl db⟩
  rename_i hrule
  split at hy
  · subst hy
    exact .inl ⟨by simp, .refl db⟩
  rename_i hvalues
  have hcopy := OutsideOnly.call env (.copyRule present) db
  split at hy
  next hfail =>
    subst hy
    exact .inl ⟨hfail, hcopy⟩
  rename_i hcopied
  have hset := hcopy.trans (.call env (.setRule (aclRuleSetFieldAction modify present) present) _)
  split at hy
  next hfail =>
    subst hy
    exact .inl ⟨hfail, hset⟩
  rename_i hsetok
  subst hy
  have hstatus : env.status db.npu_log (.copyRule present) = .success := not_not.mp hcopied
  have hsecond : env.status (db.npu_log ++ [(.copyRule present,
      env.status db.npu_log (.copyRule present))])
      (.setRule (aclRuleSetFieldAction modify present) present) = .success := not_not.mp hsetok
  rw [hstatus] at hsecond
  refine .inr ⟨rfl, ⟨by simpa using hrule, by simpa using hvalues, hstatus, hsecond⟩, _, hset, ?_,
    rfl⟩
  have hlog : (db.call env (.copyRule present)).2.npu_log =
      db.npu_log ++ [(.copyRule present, .success)] := by
    show db.npu_log ++ [(_, env.status db.npu_log (.copyRule present))] = _
    rw [hstatus]
  show (db.call env (.copyRule present)).2.npu_log ++ [(AclCall.setRule _ present,
    env.status (db.call env (.copyRule present)).2.npu_log _)] = _
  rw [hlog, hsecond]
  rfl

/-- **Set**: nothing has changed, or the rule is the updated one, and the sample packets fail or
the policer is updated. -/
theorem aclRuleSet_cases (hx : aclRuleSet env acl_id attr db = x) :
    (x.1 ≠ .success ∧ OutsideOnly db x.2) ∨
    ∃ p present modify given, RuleUpdated env acl_id attr db p present modify given ∧
      ((x.1 ≠ .success ∧ OutsideOnly (db.modRule p fun _ => given) x.2 ∧
          ∃ d, (aclRuleValidateUpdateSamplepacket env modify given false true d).1 ≠ .success) ∨
        ∃ d, OutsideOnly (db.modRule p fun _ => given) d ∧
          aclRulePolicerUpdate env p modify given d = x) := by
  simp only [aclRuleSet] at hx
  split at hx
  · subst hx
    exact .inl ⟨by simp, .refl db⟩
  cases hcheck : aclCheckRuleAttributes 0 ⟨0, 0, .null⟩ [attr] with
  | error rc =>
    rw [hcheck] at hx
    subst hx
    exact .inl ⟨aclCheckRuleAttributes_error hcheck, .refl db⟩
  | ok counts =>
    have hrange : aclRuleValidAttrRange attr.id = true := by
      simp only [aclCheckRuleAttributes] at hcheck
      split at hcheck
      · cases hcheck
      next hvalid => simpa using hvalid
    rw [hcheck] at hx
    dsimp only at hx
    cases hfind : aclRuleFind acl_id db with
    | none =>
      rw [hfind] at hx
      subst hx
      exact .inl ⟨by simp, .refl db⟩
    | some found =>
      obtain ⟨p, present⟩ := found
      have hp : db.rules.get p = some present := (aclRuleFind_some hfind).2
      rw [hfind] at hx
      dsimp only at hx
      cases htable : db.table_tree present.table_id with
      | none =>
        rw [htable] at hx
        subst hx
        exact .inl ⟨by simp, .refl db⟩
      | some table =>
        rw [htable] at hx
        dsimp only at hx
        split at hx
        · subst hx
          exact .inl ⟨by simp, .refl db⟩
        rename_i hscan
        cases hmodify : aclRuleModify env table present attr with
        | error rc =>
          rw [hmodify] at hx
          subst hx
          refine .inl ⟨?_, .refl db⟩
          unfold aclRuleModify at hmodify
          split at hmodify
          next rc' herr =>
            cases hmodify
            exact aclRulePopulate_error herr
          · cases hmodify
        | ok modify =>
          rw [hmodify] at hx
          dsimp only at hx
          split at hx
          next hvalid =>
            subst hx
            exact .inl ⟨hvalid, .refl db⟩
          rename_i hvalid
          have hsample := OutsideOnly.validateUpdateSamplepacket env modify present true false db
          have hlog := validateUpdateSamplepacket_npu_log env modify present true false db
          generalize hs : aclRuleValidateUpdateSamplepacket _ _ _ _ _ _ = s at hx hsample hlog
          split at hx
          next hfail =>
            subst hx
            exact .inl ⟨hfail, hsample⟩
          rename_i hsampled
          have hfirst : (aclRuleValidateUpdateSamplepacket env modify present true false db).1 =
              .success := hs ▸ not_not.mp hsampled
          generalize hy : aclRuleScanAndMod _ p _ _ _ = y at hx
          rcases aclRuleScanAndMod_cases hy with ⟨hfail, hout⟩ | ⟨hok, hreach, d, hd, hdlog, hy2⟩
          · rw [if_pos hfail] at hx
            subst hx
            exact .inl ⟨hfail, hsample.trans hout⟩
          rw [if_ok hok] at hx
          rw [hlog] at hreach hdlog
          have hframe := (aclRuleUpdate_frame env (aclRuleSetFieldAction modify present) present
            (modify.acl_rule_priority ≠ present.acl_rule_priority)
            (modify.acl_rule_state ≠ env.default_state ∧
              modify.acl_rule_state ≠ present.acl_rule_state) d).2
          have hd' := hsample.trans hd
          have hout : OutsideOnly (db.modRule p fun _ => (updatedRule env modify present d).1) y.2 := by
            rw [hy2]
            exact (hd'.trans hframe).modRule _
          have hget : y.2.rules.get p = some (updatedRule env modify present d).1 := by
            rw [hout.rules]
            show (db.rules.modify p _).get p = _
            rw [Heap.get_modify_self, hp]
            rfl
          rw [hget] at hx
          dsimp only at hx
          refine .inr ⟨p, present, modify, (updatedRule env modify present d).1,
            ⟨hfind, hrange, by simpa using hscan, ⟨table, htable, hmodify⟩, not_not.mp hvalid,
              hfirst, hreach, d, hd', hdlog, rfl⟩, ?_⟩
          have hsample' := OutsideOnly.validateUpdateSamplepacket env modify
            (updatedRule env modify present d).1 false true y.2
          generalize hz : aclRuleValidateUpdateSamplepacket _ _ _ _ _ _ = z at hx hsample'
          split at hx
          next hfail =>
            subst hx
            exact .inl ⟨hfail, hout.trans hsample', y.2, hz ▸ hfail⟩
          · exact .inr ⟨z.2, hout.trans hsample', hx⟩

def policerWritten (p : Ptr) (policer_id : Oid) (db : AclDb) : AclDb :=
  db.modRule p fun rule => { rule with policer_id := policer_id }

/-- **The policer update**: nothing to do; or the old policer is gone and nothing is done; or the
rule is off the old policer and has the new one's id, and it is on its list if there is one. -/
theorem aclRulePolicerUpdate_cases (hx : aclRulePolicerUpdate env p modify present db = x) :
    (modify.policer_id = present.policer_id ∧ x = (.success, db)) ∨
    (modify.policer_id ≠ present.policer_id ∧ present.policer_id ≠ .null ∧
      db.policer_tree present.policer_id = none ∧ x.1 ≠ .success ∧ x.2 = db) ∨
    (modify.policer_id ≠ present.policer_id ∧
      (present.policer_id ≠ .null → (db.policer_tree present.policer_id).isSome) ∧
      ((modify.policer_id ≠ .null ∧ db.policer_tree modify.policer_id = none ∧ x.1 ≠ .success ∧
          x.2 = policerWritten p modify.policer_id (policerDetached env p present.policer_id db)) ∨
        ((modify.policer_id ≠ .null → (db.policer_tree modify.policer_id).isSome) ∧
          x = (.success, policerAttached p modify.policer_id (policerWritten p modify.policer_id
            (policerDetached env p present.policer_id db)))))) := by
  -- what the detachment leaves of the other policers
  have hother : ∀ q, q ≠ present.policer_id →
      (policerDetached env p present.policer_id db).policer_tree q = db.policer_tree q := by
    intro q hne
    rw [policerDetached_apply, if_neg fun hand => hne hand.1]
  have hdetach : ∀ y, (if present.policer_id ≠ .null then
      detachPolicerFromAclRule env p present.policer_id db else (.success, db)) = y →
      (present.policer_id ≠ .null ∧ db.policer_tree present.policer_id = none ∧
        y = (.invalidObjectId, db)) ∨
      ((present.policer_id ≠ .null → (db.policer_tree present.policer_id).isSome) ∧
        y = (.success, policerDetached env p present.policer_id db)) := by
    intro y hy
    by_cases hnull : present.policer_id = .null
    · rw [if_ok hnull] at hy
      refine .inr ⟨fun hne => absurd hnull hne, ?_⟩
      rw [← hy]
      unfold policerDetached
      rw [if_ok hnull]
    rw [if_pos hnull] at hy
    unfold detachPolicerFromAclRule at hy
    cases hget : db.policer_tree present.policer_id with
    | none =>
      rw [hget] at hy
      exact .inl ⟨hnull, rfl, hy.symm⟩
    | some l =>
      rw [hget] at hy
      refine .inr ⟨fun _ => rfl, ?_⟩
      rw [← hy]
      unfold policerDetached
      rw [if_pos hnull]
  simp only [aclRulePolicerUpdate] at hx
  by_cases hnew : modify.policer_id = .null
  · rw [if_ok hnew] at hx
    by_cases hold : present.policer_id = .null
    · rw [if_ok hold] at hx
      exact .inl ⟨hnew.trans hold.symm, hx.symm⟩
    rw [if_pos hold] at hx
    have hne : modify.policer_id ≠ present.policer_id := fun heq => hold (heq ▸ hnew)
    rcases hdetach _ (if_pos hold) with ⟨-, hnone, hy⟩ | ⟨hsome, hy⟩
    · rw [hy, if_pos (by simp)] at hx
      subst hx
      exact .inr (.inl ⟨hne, hold, hnone, by simp, rfl⟩)
    rw [hy, if_neg (by simp)] at hx
    refine .inr (.inr ⟨hne, hsome, .inr ⟨fun hn => absurd hnew hn, ?_⟩⟩)
    rw [← hx, hnew]
    unfold policerAttached policerWritten
    rw [if_neg (by simp)]
  · rw [if_pos hnew] at hx
    by_cases heq : modify.policer_id = present.policer_id
    · rw [if_pos heq] at hx
      exact .inl ⟨heq, hx.symm⟩
    rw [if_neg heq] at hx
    generalize hy : (if present.policer_id ≠ .null then
      detachPolicerFromAclRule env p present.policer_id db else (.success, db)) = y at hx
    rcases hdetach y hy with ⟨hold, hnone, rfl⟩ | ⟨hsome, rfl⟩
    · rw [if_pos (by simp)] at hx
      subst hx
      exact .inr (.inl ⟨heq, hold, hnone, by simp, rfl⟩)
    rw [if_neg (by simp)] at hx
    refine .inr (.inr ⟨heq, hsome, ?_⟩)
    unfold attachPolicerToAclRule at hx
    have hsame : (AclDb.modRule p (fun rule => { rule with policer_id := modify.policer_id })
        (policerDetached env p present.policer_id db)).policer_tree modify.policer_id =
        db.policer_tree modify.policer_id := hother _ heq
    rw [hsame] at hx
    cases hget : db.policer_tree modify.policer_id with
    | none =>
      rw [hget] at hx
      subst hx
      exact .inl ⟨hnew, rfl, by simp, rfl⟩
    | some l =>
      rw [hget] at hx
      refine .inr ⟨fun _ => rfl, ?_⟩
      rw [← hx]
      unfold policerAttached policerWritten
      rw [if_pos hnew]

/-! ## The rule after a set -/

theorem RuleUpdated.ids {given} (h : RuleUpdated env acl_id attr db p present modify given) :
    given.acl_id = present.acl_id ∧ given.table_id = present.table_id ∧
      given.acl_rule_priority = modify.acl_rule_priority ∧
      given.policer_id = present.policer_id ∧
      given.ingress_sample_id = present.ingress_sample_id ∧
      given.egress_sample_id = present.egress_sample_id := by
  obtain ⟨d, -, -, rfl⟩ := h.given
  have hids := (aclRuleUpdate_frame env (aclRuleSetFieldAction modify present) present
    (modify.acl_rule_priority ≠ present.acl_rule_priority)
    (modify.acl_rule_state ≠ env.default_state ∧ modify.acl_rule_state ≠ present.acl_rule_state)
    d).1
  refine ⟨hids.acl_id, hids.table_id, ?_, hids.policer_id, hids.ingress_sample_id,
    hids.egress_sample_id⟩
  refine hids.acl_rule_priority.trans ?_
  unfold aclRuleScalars
  by_cases heq : modify.acl_rule_priority = present.acl_rule_priority
  · simp [heq]
  · simp [heq, aclRuleSetFieldAction]

structure RuleRewritten (db db' : AclDb) (p : Ptr) (rule : AclRule) : Prop where
  rules : ∀ q, db'.rules.get q = if q = p then some rule else db.rules.get q
  rule_tree : ∀ r, db'.rule_tree r = db.rule_tree r
  lists : ∀ t, db'.listsOf t = db.listsOf t
  next : db'.rules.next = db.rules.next

/-- **Set, as the trees see it**: nothing has changed, or one rule is written. -/
theorem aclRuleSet_rewritten (hx : aclRuleSet env acl_id attr db = x) :
    (x.1 ≠ .success ∧ OutsideOnly db x.2) ∨
    ∃ p present modify given policer_id, RuleUpdated env acl_id attr db p present modify given ∧
      RuleRewritten db x.2 p { given with policer_id := policer_id } := by
  rcases aclRuleSet_cases hx with hsame | ⟨p, present, modify, given, hupd, hcase⟩
  · exact .inl hsame
  have hp : db.rules.get p = some present := (aclRuleFind_some hupd.find).2
  -- the rule is written, and the outside changes
  have hgiven : ∀ d, OutsideOnly (db.modRule p fun _ => given) d → RuleRewritten db d p given := by
    intro d hd
    refine ⟨fun q => ?_, fun r => ?_, fun t => ?_, ?_⟩
    · rw [hd.rules]
      show (db.rules.modify p _).get q = _
      rw [Heap.get_modify]
      by_cases hq : q = p
      · rw [if_pos hq, if_pos hq, hq, hp]
        rfl
      · rw [if_neg hq, if_neg hq]
    · rw [hd.rule_tree]
      rfl
    · rw [(SameAcl.of_outside hd).lists]
      rfl
    · rw [hd.rules]
      rfl
  -- then its policer is written
  have hpolicer : ∀ d q, RuleRewritten db d p given → RuleRewritten db
      (policerWritten p q (policerDetached env p given.policer_id d)) p
      { given with policer_id := q } := by
    intro d q hd
    refine ⟨fun r => ?_, fun r => ?_, fun t => ?_, ?_⟩
    · show ((policerDetached env p given.policer_id d).rules.modify p _).get r = _
      rw [policerDetached_rules, Heap.get_modify, hd.rules]
      by_cases hr : r = p
      · rw [if_pos hr, if_pos hr, if_pos hr]
        rfl
      · rw [if_neg hr, if_neg hr, if_neg hr]
    · show (policerDetached env p given.policer_id d).rule_tree r = _
      rw [policerDetached_rule_tree, hd.rule_tree]
    · show (policerDetached env p given.policer_id d).listsOf t = _
      rw [policerDetached_listsOf, hd.lists]
    · show (policerDetached env p given.policer_id d).rules.next = _
      rw [policerDetached_rules, hd.next]
  refine .inr ?_
  rcases hcase with ⟨-, hout, -⟩ | ⟨d, hd, hpol⟩
  · exact ⟨p, present, modify, given, given.policer_id, hupd, hgiven _ hout⟩
  rcases aclRulePolicerUpdate_cases hpol with ⟨-, rfl⟩ | ⟨-, -, -, -, hx2⟩ | ⟨-, -, hdone⟩
  · exact ⟨p, present, modify, given, given.policer_id, hupd, hgiven _ hd⟩
  · refine ⟨p, present, modify, given, given.policer_id, hupd, ?_⟩
    rw [hx2]
    exact hgiven _ hd
  rcases hdone with ⟨-, -, -, hx2⟩ | ⟨-, rfl⟩
  · refine ⟨p, present, modify, given, modify.policer_id, hupd, ?_⟩
    rw [hx2]
    exact hpolicer d _ (hgiven d hd)
  have hw := hpolicer d modify.policer_id (hgiven d hd)
  refine ⟨p, present, modify, given, modify.policer_id, hupd, ⟨?_, ?_, ?_, ?_⟩⟩
  · intro q
    rw [policerAttached_rules]
    exact hw.rules q
  · intro r
    rw [policerAttached_rule_tree]
    exact hw.rule_tree r
  · intro t
    rw [policerAttached_listsOf]
    exact hw.lists t
  · rw [policerAttached_rules]
    exact hw.next

/-- **Everything that a call can do** to rules. -/
inductive AclRuleSteps (db db' : AclDb) : AclRuleOpCall → Prop where
  | same {c : AclRuleOpCall} (hs : SameAcl db db') : AclRuleSteps db db' c
  | stuck {e : AclEnv} {attrs : List AclAttr} {rule : AclRule} (hs : RuleStuck e attrs db db' rule) :
      AclRuleSteps db db' ⟨e, .create attrs⟩
  | created {e : AclEnv} {attrs : List AclAttr} {rule : AclRule} (hc : RuleCreated e attrs db db' rule) :
      AclRuleSteps db db' ⟨e, .create attrs⟩
  | moved {e : AclEnv} {id : Oid} {p : Ptr} {rule : AclRule} (hm : RuleMoved e id db db' p rule) :
      AclRuleSteps db db' ⟨e, .delete id⟩
  | deleted {e : AclEnv} {id : Oid} {p : Ptr} {rule : AclRule} (hd : RuleDeleted e id db db' p rule) :
      AclRuleSteps db db' ⟨e, .delete id⟩
  | rewritten {e : AclEnv} {id policer_id : Oid} {attr : AclAttr} {p : Ptr} {present modify given : AclRule}
      (hupd : RuleUpdated e id attr db p present modify given)
      (hw : RuleRewritten db db' p { given with policer_id := policer_id }) : AclRuleSteps db db' ⟨e, .set id attr⟩

theorem aclRuleStep_does (c) (db) : AclRuleSteps db (aclRuleStep c db) c := by
  obtain ⟨env, op⟩ := c
  cases op with
  | create attrs =>
    rcases aclRuleCreate_cases (rfl : aclRuleCreate env attrs db = _) with ⟨-, hs⟩ | ⟨-, _, hs⟩ | ⟨-, _, hc⟩
    · exact .same hs
    · exact .stuck hs
    · exact .created hc
  | delete acl_id =>
    rcases aclRuleDelete_cases (rfl : aclRuleDelete env acl_id db = _) with ⟨-, hs⟩ | ⟨-, _, _, hm⟩ | ⟨-, _, _, hd⟩
    · exact .same hs
    · exact .moved hm
    · exact .deleted hd
  | set acl_id attr =>
    rcases aclRuleSet_rewritten (rfl : aclRuleSet env acl_id attr db = _) with
      ⟨-, hout⟩ | ⟨_, _, _, _, _, hupd, hw⟩
    · exact .same (.of_outside hout)
    · exact .rewritten hupd hw

end OpxSai
