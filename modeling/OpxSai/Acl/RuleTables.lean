import OpxSai.Acl.RuleOrder
import OpxSai.Acl.TablePriority

/-!
# Rules and their tables, step by step

A create of a rule looks up its table before it takes the lock, and works on the node that it found. The
table counts the rule at the end only, so that it can be deleted in between.

* `RuleTableSys` — the module, with the creates between look-up and lock;
* `RulesTabled` — each rule is on the list of a live table, and no node is used that was freed;
* `RuleTableFits` — the condition: a table that is deleted is held by no create;
* `rulesTabled_of_run` — the main result.
-/

namespace OpxSai

open AclDb
variable {attrs : List AclTableAttr} {env : AclTableEnv}

/-! ## The steps -/

/-- The module. The node of a table is told from others by its id and by how many had the id before. -/
structure RuleTableSys where
  db : AclTableDb
  made : Oid → Nat
  /-- The attributes, the table and its node that a caller holds. -/
  held : Nat → Option (List AclAttr × Oid × Nat)
  /-- A create has used a node that was freed. -/
  used_freed : Bool

/-- Whole locked sections, and the two steps of a create of a rule. A create of a table has two as well. -/
inductive RuleTableOp where
  | tableValidate (caller : Nat) (env : AclTableEnv) (attr_list : List AclTableAttr)
  | tableCreate (caller : Nat) (env : AclTableEnv)
  | tableDelete (env : AclTableEnv) (table_id : Oid)
  | ruleLookup (caller : Nat) (attr_list : List AclAttr)
  | ruleCreate (caller : Nat) (env : AclEnv)
  | ruleDelete (env : AclEnv) (acl_id : Oid)
  | ruleSet (env : AclEnv) (acl_id : Oid) (attr : AclAttr)

def RuleTableSys.withTables (s : RuleTableSys) (db : AclTableDb) : RuleTableSys :=
  { s with
    db := db
    made := fun t =>
      if (s.db.acl.table_tree t).isNone ∧ (db.acl.table_tree t).isSome then s.made t + 1 else s.made t }

def RuleTableSys.withAcl (s : RuleTableSys) (acl : AclDb) : RuleTableSys := { s with db := { s.db with acl := acl } }

def RuleTableSys.setHeld (caller : Nat) (x : Option (List AclAttr × Oid × Nat)) (s : RuleTableSys) : RuleTableSys :=
  { s with held := fun c => if c = caller then x else s.held c }

/-- `sai_create_acl_rule` before the lock: the check of the attributes, and the table. -/
def aclRuleLookup (caller : Nat) (attr_list : List AclAttr) (s : RuleTableSys) : RuleTableSys :=
  if attr_list = [] ∨ (s.held caller).isSome then s
  else
    match aclCheckRuleAttributes 0 ⟨0, 0, .null⟩ attr_list with
    | .error _ => s
    | .ok counts =>
      if counts.field_count = 0 ∨ (s.db.acl.table_tree counts.acl_table_id).isNone then s
      else s.setHeld caller (some (attr_list, counts.acl_table_id, s.made counts.acl_table_id))

/-- `sai_create_acl_rule` from the allocation on. It does not look the table up again: while the node is
live, that finds it; after that, the node that is used is free. -/
def aclRuleCreateLocked (caller : Nat) (env : AclEnv) (s : RuleTableSys) : RuleTableSys :=
  match s.held caller with
  | none => s
  | some (attr_list, table_id, node) =>
    let s := s.setHeld caller none
    if !env.avail .rule then s
    else if (s.db.acl.table_tree table_id).isSome ∧ s.made table_id = node then
      s.withAcl (aclRuleStep ⟨env, .create attr_list⟩ s.db.acl)
    else { s with used_freed := true }

def ruleTableStep (op : RuleTableOp) (s : RuleTableSys) : RuleTableSys :=
  match op with
  | .tableValidate caller env attr_list => s.withTables (aclTableValidate caller env attr_list s.db)
  | .tableCreate caller env => s.withTables (aclTableCreate caller env s.db)
  | .tableDelete env table_id => s.withTables (aclTableDelete env table_id s.db).2
  | .ruleLookup caller attr_list => aclRuleLookup caller attr_list s
  | .ruleCreate caller env => aclRuleCreateLocked caller env s
  | .ruleDelete env acl_id => s.withAcl (aclRuleStep ⟨env, .delete acl_id⟩ s.db.acl)
  | .ruleSet env acl_id attr => s.withAcl (aclRuleStep ⟨env, .set acl_id attr⟩ s.db.acl)

/-- **Rules and tables.** The set and the get of a rule assert that its table is found. -/
structure RulesTabled (s : RuleTableSys) : Prop where
  unfreed : s.used_freed = false
  listed : ∀ r p, s.db.acl.rule_tree r = some p → ∃ rule table, s.db.acl.rules.get p = some rule ∧
    s.db.acl.table_tree rule.table_id = some table ∧ p ∈ table.rule_head
  asserted : ∀ r p rule, aclRuleFind r s.db.acl = some (p, rule) → (s.db.acl.table_tree rule.table_id).isSome

/-- **The condition.** A table that a delete does not refuse is held by no create of a rule, and its count of
rules, of 32 bits, has not come round to zero. -/
def RuleTableFits (op : RuleTableOp) (s : RuleTableSys) : Prop :=
  match op with
  | .tableDelete _ table_id => ∀ table, s.db.acl.table_tree table_id = some table → table.rule_count = 0 →
      (s.db.table_info table_id).num_counters = 0 →
      table.rule_head.length < 2 ^ 32 ∧ ∀ caller attr_list node, s.held caller ≠ some (attr_list, table_id, node)
  | _ => True

/-! ## Lists and tables -/

def RulesCounted (db : AclDb) : Prop := ∀ t l, db.listsOf t = some l → l.2 = BitVec.ofNat 32 l.1.length

section Lists

variable {db db' : AclDb}

theorem aclRuleStep_counted (h : RulesOk db) (hcount : RulesCounted db) {c} :
    RulesCounted (aclRuleStep c db) ∧ ∀ t, ((aclRuleStep c db).listsOf t).isSome = (db.listsOf t).isSome := by
  have hsame : ∀ {db'}, (∀ t, db'.listsOf t = db.listsOf t) →
      RulesCounted db' ∧ ∀ t, (db'.listsOf t).isSome = (db.listsOf t).isSome :=
    fun hlists => ⟨fun t l hl => hcount t l (hlists t ▸ hl), fun t => by rw [hlists]⟩
  cases aclRuleStep_does c db with
  | same hs => exact hsame hs.lists
  | stuck hstuck => exact hsame fun t => (hstuck.same.lists t).trans (by simp)
  | @created env _ _ hc =>
    refine ⟨fun t l' hl' => ?_, fun t => ?_⟩
    · obtain ⟨l, hl, ⟨-, rfl⟩ | ⟨-, rfl⟩⟩ := RulesOk.created_list hc hl'
      · rw [env.dll_insert.length, BitVec.ofNat_add, hcount t l hl]
        rfl
      · exact hcount t _ hl
    · rw [hc.lists]
      split
      · exact Option.isSome_map
      · rfl
  | moved hm => exact hsame fun t => hm.same.lists t
  | deleted hd =>
    refine ⟨fun t l' hl' => ?_, fun t => ?_⟩
    · obtain ⟨l, hl, ⟨-, hin, rfl⟩ | ⟨-, rfl⟩⟩ := RulesOk.deleted_list hd hl'
      · have hlength := List.length_erase_add_one hin
        rw [hcount t l hl, ← hlength, BitVec.ofNat_add]
        exact BitVec.add_sub_cancel ..
      · exact hcount t _ hl
    · rw [hd.lists]
      split
      · exact Option.isSome_map
      · rfl
  | rewritten _ hw => exact hsame hw.lists

theorem RulesOk.tables (h : RulesOk db) {table_tree : Oid → Option AclTable}
    (hkept : ∀ p rule, db.rules.get p = some rule → table_tree rule.table_id = db.table_tree rule.table_id)
    (hnew : ∀ t table, table_tree t = some table →
      db.table_tree t = some table ∨ (table.rule_head = [] ∧ db.table_tree t = none)) :
    RulesOk { db with table_tree := table_tree } := by
  have hlist : ∀ t l, AclDb.listsOf { db with table_tree := table_tree } t = some l →
      db.listsOf t = some l ∨ (l.1 = [] ∧ db.table_tree t = none) := by
    intro t l hl
    obtain ⟨table, htable, rfl⟩ := Option.map_eq_some_iff.mp hl
    rcases hnew t table htable with hold | hempty
    · exact .inl (congrArg (Option.map _) hold)
    · exact .inr hempty
  refine ⟨h.live, h.tree, h.typed, fun p rule hp => ?_, fun t l hl p => ?_, fun t l hl => ?_⟩
  · have htabled := h.tabled p _ hp
    unfold AclDb.listsOf at htabled ⊢
    dsimp only
    rwa [hkept p rule hp]
  · rcases hlist t l hl with hold | ⟨hnil, hnone⟩
    · exact h.listed t l hold p
    rw [hnil]
    refine ⟨fun hp => absurd hp List.not_mem_nil, fun ⟨rule, hp, ht⟩ => ?_⟩
    have htabled := h.tabled p _ hp
    rw [AclDb.listsOf, ht, hnone] at htabled
    cases htabled
  · rcases hlist t l hl with hold | ⟨hnil, -⟩
    · exact h.nodup t l hold
    · rw [hnil]
      exact List.nodup_nil

/-- A table that counts nothing has no rules, unless they are too many to count. -/
theorem RulesCounted.nil (h : RulesCounted db) {t} {table} (ht : db.table_tree t = some table)
    (hzero : table.rule_count = 0) (hfew : table.rule_head.length < 2 ^ 32) : table.rule_head = [] := by
  have hcount : table.rule_count = BitVec.ofNat 32 table.rule_head.length :=
    h t (table.rule_head, table.rule_count) (congrArg (Option.map _) ht)
  have hnat := congrArg BitVec.toNat (hcount.symm.trans hzero)
  rw [BitVec.toNat_ofNat, Nat.mod_eq_of_lt hfew] at hnat
  exact List.length_eq_zero_iff.mp hnat

theorem aclTablePopulateAttrs_empty {n index : Nat}
    {new new'} (h : aclTablePopulateAttrs env n index attrs new = .ok new') :
    new'.table.rule_head = new.table.rule_head ∧ new'.table.rule_count = new.table.rule_count := by
  induction attrs generalizing index new with
  | nil =>
    cases h
    exact ⟨rfl, rfl⟩
  | cons attr attrs ih =>
    simp only [aclTablePopulateAttrs] at h
    split at h
    · cases h
    rename_i mid hmid
    have hmid : mid.table.rule_head = new.table.rule_head ∧ mid.table.rule_count = new.table.rule_count := by
      cases attr with
      | udfField k oid =>
        simp only [aclTablePopulateAttr] at hmid
        split at hmid
        · cases hmid
        split at hmid
        · cases hmid
        cases hmid
        exact ⟨rfl, rfl⟩
      | stage _ | priority _ | size _ | groupId _ | actionList _ | field _ | unknown _ | outOfRange _ =>
        cases hmid
        exact ⟨rfl, rfl⟩
    exact ⟨(ih h).1.trans hmid.1, (ih h).2.trans hmid.2⟩

theorem aclTableMake_empty {counts} {db} {table_idx : Nat} {new}
    (h : aclTableMake env attrs counts db = .ok (table_idx, new)) :
    new.table.rule_head = [] ∧ new.table.rule_count = 0 := by
  unfold aclTableMake at h
  split at h
  · cases h
  rename_i made hmade
  dsimp only at h
  split at h
  · cases h
  split at h
  · cases h
  split at h
  · cases h
  rename_i new' hid
  obtain ⟨-, rfl⟩ : _ ∧ new' = new := by simpa using Except.ok.inj h
  unfold aclTablePopulate at hmade
  split at hmade
  · cases hmade
  split at hmade
  · cases hmade
  have hempty := aclTablePopulateAttrs_empty hmade
  unfold aclTableIdCreate at hid
  dsimp only at hid
  split at hid <;> split at hid
  all_goals
    try split at hid
    all_goals first
      | cases hid; done
      | (obtain rfl := Except.ok.inj hid; exact hempty)

end Lists

/-! ## The invariant -/

/-- Rules, lists and counts agree, and what is held is live. -/
structure RuleTablesInv (s : RuleTableSys) : Prop where
  rules : RulesOk s.db.acl
  counted : RulesCounted s.db.acl
  held : ∀ caller attr_list t node, s.held caller = some (attr_list, t, node) →
    (s.db.acl.table_tree t).isSome ∧ s.made t = node
  unfreed : s.used_freed = false

section Steps

variable {s : RuleTableSys}

theorem RuleTablesInv.ruleStep (h : RuleTablesInv s) {c} :
    RuleTablesInv (s.withAcl (aclRuleStep c s.db.acl)) := by
  obtain ⟨hcounted, htables⟩ := aclRuleStep_counted h.rules h.counted
  refine ⟨h.rules.step, hcounted, fun caller attr_list t node hheld => ?_, h.unfreed⟩
  obtain ⟨hlive, hnode⟩ := h.held _ _ t _ hheld
  have hlists := htables t
  unfold AclDb.listsOf at hlists
  rw [Option.isSome_map, Option.isSome_map] at hlists
  exact ⟨hlists.trans hlive, hnode⟩

theorem RuleTablesInv.release (h : RuleTablesInv s) {caller : Nat} : RuleTablesInv (s.setHeld caller none) :=
  ⟨h.rules, h.counted, fun c attr_list t node hheld => by
    simp only [RuleTableSys.setHeld] at hheld
    split at hheld
    · cases hheld
    · exact h.held c _ t _ hheld, h.unfreed⟩

/-- **The tables change**: those of rules and those that are held stay, and a new one is empty. -/
theorem RuleTablesInv.tables (h : RuleTablesInv s) {db} {table_tree : Oid → Option AclTable}
    (hacl : db.acl = { s.db.acl with table_tree := table_tree })
    (hkept : ∀ p rule, s.db.acl.rules.get p = some rule → table_tree rule.table_id = s.db.acl.table_tree rule.table_id)
    (hnew : ∀ t table, table_tree t = some table → s.db.acl.table_tree t = some table ∨
      (table.rule_head = [] ∧ table.rule_count = 0 ∧ s.db.acl.table_tree t = none))
    (hheld : ∀ caller attr_list t node, s.held caller = some (attr_list, t, node) → (table_tree t).isSome) :
    RuleTablesInv (s.withTables db) := by
  have hrules := h.rules.tables hkept fun t table ht => (hnew t table ht).imp id fun hempty => ⟨hempty.1, hempty.2.2⟩
  rw [← hacl] at hrules
  refine ⟨hrules, fun t l hl => ?_, fun caller attr_list t node hc => ?_, h.unfreed⟩
  · change db.acl.listsOf t = some l at hl
    rw [hacl] at hl
    obtain ⟨table, htable, rfl⟩ := Option.map_eq_some_iff.mp hl
    rcases hnew t table htable with hold | ⟨hnil, hzero, -⟩
    · exact h.counted t (table.rule_head, table.rule_count) (congrArg (Option.map _) hold)
    dsimp only
    rw [hnil, hzero]
    rfl
  · obtain ⟨hlive, hnode⟩ := h.held caller attr_list t node hc
    refine ⟨?_, ?_⟩
    · show (db.acl.table_tree t).isSome = true
      rw [hacl]
      exact hheld caller attr_list t node hc
    · show (if (s.db.acl.table_tree t).isNone = true ∧ _ then s.made t + 1 else s.made t) = node
      rw [if_neg, hnode]
      rintro ⟨hnone, -⟩
      rw [Option.isNone_iff_eq_none.mp hnone] at hlive
      cases hlive

theorem RuleTablesInv.sameTables (h : RuleTablesInv s) {db} (hacl : db.acl = s.db.acl) :
    RuleTablesInv (s.withTables db) :=
  @RuleTablesInv.tables s h db s.db.acl.table_tree hacl (fun _ _ _ => rfl) (fun _ _ ht => .inl ht)
    fun caller attr_list t node hc => (h.held _ _ t _ hc).1

theorem RuleTablesInv.tableCreate (h : RuleTablesInv s) {caller : Nat} :
    RuleTablesInv (s.withTables (aclTableCreate caller env s.db)) := by
  unfold aclTableCreate
  split
  · exact h.sameTables rfl
  rename_i attr_list counts _
  rcases aclTableCreateLocked_cases env _ _ _ with
    heq | ⟨table_idx, new, -, -, hmake, hnone, heq⟩
  · rw [heq]
    exact h.sameTables rfl
  have hempty := aclTableMake_empty hmake
  change s.db.acl.table_tree (uoidCreate .aclTable (table_idx + 1)) = none at hnone
  have hlive : ∀ t, (s.db.acl.table_tree t).isSome → (if t = uoidCreate .aclTable (table_idx + 1) then some new.table
      else s.db.acl.table_tree t) = s.db.acl.table_tree t := by
    intro t ht
    rw [if_neg]
    rintro rfl
    rw [hnone] at ht
    cases ht
  rw [heq]
  refine @RuleTablesInv.tables s h (AclTableDb.addTable (s.db.setPending caller none) table_idx new) _ rfl
    (fun p rule hp => hlive _ ?_) (fun t table ht => ?_) fun c attrs t node hc => ?_
  · have htabled := h.rules.tabled p _ hp
    rwa [AclDb.listsOf, Option.isSome_map] at htabled
  · split at ht
    next hid =>
      cases ht
      exact .inr ⟨hempty.1, hempty.2, hid ▸ hnone⟩
    · exact .inl ht
  · have htable := (h.held c _ t _ hc).1
    exact (congrArg Option.isSome (hlive t htable)).trans htable

theorem RuleTablesInv.tableDelete (h : RuleTablesInv s) {table_id}
    (hfits : RuleTableFits (.tableDelete env table_id) s) :
    RuleTablesInv (s.withTables (aclTableDelete env table_id s.db).2) := by
  rcases aclTableDelete_cases env _ _ with heq | ⟨table, table_in_use, htable, hcount, hnum, heq⟩
  · rw [heq]
    exact h.sameTables rfl
  obtain ⟨hfew, hfree⟩ := hfits table htable hcount hnum
  have hnil := h.counted.nil htable hcount hfew
  rw [heq]
  refine @RuleTablesInv.tables s h { aclTableRemove table_id s.db with table_in_use := table_in_use } _ rfl
    (fun p rule hp => if_neg ?_) (fun t table' ht => ?_) fun c attrs t node hc => ?_
  · -- a rule of the table would be on its list
    rintro rfl
    have hlisted := (h.rules.listed _ _ (congrArg (Option.map _) htable) p).mpr ⟨rule, hp, rfl⟩
    dsimp only at hlisted
    rw [hnil] at hlisted
    cases hlisted
  · split at ht
    · cases ht
    · exact .inl ht
  · rw [if_neg]
    · exact (h.held c _ t _ hc).1
    · rintro rfl
      exact hfree c attrs node hc

theorem RuleTablesInv.step (h : RuleTablesInv s) {op} (hfits : RuleTableFits op s) :
    RuleTablesInv (ruleTableStep op s) := by
  cases op with
  | tableValidate caller env attr_list => exact h.sameTables (aclTableValidate_tables _ env _ _).1
  | tableCreate caller env => exact h.tableCreate
  | tableDelete env table_id => exact h.tableDelete hfits
  | ruleDelete env acl_id => exact h.ruleStep
  | ruleSet env acl_id attr => exact h.ruleStep
  | ruleLookup caller attr_list =>
    simp only [ruleTableStep, aclRuleLookup]
    split
    · exact h
    split
    · exact h
    split
    · exact h
    rename_i counts _ hfound
    refine ⟨h.rules, h.counted, fun c attrs t node hc => ?_, h.unfreed⟩
    simp only [RuleTableSys.setHeld] at hc
    split at hc
    · cases hc
      have hlive : (s.db.acl.table_tree counts.acl_table_id).isSome = true := by
        by_contra hnone
        exact hfound (.inr (by simpa using hnone))
      exact ⟨hlive, rfl⟩
    · exact h.held c _ t _ hc
  | ruleCreate caller env =>
    simp only [ruleTableStep, aclRuleCreateLocked]
    split
    · exact h
    rename_i attr_list table_id node hheld
    split
    · exact h.release
    split
    · exact h.release.ruleStep
    next hgone => exact absurd (h.held _ _ _ _ hheld) hgone

theorem RuleTablesInv.tabled (h : RuleTablesInv s) : RulesTabled s := by
  have htable : ∀ p rule, s.db.acl.rules.get p = some rule →
      ∃ table, s.db.acl.table_tree rule.table_id = some table ∧ p ∈ table.rule_head := by
    intro p rule hp
    obtain ⟨l, hl⟩ := Option.isSome_iff_exists.mp (h.rules.tabled p _ hp)
    have hmem := (h.rules.listed _ l hl p).mpr ⟨rule, hp, rfl⟩
    obtain ⟨table, htable, rfl⟩ := Option.map_eq_some_iff.mp hl
    exact ⟨table, htable, hmem⟩
  refine ⟨h.unfreed, fun r p hr => ?_, fun r p rule hfind => ?_⟩
  · obtain ⟨rule, hp, -⟩ := h.rules.tree r p hr
    obtain ⟨table, ht, hmem⟩ := htable p rule hp
    exact ⟨rule, table, hp, ht, hmem⟩
  · obtain ⟨table, ht, -⟩ := htable p rule (aclRuleFind_some hfind).2
    rw [ht]
    rfl

end Steps

/-! ## Runs -/

/-- **Rules have live tables**, in every interleaving in which no table is deleted that a create holds. -/
theorem rulesTabled_of_run {db₀ : AclTableDb} (hempty : NoRules db₀.acl) (made : Oid → Nat) {s : RuleTableSys}
    (hrun : Run ruleTableStep RuleTableFits ⟨db₀, made, fun _ => none, false⟩ s) : RulesTabled s := by
  refine (hrun.induct (P := RuleTablesInv) (fun op _ h hfits => h.step hfits) ?_).tabled
  refine ⟨.empty hempty, fun t l hl => ?_, nofun, rfl⟩
  rw [hempty.lists t l hl]
  rfl

def lookedUp : List RuleTableOp :=
  [.tableValidate 0 .good (ingressTable 10), .tableCreate 0 .good,
    .ruleLookup 1 (prioritisedRule (uoidCreate .aclTable 1) 5)]

def noTables : RuleTableSys := ⟨.initial 2, fun _ => 0, fun _ => none, false⟩

/-- The rule is created, and the table is not deleted. -/
theorem rulesTabled_of_run_created : RulesTabled
    (ruleTableStep (.tableDelete .good (uoidCreate .aclTable 1))
      (ruleTableStep (.ruleCreate 1 (.good (fun _ => .invalid) []))
        (lookedUp.foldl (fun s op => ruleTableStep op s) noTables))) := by
  refine @rulesTabled_of_run (.initial 2) ⟨fun _ => rfl, fun _ => rfl, nofun⟩ (fun _ => 0) _ ?_
  have htable : Run ruleTableStep RuleTableFits noTables _ :=
    (Run.one (.tableValidate 0 .good (ingressTable 10)) (by trivial)).snoc (.tableCreate 0 .good) (by trivial)
  have hrule := (htable.snoc (.ruleLookup 1 (prioritisedRule (uoidCreate .aclTable 1) 5)) (by trivial)).snoc
    (.ruleCreate 1 (.good (fun _ => .invalid) [])) (by trivial)
  refine hrule.snoc (.tableDelete .good (uoidCreate .aclTable 1)) (by
    intro table ht hzero _
    have hcount := (congrArg (Option.map AclTable.rule_count) ht).symm.trans (show _ = some (1 : BitVec 32) from rfl)
    rw [Option.map_some, hzero] at hcount
    cases Option.some.inj hcount)

/-- The table is deleted between the look-up and the lock. -/
theorem not_rulesTabled : ¬ ∀ (db₀ : AclTableDb), NoRules db₀.acl → ∀ (made : Oid → Nat) (s : RuleTableSys),
    Run ruleTableStep (fun _ _ => True) ⟨db₀, made, fun _ => none, false⟩ s → RulesTabled s := by
  intro h
  have htable : Run ruleTableStep (fun _ _ => True) noTables _ :=
    (Run.one (.tableValidate 0 .good (ingressTable 10)) trivial).snoc (.tableCreate 0 .good) trivial
  have hdeleted := (htable.snoc (.ruleLookup 1 (prioritisedRule (uoidCreate .aclTable 1) 5)) trivial).snoc
    (.tableDelete .good (uoidCreate .aclTable 1)) trivial
  have hrun := hdeleted.snoc (.ruleCreate 1 (.good (fun _ => .invalid) [])) trivial
  have hfreed := (h (.initial 2) ⟨fun _ => rfl, fun _ => rfl, nofun⟩ _ _ hrun).unfreed
  revert hfreed
  decide

end OpxSai
